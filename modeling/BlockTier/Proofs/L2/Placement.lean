import BlockTier.L2.Ring
import BlockTier.Proofs.SortedTable
/-!
Whom a ring places keys on: only nodes that are up in the list that it was built from, and someone
as soon as there is one.
-/
namespace BlockTier

/-- What a fold adds to a list comes from what it folds over. -/
theorem mem_foldl_of_step {α : Type} {f : List α → α → List α} {entries init : List α} {x : α}
    (step : ∀ l b, ∀ y ∈ f l b, y = b ∨ y ∈ l) (member : x ∈ entries.foldl f init) :
    x ∈ entries ∨ x ∈ init := by
  induction entries generalizing init with
  | nil => exact Or.inr member
  | cons e rest ih =>
    rcases ih member with later | now
    · exact Or.inl (List.mem_cons_of_mem _ later)
    · rcases step init e x now with rfl | before
      · exact Or.inl List.mem_cons_self
      · exact Or.inr before

theorem foldl_eq_nil_iff {α : Type} {f : List α → α → List α} {entries init : List α}
    (step : ∀ l b, f l b ≠ []) : entries.foldl f init = [] ↔ entries = [] ∧ init = [] := by
  induction entries generalizing init with
  | nil => simp
  | cons e rest ih =>
    rw [List.foldl_cons, ih]
    exact ⟨fun both => absurd both.2 (step init e), fun both => nomatch both.1⟩

namespace Table

variable {β : Type} {entries : List (String × β)}

theorem insert_ne_nil (t : Table β) (k : String) (v : β) : t.insert k v ≠ [] := by
  cases t with
  | nil => exact List.cons_ne_nil _ _
  | cons first rest =>
    unfold insert
    split
    · exact List.cons_ne_nil _ _
    · split <;> exact List.cons_ne_nil _ _

theorem mem_of_mem_ofList {e : String × β} (member : e ∈ ofList entries) : e ∈ entries := by
  rcases mem_foldl_of_step (fun _ _ _ => mem_insert) member with entered | absent
  · exact entered
  · cases absent

theorem ofList_eq_nil_iff : ofList entries = [] ↔ entries = [] := by
  rw [ofList, foldl_eq_nil_iff (fun t e => insert_ne_nil t e.1 e.2)]
  exact and_iff_left rfl

end Table

namespace L2.Ring

variable {hash : Hash} {virtualNodes : Nat} {nodes members : List Node} {node : Node} {h : UInt64}

theorem mem_insertPosition {p q : Position} {ps : List Position}
    (member : q ∈ insertPosition p ps) : q = p ∨ q ∈ ps := by
  induction ps with
  | nil => exact Or.inl (List.mem_singleton.mp member)
  | cons first rest ih =>
    simp only [insertPosition] at member
    split at member
    · exact Or.inr member
    · split at member
      · exact List.mem_cons.mp member
      · rcases List.mem_cons.mp member with rfl | later
        · exact Or.inr List.mem_cons_self
        · rcases ih later with same | before
          · exact Or.inl same
          · exact Or.inr (List.mem_cons_of_mem _ before)

theorem insertPosition_ne_nil (p : Position) (ps : List Position) : insertPosition p ps ≠ [] := by
  cases ps with
  | nil => exact List.cons_ne_nil _ _
  | cons first rest =>
    unfold insertPosition
    split
    · exact List.cons_ne_nil _ _
    · split <;> exact List.cons_ne_nil _ _

theorem mem_of_mem_placeAll {p : Position} (member : p ∈ placeAll hash virtualNodes members) :
    p.owner ∈ members := by
  rcases mem_foldl_of_step (fun _ _ _ => mem_insertPosition) member with entered | absent
  · obtain ⟨node, listed, at_node⟩ := List.mem_flatMap.mp entered
    obtain ⟨replica, _, rfl⟩ := List.mem_map.mp at_node
    exact listed
  · cases absent

theorem placeAll_eq_nil_iff (positive : 0 < virtualNodes) :
    placeAll hash virtualNodes members = [] ↔ members = [] := by
  rw [placeAll, foldl_eq_nil_iff (fun ps p => insertPosition_ne_nil p ps), and_iff_left rfl,
    List.flatMap_eq_nil_iff]
  constructor
  · intro nowhere
    apply List.eq_nil_iff_forall_not_mem.mpr
    intro node member
    have none_of_it := nowhere node member
    rw [positionsOf, List.map_eq_nil_iff, List.range_eq_nil] at none_of_it
    omega
  · rintro rfl node absent
    cases absent

theorem mem_of_mem_membersOf (member : node ∈ membersOf nodes) :
    node ∈ nodes ∧ node.isUp = true := by
  obtain ⟨e, entered, rfl⟩ := List.mem_map.mp member
  obtain ⟨up, listed, rfl⟩ := List.mem_map.mp (Table.mem_of_mem_ofList entered)
  exact List.mem_filter.mp listed

theorem membersOf_eq_nil_iff : membersOf nodes = [] ↔ ∀ node ∈ nodes, node.isUp = false := by
  rw [membersOf, Table.values, List.map_eq_nil_iff, Table.ofList_eq_nil_iff, List.map_eq_nil_iff,
    List.filter_eq_nil_iff]
  simp only [Bool.not_eq_true]

theorem ownerAt?_eq_none_iff (r : Ring) : r.ownerAt? h = none ↔ r.positions = [] := by
  unfold ownerAt?
  cases empty : r.positions with
  | nil => simp
  | cons first rest =>
    cases (first :: rest).find? (fun p => h ≤ p.place) <;> simp

theorem mem_of_ownerAt? {r : Ring} (owned : r.ownerAt? h = some node) :
    ∃ p ∈ r.positions, p.owner = node := by
  unfold ownerAt? at owned
  split at owned
  · rename_i p found
    cases owned
    exact ⟨p, List.mem_of_find?_eq_some found, rfl⟩
  · obtain ⟨p, first, rfl⟩ := Option.map_eq_some_iff.mp owned
    exact ⟨p, List.mem_of_head? first, rfl⟩

theorem withNodes_max (hash : Hash) (virtualNodes : Nat) (nodes : List Node) :
    withNodes hash (max virtualNodes 1) nodes = withNodes hash virtualNodes nodes := by
  simp only [withNodes, new, Nat.max_assoc, Nat.max_self]

theorem owner?_new (hash : Hash) (virtualNodes : Nat) (key : String) :
    (new virtualNodes).owner? hash key = none := rfl

/-- Keys go to nodes of the list that are up. -/
theorem mem_of_owner?_withNodes {key : String}
    (owned : (withNodes hash virtualNodes nodes).owner? hash key = some node) :
    node ∈ nodes ∧ node.isUp = true := by
  obtain ⟨p, placed, rfl⟩ := mem_of_ownerAt? owned
  exact mem_of_mem_membersOf (mem_of_mem_placeAll placed)

theorem owner?_withNodes_eq_none_iff {key : String} :
    (withNodes hash virtualNodes nodes).owner? hash key = none ↔
      ∀ node ∈ nodes, node.isUp = false := by
  have positive : 0 < max virtualNodes 1 := Nat.lt_of_lt_of_le Nat.zero_lt_one (Nat.le_max_right ..)
  rw [owner?, ownerAt?_eq_none_iff, ← membersOf_eq_nil_iff]
  exact placeAll_eq_nil_iff positive

end L2.Ring

end BlockTier
