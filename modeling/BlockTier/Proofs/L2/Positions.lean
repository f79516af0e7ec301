import BlockTier.Proofs.L2.Placement
import Mathlib.Data.List.Nodup
/-!
The positions of a ring by what its nodes lay claim to. A place that several nodes claim is the one
with the smallest id's, and a hash belongs to the first place that is reached from it.
-/
namespace BlockTier.L2.Ring

variable {hash : Hash} {virtualNodes : Nat} {nodes members : List Node} {node : Node}
  {ps entries : List Position} {p q : Position} {h place : UInt64}

theorem membersOf_increasing (nodes : List Node) :
    (membersOf nodes).Pairwise (fun a b => a.id < b.id) := by
  have sorted := Table.sorted_ofList ((nodes.filter Node.isUp).map (fun n => (n.id, n)))
  refine List.pairwise_map.mpr (List.Pairwise.imp_of_mem ?_ sorted)
  intro a b first second before
  obtain ⟨x, _, rfl⟩ := List.mem_map.mp (Table.mem_of_mem_ofList first)
  obtain ⟨y, _, rfl⟩ := List.mem_map.mp (Table.mem_of_mem_ofList second)
  exact before

theorem ids_nodup_of_increasing (increasing : members.Pairwise (fun a b => a.id < b.id)) :
    (members.map Node.id).Nodup :=
  List.pairwise_map.mpr (increasing.imp fun before => String.ne_of_lt before)

/-- Nodes that are up and have ids of their own are all members. -/
theorem membersOf_perm (once : (nodes.map Node.id).Nodup) (up : ∀ n ∈ nodes, n.isUp = true) :
    (membersOf nodes).Perm nodes := by
  have named : ((nodes.map (fun n => (n.id, n))).map Prod.fst).Nodup := by
    simpa only [List.map_map, Function.comp_def] using once
  have kept := Table.perm_ofList named
  have values := kept.map Prod.snd
  rw [List.map_map, Function.comp_def, List.map_id'] at values
  rwa [membersOf, List.filter_eq_self.mpr up]

/-! ### Places -/

def Ordered (ps : List Position) : Prop := ps.Pairwise (fun a b => a.place < b.place)

theorem Ordered.place_inj (ordered : Ordered ps) (first : p ∈ ps) (second : q ∈ ps)
    (same : p.place = q.place) : p = q := by
  have places : (ps.map Position.place).Nodup :=
    List.pairwise_map.mpr (ordered.imp fun before => UInt64.ne_of_lt before)
  exact List.inj_on_of_nodup_map places first second same

theorem Ordered.insertPosition (ordered : Ordered ps) (p : Position) :
    Ordered (insertPosition p ps) := by
  induction ps with
  | nil => exact List.pairwise_singleton _ _
  | cons first rest ih =>
    obtain ⟨above, later⟩ := List.pairwise_cons.mp ordered
    simp only [Ring.insertPosition]
    split
    · exact ordered
    · rename_i different
      split
      · rename_i before
        refine List.pairwise_cons.mpr ⟨fun q member => ?_, ordered⟩
        rcases List.mem_cons.mp member with rfl | member
        · exact before
        · exact UInt64.lt_trans before (above q member)
      · rename_i past
        refine List.pairwise_cons.mpr ⟨fun q member => ?_, ih later⟩
        rcases mem_insertPosition member with rfl | member
        · exact UInt64.lt_of_le_of_ne (UInt64.not_lt.mp past) (Ne.symm different)
        · exact above q member

/-- A position is entered unless its place is taken. -/
theorem mem_insertPosition_iff (ordered : Ordered ps) :
    q ∈ insertPosition p ps ↔ q ∈ ps ∨ q = p ∧ ∀ x ∈ ps, x.place ≠ p.place := by
  induction ps with
  | nil => simp [Ring.insertPosition]
  | cons first rest ih =>
    obtain ⟨above, later⟩ := List.pairwise_cons.mp ordered
    simp only [Ring.insertPosition]
    split
    · rename_i same
      refine ⟨Or.inl, fun member => ?_⟩
      rcases member with member | ⟨_, free⟩
      · exact member
      · exact absurd same.symm (free first List.mem_cons_self)
    · rename_i different
      split
      · rename_i before
        have free : ∀ x ∈ first :: rest, x.place ≠ p.place := by
          intro x member
          rcases List.mem_cons.mp member with rfl | member
          · exact Ne.symm different
          · exact (UInt64.ne_of_lt (UInt64.lt_trans before (above x member))).symm
        rw [List.mem_cons (a := q) (b := p)]
        exact ⟨fun member => member.symm.imp_right fun same => ⟨same, free⟩,
          fun member => member.symm.imp_left And.left⟩
      · rw [List.mem_cons, List.mem_cons, ih later, List.forall_mem_cons, or_assoc]
        have other : first.place ≠ p.place := Ne.symm different
        simp only [other, ne_eq, not_false_eq_true, true_and]

theorem exists_place_insertPosition (ordered : Ordered ps) (p : Position) (place : UInt64) :
    (∃ x ∈ insertPosition p ps, x.place = place) ↔
      p.place = place ∨ ∃ x ∈ ps, x.place = place := by
  simp only [mem_insertPosition_iff ordered]
  constructor
  · rintro ⟨x, member | ⟨rfl, _⟩, here⟩
    · exact Or.inr ⟨x, member, here⟩
    · exact Or.inl here
  · rintro (rfl | ⟨x, member, here⟩)
    · by_cases taken : ∃ x ∈ ps, x.place = p.place
      · obtain ⟨x, member, here⟩ := taken
        exact ⟨x, Or.inl member, here⟩
      · refine ⟨p, Or.inr ⟨rfl, fun x member here => taken ⟨x, member, here⟩⟩, rfl⟩
    · exact ⟨x, Or.inl member, here⟩

/-- Of several entries for a place the first one counts. -/
theorem mem_foldl_insertPosition_iff (ordered : Ordered ps) :
    q ∈ entries.foldl (fun ps p => insertPosition p ps) ps ↔
      q ∈ ps ∨ (¬ ∃ x ∈ ps, x.place = q.place) ∧
        entries.find? (fun p => p.place = q.place) = some q := by
  induction entries generalizing ps with
  | nil => simp
  | cons first rest ih =>
    rw [List.foldl_cons, ih (ordered.insertPosition first), exists_place_insertPosition ordered,
      mem_insertPosition_iff ordered, List.find?_cons]
    by_cases here : first.place = q.place
    · simp only [here, decide_true, true_or, not_true_eq_false, false_and, or_false,
        Option.some.injEq]
      refine or_congr_right ⟨?_, ?_⟩
      · rintro ⟨rfl, free⟩
        exact ⟨fun ⟨x, member, taken⟩ => free x member taken, rfl⟩
      · rintro ⟨free, rfl⟩
        exact ⟨rfl, fun x member taken => free ⟨x, member, taken⟩⟩
    · have other : q ≠ first := fun same => here (same ▸ rfl)
      simp only [here, other, decide_false, false_or, false_and, or_false]

theorem ordered_placeAll (hash : Hash) (virtualNodes : Nat) (members : List Node) :
    Ordered (placeAll hash virtualNodes members) := by
  have kept (entries ps : List Position) (ordered : Ordered ps) :
      Ordered (entries.foldl (fun ps p => insertPosition p ps) ps) := by
    induction entries generalizing ps with
    | nil => exact ordered
    | cons p rest ih => exact ih _ (ordered.insertPosition p)
  exact kept _ [] List.Pairwise.nil

/-- One of the node's labels hashes to the place. -/
def Claims (hash : Hash) (virtualNodes : Nat) (node : Node) (place : UInt64) : Prop :=
  ∃ replica < virtualNodes, hash (label node.id replica) = place

theorem mem_positionsOf_iff :
    p ∈ positionsOf hash virtualNodes node ↔
      Claims hash virtualNodes node p.place ∧ p.owner = node := by
  simp only [positionsOf, List.mem_map, List.mem_range, Claims]
  constructor
  · rintro ⟨replica, below, rfl⟩
    exact ⟨⟨replica, below, rfl⟩, rfl⟩
  · rintro ⟨⟨replica, below, here⟩, rfl⟩
    exact ⟨replica, below, by rw [here]⟩

theorem find?_positionsOf (hash : Hash) (virtualNodes : Nat) (node : Node) (place : UInt64) :
    ((positionsOf hash virtualNodes node).find? (fun p => p.place = place) = none ∧
        ¬ Claims hash virtualNodes node place) ∨
      (positionsOf hash virtualNodes node).find? (fun p => p.place = place) = some ⟨place, node⟩ ∧
        Claims hash virtualNodes node place := by
  cases found : (positionsOf hash virtualNodes node).find? (fun p => p.place = place) with
  | none =>
    refine Or.inl ⟨rfl, fun claims => ?_⟩
    have absent := List.find?_eq_none.mp found ⟨place, node⟩ (mem_positionsOf_iff.mpr ⟨claims, rfl⟩)
    exact absent (by simp)
  | some p =>
    have here : p.place = place := by simpa using List.find?_some found
    obtain ⟨claims, owner⟩ := mem_positionsOf_iff.mp (List.mem_of_find?_eq_some found)
    subst here owner
    exact Or.inr ⟨rfl, claims⟩

/-- Of the members that claim a place it is the one with the smallest id that has it. -/
theorem mem_placeAll_iff (increasing : members.Pairwise (fun a b => a.id < b.id)) :
    p ∈ placeAll hash virtualNodes members ↔
      p.owner ∈ members ∧ Claims hash virtualNodes p.owner p.place ∧
        ∀ m ∈ members, Claims hash virtualNodes m p.place → p.owner.id ≤ m.id := by
  rw [placeAll, mem_foldl_insertPosition_iff List.Pairwise.nil]
  simp only [List.not_mem_nil, false_and, exists_false, not_false_eq_true, true_and, false_or]
  induction members with
  | nil => simp
  | cons first rest ih =>
    obtain ⟨above, later⟩ := List.pairwise_cons.mp increasing
    rw [List.flatMap_cons, List.find?_append]
    rcases find?_positionsOf hash virtualNodes first p.place with ⟨absent, unclaimed⟩ |
      ⟨found, claimed⟩
    · rw [absent, Option.none_or, ih later]
      constructor
      · rintro ⟨member, claims, least⟩
        refine ⟨List.mem_cons_of_mem _ member, claims, fun m listed claimed => ?_⟩
        rcases List.mem_cons.mp listed with rfl | listed
        · exact absurd claimed unclaimed
        · exact least m listed claimed
      · rintro ⟨member, claims, least⟩
        rcases List.mem_cons.mp member with same | member
        · exact absurd (same ▸ claims) unclaimed
        · exact ⟨member, claims, fun m listed => least m (List.mem_cons_of_mem _ listed)⟩
    · rw [found, Option.some_or, Option.some.injEq]
      constructor
      · intro same
        have owner : p.owner = first := same ▸ rfl
        refine ⟨owner ▸ List.mem_cons_self, owner ▸ claimed, fun m listed _ => ?_⟩
        rw [owner]
        rcases List.mem_cons.mp listed with rfl | listed
        · exact String.le_refl _
        · exact String.not_lt.mp (String.lt_asymm (above m listed))
      · rintro ⟨member, _, least⟩
        rcases List.mem_cons.mp member with same | member
        · rw [← same]
        · exact absurd (above _ member) (String.not_lt.mpr (least first List.mem_cons_self claimed))

theorem exists_mem_placeAll_iff (increasing : members.Pairwise (fun a b => a.id < b.id)) :
    (∃ p ∈ placeAll hash virtualNodes members, p.place = place) ↔
      ∃ m ∈ members, Claims hash virtualNodes m place := by
  constructor
  · rintro ⟨p, placed, rfl⟩
    obtain ⟨member, claims, _⟩ := (mem_placeAll_iff increasing).mp placed
    exact ⟨p.owner, member, claims⟩
  · intro claimed
    have placed (p : Position) : p ∈ placeAll hash virtualNodes members ↔
        (members.flatMap (positionsOf hash virtualNodes)).find? (fun q => q.place = p.place) =
          some p := by
      rw [placeAll, mem_foldl_insertPosition_iff List.Pairwise.nil]
      simp
    obtain ⟨m, member, claims⟩ := claimed
    cases found : (members.flatMap (positionsOf hash virtualNodes)).find?
        (fun q => q.place = place) with
    | none =>
      have entered : (⟨place, m⟩ : Position) ∈ members.flatMap (positionsOf hash virtualNodes) :=
        List.mem_flatMap.mpr ⟨m, member, mem_positionsOf_iff.mpr ⟨claims, rfl⟩⟩
      exact absurd (List.find?_eq_none.mp found _ entered) (by simp)
    | some p =>
      have here : p.place = place := by simpa using List.find?_some found
      exact ⟨p, (placed p).mpr (here ▸ found), here⟩

/-! ### Looking up -/

/-- Going up from the hash, and round at the end, the position is the first one that is met. -/
structure Meets (ps : List Position) (h : UInt64) (p : Position) : Prop where
  mem : p ∈ ps
  first : (h ≤ p.place ∧ ∀ q ∈ ps, h ≤ q.place → p.place ≤ q.place) ∨
    (∀ q ∈ ps, q.place < h) ∧ ∀ q ∈ ps, p.place ≤ q.place

theorem Meets.unique (ordered : Ordered ps) (first : Meets ps h p) (second : Meets ps h q) :
    p = q := by
  apply ordered.place_inj first.mem second.mem
  rcases first.first with ⟨past, least⟩ | ⟨none_past, least⟩
  · rcases second.first with ⟨past', least'⟩ | ⟨none_past', _⟩
    · exact UInt64.le_antisymm (least q second.mem past') (least' p first.mem past)
    · exact absurd past (UInt64.not_le.mpr (none_past' p first.mem))
  · rcases second.first with ⟨past', _⟩ | ⟨_, least'⟩
    · exact absurd past' (UInt64.not_le.mpr (none_past q second.mem))
    · exact UInt64.le_antisymm (least q second.mem) (least' p first.mem)

theorem exists_meets {r : Ring} (ordered : Ordered r.positions) (nonempty : r.positions ≠ [])
    (h : UInt64) : ∃ p, Meets r.positions h p ∧ r.ownerAt? h = some p.owner := by
  unfold ownerAt?
  split
  · rename_i p found
    obtain ⟨past, before, after, parts, short⟩ := List.find?_eq_some_iff_append.mp found
    refine ⟨p, ⟨List.mem_of_find?_eq_some found, Or.inl ⟨by simpa using past, ?_⟩⟩, rfl⟩
    intro q member reached
    rw [parts] at member ordered
    rcases List.mem_append.mp member with earlier | later
    · exact absurd reached (by simpa using short q earlier)
    · rcases List.mem_cons.mp later with rfl | later
      · exact UInt64.le_refl _
      · have above := (List.pairwise_cons.mp (List.pairwise_append.mp ordered).2.1).1
        exact UInt64.le_of_lt (above q later)
  · rename_i none_past
    have short := List.find?_eq_none.mp none_past
    cases positions : r.positions with
    | nil => exact absurd positions nonempty
    | cons first rest =>
      rw [positions] at short ordered
      refine ⟨first, ⟨List.mem_cons_self, Or.inr ⟨fun q member => ?_, fun q member => ?_⟩⟩, rfl⟩
      · exact UInt64.not_le.mp (by simpa using short q member)
      · rcases List.mem_cons.mp member with rfl | later
        · exact UInt64.le_refl _
        · exact UInt64.le_of_lt ((List.pairwise_cons.mp ordered).1 q later)

theorem ownerAt?_eq_some_iff {r : Ring} (ordered : Ordered r.positions) :
    r.ownerAt? h = some node ↔ ∃ p, Meets r.positions h p ∧ p.owner = node := by
  by_cases empty : r.positions = []
  · rw [(ownerAt?_eq_none_iff r).mpr empty]
    refine ⟨fun absent => (nomatch absent), fun ⟨p, meets, _⟩ => ?_⟩
    exact absurd (empty ▸ meets.mem) List.not_mem_nil
  · obtain ⟨p, meets, owned⟩ := exists_meets ordered empty h
    rw [owned, Option.some.injEq]
    constructor
    · rintro rfl
      exact ⟨p, meets, rfl⟩
    · rintro ⟨q, meets', rfl⟩
      rw [meets.unique ordered meets']

end BlockTier.L2.Ring
