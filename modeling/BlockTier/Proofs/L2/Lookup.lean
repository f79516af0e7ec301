import BlockTier.Proofs.L2.Positions
import Mathlib.Order.Bounds.Defs
/-!
What a lookup comes to by its definition, given the list of the last update and no table. A ring is
built anew at every update, so nothing else of its history has a part in it.
-/
namespace BlockTier.L2.Ring

variable {hash : Hash} {virtualNodes : Nat} {nodes nodes' : List Node} {node : Node}
  {place h : UInt64} {key : String}

/-- The entry is the last one for its id that is up. -/
def LastUp (nodes : List Node) (node : Node) : Prop :=
  (nodes.filter (fun m => m.isUp && m.id = node.id)).getLast? = some node

/-- The places that a node of the list that is up lays claim to. -/
def places (hash : Hash) (virtualNodes : Nat) (nodes : List Node) : Set UInt64 :=
  {place | ∃ m ∈ nodes, m.isUp = true ∧ Claims hash virtualNodes m place}

/-- The least place at or past the hash, or the least one of all if there is none. -/
def FirstFrom (h : UInt64) (places : Set UInt64) (place : UInt64) : Prop :=
  IsLeast {q ∈ places | h ≤ q} place ∨ (∀ q ∈ places, q < h) ∧ IsLeast places place

/-- The node has the place, which it may have to share with nodes of larger ids. -/
structure Holds (hash : Hash) (virtualNodes : Nat) (nodes : List Node) (node : Node)
    (place : UInt64) : Prop where
  last : LastUp nodes node
  claims : Claims hash virtualNodes node place
  least : ∀ m ∈ nodes, m.isUp = true → Claims hash virtualNodes m place → node.id ≤ m.id

/-- The node that a key is looked up at, or that there is none. -/
structure LooksUp (hash : Hash) (virtualNodes : Nat) (nodes : List Node) (key : String)
    (found : Option Node) : Prop where
  none_iff : found = none ↔ ∀ m ∈ nodes, m.isUp = false
  some_iff : ∀ node, found = some node ↔
    ∃ place, FirstFrom (hash key) (places hash virtualNodes nodes) place ∧
      Holds hash virtualNodes nodes node place

/-! ### Members -/

theorem mem_membersOf_iff : node ∈ membersOf nodes ↔ LastUp nodes node := by
  have sorted := Table.sorted_ofList ((nodes.filter Node.isUp).map (fun n => (n.id, n)))
  have named : node ∈ membersOf nodes ↔
      (node.id, node) ∈ Table.ofList ((nodes.filter Node.isUp).map (fun n => (n.id, n))) := by
    constructor
    · intro member
      obtain ⟨e, entered, rfl⟩ := List.mem_map.mp member
      obtain ⟨n, _, rfl⟩ := List.mem_map.mp (Table.mem_of_mem_ofList entered)
      exact entered
    · exact List.mem_map_of_mem
  rw [named, ← sorted.find?_eq_some_iff, Table.find?_ofList, LastUp, List.filter_map,
    List.filter_filter, List.getLast?_map, Option.map_map]
  simp [Function.comp_def, Bool.and_comm]

theorem exists_lastUp {m : Node} (listed : m ∈ nodes) (up : m.isUp = true) :
    ∃ n, LastUp nodes n ∧ n.id = m.id := by
  have named : m ∈ nodes.filter (fun x => x.isUp && x.id = m.id) := by
    simp [listed, up]
  obtain ⟨n, last⟩ : ∃ n, (nodes.filter (fun x => x.isUp && x.id = m.id)).getLast? = some n :=
    List.getLast?_isSome.mpr (List.ne_nil_of_mem named) |> Option.isSome_iff_exists.mp
  have same : n.id = m.id := by
    have kept := List.mem_filter.mp (List.mem_of_getLast? last)
    simp_all
  exact ⟨n, by rwa [LastUp, same], same⟩

theorem Claims.of_id {m : Node} (claims : Claims hash virtualNodes m place)
    (same : node.id = m.id) : Claims hash virtualNodes node place := by
  rwa [Claims, same]

theorem exists_member_claims_iff :
    (∃ m ∈ membersOf nodes, Claims hash virtualNodes m place) ↔
      place ∈ places hash virtualNodes nodes := by
  constructor
  · rintro ⟨m, member, claims⟩
    obtain ⟨listed, up⟩ := mem_of_mem_membersOf member
    exact ⟨m, listed, up, claims⟩
  · rintro ⟨m, listed, up, claims⟩
    obtain ⟨n, last, same⟩ := exists_lastUp listed up
    exact ⟨n, mem_membersOf_iff.mpr last, claims.of_id same⟩

theorem mem_placeAll_membersOf_iff {p : Position} :
    p ∈ placeAll hash virtualNodes (membersOf nodes) ↔
      Holds hash virtualNodes nodes p.owner p.place := by
  rw [mem_placeAll_iff (membersOf_increasing nodes), mem_membersOf_iff]
  constructor
  · rintro ⟨last, claims, least⟩
    refine ⟨last, claims, fun m listed up claimed => ?_⟩
    obtain ⟨n, last', same⟩ := exists_lastUp listed up
    exact same ▸ least n (mem_membersOf_iff.mpr last') (claimed.of_id same)
  · rintro ⟨last, claims, least⟩
    refine ⟨last, claims, fun m member claimed => ?_⟩
    obtain ⟨listed, up⟩ := mem_of_mem_membersOf member
    exact least m listed up claimed

/-! ### Lookups -/

theorem meets_iff {ps : List Position} {p : Position} :
    Meets ps h p ↔ p ∈ ps ∧ FirstFrom h {place | ∃ q ∈ ps, q.place = place} p.place := by
  constructor
  · rintro ⟨member, ⟨past, least⟩ | ⟨short, least⟩⟩
    · refine ⟨member, Or.inl ⟨⟨⟨p, member, rfl⟩, past⟩, ?_⟩⟩
      rintro _ ⟨⟨q, listed, rfl⟩, reached⟩
      exact least q listed reached
    · refine ⟨member, Or.inr ⟨?_, ⟨p, member, rfl⟩, ?_⟩⟩
      · rintro _ ⟨q, listed, rfl⟩
        exact short q listed
      · rintro _ ⟨q, listed, rfl⟩
        exact least q listed
  · rintro ⟨member, ⟨⟨_, past⟩, least⟩ | ⟨short, _, least⟩⟩
    · exact ⟨member, Or.inl ⟨past, fun q listed reached => least ⟨⟨q, listed, rfl⟩, reached⟩⟩⟩
    · exact ⟨member, Or.inr ⟨fun q listed => short _ ⟨q, listed, rfl⟩,
        fun q listed => least ⟨q, listed, rfl⟩⟩⟩

theorem looksUp_withNodes (hash : Hash) (virtualNodes : Nat) (nodes : List Node) (key : String) :
    LooksUp hash (max virtualNodes 1) nodes key
      ((withNodes hash virtualNodes nodes).owner? hash key) := by
  have taken : {place | ∃ q ∈ placeAll hash (max virtualNodes 1) (membersOf nodes),
      q.place = place} = places hash (max virtualNodes 1) nodes := by
    ext place
    exact (exists_mem_placeAll_iff (membersOf_increasing nodes)).trans exists_member_claims_iff
  refine ⟨owner?_withNodes_eq_none_iff, fun node => ?_⟩
  refine (ownerAt?_eq_some_iff (ordered_placeAll ..)).trans ?_
  constructor
  · rintro ⟨p, meets, rfl⟩
    obtain ⟨placed, first⟩ := meets_iff.mp meets
    exact ⟨p.place, taken ▸ first, mem_placeAll_membersOf_iff.mp placed⟩
  · rintro ⟨place, first, holds⟩
    exact ⟨⟨place, node⟩, meets_iff.mpr ⟨mem_placeAll_membersOf_iff.mpr holds, taken ▸ first⟩, rfl⟩

/-! ### Histories -/

/-- A ring that has been given the lists one after the other. -/
def after (hash : Hash) (virtualNodes : Nat) (updates : List (List Node)) : Ring :=
  updates.foldl (update hash) (new virtualNodes)

@[simp] theorem virtualNodes_after (hash : Hash) (virtualNodes : Nat) (updates : List (List Node)) :
    (after hash virtualNodes updates).virtualNodes = max virtualNodes 1 := by
  induction updates using List.reverseRecOn with
  | nil => rfl
  | append_singleton updates nodes ih =>
    rw [after, List.foldl_append]
    exact ih

theorem after_concat (hash : Hash) (virtualNodes : Nat) (updates : List (List Node))
    (nodes : List Node) :
    after hash virtualNodes (updates ++ [nodes]) = withNodes hash virtualNodes nodes := by
  rw [after, List.foldl_append]
  change (after hash virtualNodes updates).update hash nodes = (new virtualNodes).update hash nodes
  simp only [update, virtualNodes_after]
  rfl

/-- The lists have the same entries for an id, in the same order. -/
def Rearranged (nodes nodes' : List Node) : Prop :=
  ∀ id, nodes'.filter (·.id = id) = nodes.filter (·.id = id)

theorem Rearranged.lastUp_iff (rearranged : Rearranged nodes nodes') :
    LastUp nodes' node ↔ LastUp nodes node := by
  have same : nodes'.filter (fun m => m.isUp && m.id = node.id) =
      nodes.filter (fun m => m.isUp && m.id = node.id) := by
    rw [← List.filter_filter, ← List.filter_filter, rearranged node.id]
  rw [LastUp, LastUp, same]

theorem rearranged_of_perm (once : (nodes.map Node.id).Nodup) (perm : nodes'.Perm nodes) :
    Rearranged nodes nodes' := by
  intro id
  have apart : nodes.Pairwise (fun a b => a.id ≠ b.id) := List.pairwise_map.mp once
  have apart' : nodes'.Pairwise (fun a b => a.id ≠ b.id) :=
    List.pairwise_map.mp ((perm.map Node.id).nodup_iff.mpr once)
  refine List.Perm.eq_of_pairwise ?_ (apart'.filter _) (apart.filter _) (perm.filter _)
  intro a b first second different _
  have left : a.id = id := by simpa using (List.mem_filter.mp first).2
  have right : b.id = id := by simpa using (List.mem_filter.mp second).2
  exact absurd (left.trans right.symm) different

theorem Rearranged.membersOf_eq (rearranged : Rearranged nodes nodes') :
    membersOf nodes' = membersOf nodes := by
  have distinct (list : List Node) : (membersOf list).Nodup :=
    (membersOf_increasing list).imp fun before => ne_of_apply_ne Node.id (String.ne_of_lt before)
  refine List.Perm.eq_of_pairwise ?_ (membersOf_increasing _) (membersOf_increasing _) ?_
  · intro a b _ _ before behind
    exact absurd behind (String.lt_asymm before)
  · apply (List.perm_ext_iff_of_nodup (distinct _) (distinct _)).mpr
    intro node
    rw [mem_membersOf_iff, mem_membersOf_iff, rearranged.lastUp_iff]

theorem Rearranged.withNodes_eq (rearranged : Rearranged nodes nodes') :
    withNodes hash virtualNodes nodes' = withNodes hash virtualNodes nodes := by
  simp only [withNodes, update, rearranged.membersOf_eq]

/-- A key is looked up in what the ring was given last, and nothing that was given before it, nor
giving it again, nor another order of ids makes a difference. -/
theorem owner?_after (hash : Hash) (virtualNodes : Nat) (updates : List (List Node))
    (nodes : List Node) (key : String) :
    let ring := after hash virtualNodes (updates ++ [nodes])
    LooksUp hash (max virtualNodes 1) nodes key (ring.owner? hash key) ∧
      (∀ earlier, (after hash virtualNodes (earlier ++ [nodes])).owner? hash key =
        ring.owner? hash key) ∧
      (ring.update hash nodes).owner? hash key = ring.owner? hash key ∧
      (∀ earlier nodes', Rearranged nodes nodes' →
        (after hash virtualNodes (earlier ++ [nodes'])).owner? hash key = ring.owner? hash key) ∧
      ∀ earlier nodes', (nodes.map Node.id).Nodup → nodes'.Perm nodes →
        (after hash virtualNodes (earlier ++ [nodes'])).owner? hash key =
          ring.owner? hash key := by
  intro ring
  have last : ring = withNodes hash virtualNodes nodes := after_concat ..
  have order (earlier : List (List Node)) {nodes' : List Node}
      (rearranged : Rearranged nodes nodes') :
      after hash virtualNodes (earlier ++ [nodes']) = ring := by
    rw [after_concat, rearranged.withNodes_eq, last]
  refine ⟨last ▸ looksUp_withNodes .., fun earlier => ?_, ?_, fun earlier _ rearranged => ?_,
    fun earlier _ once perm => ?_⟩
  · rw [after_concat, last]
  · rw [last]
    rfl
  · rw [order earlier rearranged]
  · rw [order earlier (rearranged_of_perm once perm)]

/-- Both ids share the place that "k" comes round to. The smaller one has it, by its last entry
that is up. -/
theorem owner?_after_round :
    let hash : Hash := fun s => if s = "a-0" ∨ s = "c-0" then 5 else if s = "b-0" then 7 else 9
    let entry (id : String) (port : Nat) (health : Health) : Node := ⟨id, "h", port, health⟩
    let nodes := [entry "c" 1 .up, entry "a" 1 .up, entry "b" 1 .up, entry "a" 2 .up,
      entry "a" 3 .down]
    let nodes' := [entry "a" 1 .up, entry "a" 2 .up, entry "c" 1 .up, entry "a" 3 .down,
      entry "b" 1 .up]
    let ring := after hash 0 [[entry "b" 1 .up], nodes]
    ring.owner? hash "k" = some (entry "a" 2 .up) ∧
      LooksUp hash 1 nodes "k" (ring.owner? hash "k") ∧ Rearranged nodes nodes' ∧
      (after hash 0 [nodes']).owner? hash "k" = some (entry "a" 2 .up) := by
  intro hash entry nodes nodes' ring
  have found : ring.owner? hash "k" = some (entry "a" 2 .up) := by decide
  have all := owner?_after hash 0 [[entry "b" 1 .up]] nodes "k"
  have rearranged : Rearranged nodes nodes' := by
    intro id
    by_cases a : "a" = id
    · subst a
      decide
    · by_cases b : "b" = id
      · subst b
        decide
      · by_cases c : "c" = id
        · subst c
          decide
        · simp [nodes, nodes', entry, a, b, c]
  exact ⟨found, all.1, rearranged, (all.2.2.2.1 [] nodes' rearranged).trans found⟩

end BlockTier.L2.Ring
