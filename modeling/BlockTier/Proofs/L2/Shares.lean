import BlockTier.Proofs.L2.Lookup
import Mathlib.Data.FinEnum
import Mathlib.Data.Set.Card
import Mathlib.Order.Interval.Finset.Nat
/-!
The arcs of a ring against its lookups. The distance from a place to the next one, taken round the
circle, is the number of hashes in between, so the arcs of a node count the hashes that it owns.
-/
namespace BlockTier.L2.Ring

variable {hash : Hash} {r : Ring} {ps rest : List Position} {p first last : Position} {node : Node}
  {a b h before : UInt64} {keep : String → Bool}

/-! ### Distances -/

/-- The hashes past one place and up to another. -/
def between (a b : UInt64) : Set UInt64 := {h | a < h ∧ h ≤ b}

theorem card_word : Nat.card UInt64 = 2 ^ 64 := by
  rw [Nat.card_eq_fintype_card, ← FinEnum.card_eq_fintypeCard, FinEnum.card_UInt64]

theorem ncard_between (forward : a ≤ b) : (between a b).ncard = (b - a).toNat := by
  have numbers : UInt64.toNat '' between a b = Finset.Ioc a.toNat b.toNat := by
    ext n
    simp only [between, Set.mem_image, Set.mem_ofPred_eq, Finset.coe_Ioc, Set.mem_Ioc,
      UInt64.lt_iff_toNat_lt, UInt64.le_iff_toNat_le]
    constructor
    · rintro ⟨h, bounds, rfl⟩
      exact bounds
    · intro bounds
      have small : (UInt64.ofNat n).toNat = n :=
        UInt64.toNat_ofNat_of_lt' (Nat.lt_of_le_of_lt bounds.2 b.toNat_lt)
      exact ⟨UInt64.ofNat n, by rwa [small], small⟩
  rw [← Set.ncard_image_of_injective _ fun _ _ => UInt64.toNat_inj.mp, numbers,
    Set.ncard_coe_finset, Nat.card_Ioc, UInt64.toNat_sub_of_le _ _ forward]

/-- Backwards the distance wraps, and counts the hashes that are not in between. -/
theorem ncard_compl_between (forward : a < b) : (between a b)ᶜ.ncard = (a - b).toNat := by
  have less := UInt64.lt_iff_toNat_lt.mp forward
  have below := b.toNat_lt
  rw [Set.ncard_compl, card_word, ncard_between (UInt64.le_of_lt forward),
    UInt64.toNat_sub_of_le _ _ (UInt64.le_of_lt forward), UInt64.toNat_sub]
  omega

theorem ncard_union_of_keep {s t : Set UInt64} (apart : ∀ h ∈ s, h ∉ t) (k : Bool) :
    ({h | h ∈ s ∧ k = true} ∪ t).ncard = (if k then s.ncard else 0) + t.ncard := by
  cases k with
  | false => simp
  | true => simpa using Set.ncard_union_eq (Set.disjoint_left.mpr apart)

/-! ### Arcs -/

/-- How far the arcs reach whose nodes are kept. -/
def reach (keep : String → Bool) (arcs : List (String × UInt64)) : Nat :=
  ((arcs.filter (fun a => keep a.1)).map (fun a => a.2.toNat)).sum

theorem reach_cons (id : String) (d : UInt64) (arcs : List (String × UInt64)) :
    reach keep ((id, d) :: arcs) = (if keep id then d.toNat else 0) + reach keep arcs := by
  cases kept : keep id <;> simp [reach, kept]

/-- The hashes past a place whose next position is a kept one. -/
def caught (keep : String → Bool) (before : UInt64) (ps : List Position) : Set UInt64 :=
  {h | before < h ∧ ∃ p, ps.find? (fun p => h ≤ p.place) = some p ∧ keep p.owner.id = true}

theorem caught_cons (above : before < p.place) :
    caught keep before (p :: rest) =
      {h | h ∈ between before p.place ∧ keep p.owner.id = true} ∪ caught keep p.place rest := by
  ext h
  simp only [caught, between, List.find?_cons, Set.mem_union, Set.mem_ofPred_eq]
  by_cases reached : h ≤ p.place
  · have short : ¬ p.place < h := UInt64.not_lt.mpr reached
    simp [reached, short]
  · have past : p.place < h := UInt64.not_le.mp reached
    simp [reached, past, UInt64.lt_trans above past]

theorem notMem_caught (short : h ∈ between before p.place) : h ∉ caught keep p.place rest :=
  fun past => UInt64.not_lt.mpr short.2 past.1

/-- Going up, the arcs count the hashes up to the last position. -/
theorem reach_arcsFrom (ordered : Ordered ps) (above : ∀ p ∈ ps, before < p.place) :
    reach keep (arcsFrom before ps) = (caught keep before ps).ncard := by
  induction ps generalizing before with
  | nil =>
    have nothing : caught keep before [] = ∅ := by simp [caught]
    rw [nothing, Set.ncard_empty]
    rfl
  | cons p rest ih =>
    obtain ⟨later, ordered⟩ := List.pairwise_cons.mp ordered
    have here := above p List.mem_cons_self
    rw [arcsFrom, reach_cons, ih ordered later, caught_cons here,
      ncard_union_of_keep (fun _ => notMem_caught), ncard_between (UInt64.le_of_lt here)]

theorem Ordered.place_le_last (ordered : Ordered ps) (final : ps.getLast? = some last)
    (member : p ∈ ps) : p.place ≤ last.place := by
  obtain ⟨init, rfl⟩ := List.getLast?_eq_some_iff.mp final
  rcases List.mem_append.mp member with inner | final
  · exact UInt64.le_of_lt ((List.pairwise_append.mp ordered).2.2 p inner last List.mem_cons_self)
  · rw [List.mem_singleton.mp final]
    exact UInt64.le_refl _

/-- A hash that comes to a position is not past the last one. -/
theorem Ordered.le_last_of_found (ordered : Ordered ps) (final : ps.getLast? = some last)
    (found : ps.find? (fun p => h ≤ p.place) = some p) : h ≤ last.place := by
  have here : h ≤ p.place := by simpa using List.find?_some found
  exact UInt64.le_trans here (ordered.place_le_last final (List.mem_of_find?_eq_some found))

theorem exists_last_of_several (positions : r.positions = first :: rest)
    (several : 2 ≤ r.positions.length) : ∃ last, rest.getLast? = some last := by
  rw [positions, List.length_cons] at several
  exact ⟨_, List.getLast?_eq_some_getLast (List.ne_nil_of_length_pos (by omega))⟩

/-- A hash that is not between the first and the last position comes to the first one. -/
theorem caught_round (positions : r.positions = first :: rest) (later : Ordered rest)
    (final : rest.getLast? = some last) :
    {h | ∃ n, r.ownerAt? h = some n ∧ keep n.id = true} =
      {h | h ∈ (between first.place last.place)ᶜ ∧ keep first.owner.id = true} ∪
        caught keep first.place rest := by
  ext h
  simp only [ownerAt?, positions, caught, between, List.find?_cons, Set.mem_union,
    Set.mem_ofPred_eq, Set.mem_compl_iff]
  by_cases reached : h ≤ first.place
  · have short : ¬ first.place < h := UInt64.not_lt.mpr reached
    simp [reached, short]
  · have past : first.place < h := UInt64.not_le.mp reached
    cases found : rest.find? (fun p => h ≤ p.place) with
    | some p =>
      have top := later.le_last_of_found final found
      simp [reached, past, top]
    | none =>
      have beyond : ¬ h ≤ last.place := by
        simpa using List.find?_eq_none.mp found last (List.mem_of_getLast? final)
      simp [reached, beyond]

/-- The arcs of the nodes that are kept count the hashes that a lookup takes to one of them. -/
theorem reach_arcs (keep : String → Bool) (ordered : Ordered r.positions)
    (several : 2 ≤ r.positions.length) :
    reach keep r.arcs = {h | ∃ n, r.ownerAt? h = some n ∧ keep n.id = true}.ncard := by
  obtain ⟨first, rest, positions⟩ : ∃ first rest, r.positions = first :: rest :=
    List.exists_cons_of_length_pos (by omega)
  obtain ⟨last, final⟩ := exists_last_of_several positions several
  rw [positions] at ordered
  obtain ⟨above, later⟩ := List.pairwise_cons.mp ordered
  have forward := above last (List.mem_of_getLast? final)
  have apart : ∀ h ∈ (between first.place last.place)ᶜ, h ∉ caught keep first.place rest := by
    intro h outside ⟨past, p, found, _⟩
    exact outside ⟨past, Ordered.le_last_of_found later final found⟩
  rw [caught_round positions later final, ncard_union_of_keep apart,
    ncard_compl_between forward, ← reach_arcsFrom later above, ← reach_cons]
  simp only [arcs, positions, List.getLast?_cons, final, Option.getD_some, arcsFrom]

/-! ### Nodes -/

/-- The hashes that a lookup takes to the node. -/
def owned (r : Ring) (node : Node) : Set UInt64 := {h | r.ownerAt? h = some node}

/-- How far the arcs of a node reach. -/
def arcTotal (r : Ring) (id : String) : Nat :=
  ((r.arcs.filter (fun a => a.1 = id)).map (fun a => a.2.toNat)).sum

/-- The positions are those of the members, which have ids of their own. -/
structure Built (hash : Hash) (r : Ring) : Prop where
  positions : r.positions = placeAll hash r.virtualNodes r.members
  increasing : r.members.Pairwise (fun a b => a.id < b.id)

theorem built_after (hash : Hash) (virtualNodes : Nat) (updates : List (List Node)) :
    Built hash (after hash virtualNodes updates) := by
  cases updates using List.reverseRecOn with
  | nil => exact ⟨rfl, List.Pairwise.nil⟩
  | append_singleton updates nodes =>
    rw [after_concat]
    exact ⟨rfl, membersOf_increasing nodes⟩

theorem Built.ordered (built : Built hash r) : Ordered r.positions :=
  built.positions ▸ ordered_placeAll ..

theorem Built.nodup (built : Built hash r) : r.members.Nodup :=
  List.Nodup.of_map _ (ids_nodup_of_increasing built.increasing)

theorem Built.mem_of_ownerAt? (built : Built hash r) (owns : r.ownerAt? h = some node) :
    node ∈ r.members := by
  obtain ⟨p, placed, rfl⟩ := Ring.mem_of_ownerAt? owns
  rw [built.positions] at placed
  exact mem_of_mem_placeAll placed

theorem Built.eq_of_id (built : Built hash r) {m n : Node} (first : m ∈ r.members)
    (second : n ∈ r.members) (same : m.id = n.id) : m = n :=
  List.inj_on_of_nodup_map (ids_nodup_of_increasing built.increasing) first second same

theorem Built.arcTotal_eq (built : Built hash r) (several : 2 ≤ r.positions.length)
    (member : node ∈ r.members) : r.arcTotal node.id = (r.owned node).ncard := by
  have by_id :
      {h | ∃ n, r.ownerAt? h = some n ∧ decide (n.id = node.id) = true} = r.owned node := by
    ext h
    simp only [owned, Set.mem_ofPred_eq, decide_eq_true_eq]
    constructor
    · rintro ⟨n, owns, same⟩
      rw [owns, built.eq_of_id (built.mem_of_ownerAt? owns) member same]
    · exact fun owns => ⟨node, owns, rfl⟩
  exact (reach_arcs (fun id => id = node.id) built.ordered several).trans (congrArg _ by_id)

theorem sum_ncard_owned (nodes : List Node) (once : nodes.Nodup) :
    (nodes.map fun n => (r.owned n).ncard).sum =
      {h | ∃ n ∈ nodes, r.ownerAt? h = some n}.ncard := by
  induction nodes with
  | nil => simp
  | cons first rest ih =>
    obtain ⟨other, once⟩ := List.nodup_cons.mp once
    have split : {h | ∃ n ∈ first :: rest, r.ownerAt? h = some n} =
        r.owned first ∪ {h | ∃ n ∈ rest, r.ownerAt? h = some n} := by
      ext h
      simp [owned]
    have apart : Disjoint (r.owned first) {h | ∃ n ∈ rest, r.ownerAt? h = some n} := by
      refine Set.disjoint_left.mpr fun h owns ⟨n, member, owns'⟩ => other ?_
      rw [Option.some.inj (Eq.trans owns.symm owns')]
      exact member
    rw [List.map_cons, List.sum_cons, ih once, split, Set.ncard_union_eq apart]

theorem exists_ownerAt? (nonempty : r.positions ≠ []) (h : UInt64) :
    ∃ n, r.ownerAt? h = some n := by
  cases owns : r.ownerAt? h with
  | none => exact absurd ((ownerAt?_eq_none_iff r).mp owns) nonempty
  | some n => exact ⟨n, rfl⟩

theorem Built.sum_arcs (built : Built hash r) (several : 2 ≤ r.positions.length) :
    (r.arcs.map fun a => a.2.toNat).sum = 2 ^ 64 := by
  have nonempty : r.positions ≠ [] := List.ne_nil_of_length_pos (by omega)
  have all : {h | ∃ n, r.ownerAt? h = some n ∧ (fun _ => true) n.id = true} = Set.univ := by
    refine Set.eq_univ_of_forall fun h => ?_
    obtain ⟨n, owns⟩ := exists_ownerAt? nonempty h
    exact ⟨n, owns, rfl⟩
  have reached := reach_arcs (fun _ => true) built.ordered several
  rwa [all, Set.ncard_univ, card_word, reach, List.filter_true] at reached

theorem Built.sum_arcTotal (built : Built hash r) (several : 2 ≤ r.positions.length) :
    (r.members.map fun n => r.arcTotal n.id).sum = 2 ^ 64 := by
  have nonempty : r.positions ≠ [] := List.ne_nil_of_length_pos (by omega)
  have all : {h | ∃ n ∈ r.members, r.ownerAt? h = some n} = Set.univ := by
    refine Set.eq_univ_of_forall fun h => ?_
    obtain ⟨n, owns⟩ := exists_ownerAt? nonempty h
    exact ⟨n, built.mem_of_ownerAt? owns, owns⟩
  rw [List.map_congr_left fun n member => built.arcTotal_eq several member,
    sum_ncard_owned _ built.nodup, all, Set.ncard_univ, card_word]

/-! ### Shares -/

/-- A node's share with another arc added to it. -/
def addArc (share : Option Float) (a : String × UInt64) : Option Float :=
  some (share.getD 0 + a.2.toFloat / 18446744073709551616)

theorem find?_foldl_addShare (arcs : List (String × UInt64)) (t : Table Float) (id : String) :
    (arcs.foldl (fun t a => addShare t a.1 (a.2.toFloat / 18446744073709551616)) t).find? id =
      (arcs.filter (fun a => a.1 = id)).foldl addArc (t.find? id) := by
  induction arcs generalizing t with
  | nil => rfl
  | cons a rest ih =>
    rw [List.foldl_cons, ih, addShare, Table.find?_insert]
    by_cases same : a.1 = id
    · subst same
      rw [if_pos rfl, List.filter_cons_of_pos (by simp), List.foldl_cons, addArc]
    · rw [if_neg (Ne.symm same), List.filter_cons_of_neg (by simpa using same)]

theorem find?_shares (several : 2 ≤ r.positions.length) (id : String) :
    r.shares.find? id = (r.arcs.filter (fun a => a.1 = id)).foldl addArc none := by
  unfold shares
  split
  · rename_i p single
    rw [single] at several
    rw [List.length_singleton] at several
    omega
  · exact find?_foldl_addShare ..

/-- The arcs that the shares are made of, against what lookups do. -/
structure Measured (r : Ring) : Prop where
  lookup : ∀ (hash : Hash) key node, r.owner? hash key = some node ↔ hash key ∈ r.owned node
  counts : 2 ≤ r.positions.length → ∀ node ∈ r.members, r.arcTotal node.id = (r.owned node).ncard
  whole : 2 ≤ r.positions.length → (r.arcs.map fun a => a.2.toNat).sum = 2 ^ 64 ∧
    (r.members.map fun n => r.arcTotal n.id).sum = 2 ^ 64
  shares : 2 ≤ r.positions.length → ∀ id,
    r.shares.find? id = (r.arcs.filter (fun a => a.1 = id)).foldl addArc none
  single : ∀ p, r.positions = [p] → r.shares = [(p.owner.id, 1)] ∧ r.owned p.owner = Set.univ
  empty : r.positions = [] → r.shares = [] ∧ ∀ node, r.owned node = ∅

/-- After any updates the arcs of a node reach as far as there are hashes that a lookup takes to it,
and all arcs together go once round the circle. -/
theorem measured_after (hash : Hash) (virtualNodes : Nat) (updates : List (List Node)) :
    (after hash virtualNodes updates).Measured := by
  have built := built_after hash virtualNodes updates
  constructor
  · exact fun _ _ _ => Iff.rfl
  · exact fun several _ => built.arcTotal_eq several
  · exact fun several => ⟨built.sum_arcs several, built.sum_arcTotal several⟩
  · exact fun several => find?_shares several
  · intro p single
    refine ⟨by simp only [Ring.shares, single], Set.eq_univ_of_forall fun h => ?_⟩
    obtain ⟨n, owns⟩ := exists_ownerAt? (single ▸ List.cons_ne_nil _ _) h
    obtain ⟨q, placed, rfl⟩ := Ring.mem_of_ownerAt? owns
    rw [single] at placed
    rwa [List.mem_singleton.mp placed] at owns
  · intro empty
    refine ⟨by simp only [Ring.shares, arcs, empty, List.getLast?_nil, List.foldl_nil], ?_⟩
    intro node
    refine Set.eq_empty_of_forall_notMem fun h owns => ?_
    rw [owned, Set.mem_ofPred_eq, (ownerAt?_eq_none_iff _).mpr empty] at owns
    cases owns

/-- The arc of the first position goes through zero. -/
theorem measured_round :
    let hash : Hash := fun s => if s = "a-0" then 5 else if s = "b-0" then 7 else 9
    let a : Node := ⟨"a", "h", 1, .up⟩
    let b : Node := ⟨"b", "h", 1, .up⟩
    let ring := after hash 1 [[b, a]]
    ring.arcs = [("a", 18446744073709551614), ("b", 2)] ∧
      (ring.owned a).ncard = 18446744073709551614 ∧ (ring.owned b).ncard = 2 := by
  intro hash a b ring
  have counts := (measured_after hash 1 [[b, a]]).counts (by decide)
  refine ⟨by decide, ?_, ?_⟩
  · rw [← counts a (by decide)]
    decide
  · rw [← counts b (by decide)]
    decide

end BlockTier.L2.Ring
