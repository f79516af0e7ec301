import BlockTier.Proofs.L2.Lookup
/-!
The labels that nodes are placed by. What follows the last dash of a label is its number, so no
label stands for two nodes, whatever their ids look like, and a hash that keeps the labels apart
gives every node all its positions.
-/
namespace BlockTier.L2.Ring

variable {hash : Hash} {virtualNodes : Nat} {nodes : List Node} {node : Node}
  {p : Position} {id id' : String} {i j : Nat}

/-! ### Labels -/

theorem dash_notMem_toDigits (n : Nat) : '-' ∉ Nat.toDigits 10 n := by
  intro member
  have digit := Nat.isDigit_of_mem_toDigits (by decide) (Nat.le_refl _) member
  exact absurd digit (by decide)

/-- Two texts are cut alike at a character that the ends behind it do not have. -/
theorem append_cons_inj_of_last {c : Char} {x y z w : List Char} (left : c ∉ z) (right : c ∉ w)
    (same : x ++ c :: z = y ++ c :: w) : x = y ∧ z = w := by
  have cut {t z w : List Char} (absent : c ∉ z) (tail : c :: z = t ++ c :: w) :
      t = [] ∧ z = w := by
    cases t with
    | nil => exact ⟨rfl, (List.cons.inj tail).2⟩
    | cons d t =>
      have inside : c ∈ z := by
        rw [(List.cons.inj tail).2]
        exact List.mem_append_right _ List.mem_cons_self
      exact absurd inside absent
  rcases List.append_eq_append_iff.mp same with ⟨t, rfl, tail⟩ | ⟨t, rfl, tail⟩
  · obtain ⟨rfl, rfl⟩ := cut left tail
    exact ⟨(List.append_nil _).symm, rfl⟩
  · obtain ⟨rfl, rfl⟩ := cut right tail
    exact ⟨List.append_nil _, rfl⟩

theorem toList_label (id : String) (replica : Nat) :
    (label id replica).toList = id.toList ++ '-' :: Nat.toDigits 10 replica := by
  change (id ++ "-" ++ toString replica).toList = _
  have dash : "-".toList = ['-'] := rfl
  rw [String.toList_append, String.toList_append, dash, Nat.toString_eq_ofList_toDigits,
    String.toList_ofList, List.append_assoc, List.singleton_append]

theorem label_inj (same : label id i = label id' j) : id = id' ∧ i = j := by
  have texts := congrArg String.toList same
  rw [toList_label, toList_label] at texts
  obtain ⟨ids, digits⟩ :=
    append_cons_inj_of_last (dash_notMem_toDigits i) (dash_notMem_toDigits j) texts
  refine ⟨String.toList_inj.mp ids, ?_⟩
  have value (n : Nat) : Nat.ofDigitChars 10 (Nat.toDigits 10 n) 0 = n :=
    Nat.ofDigitChars_toDigits (by decide) (Nat.le_refl _)
  rw [← value i, digits, value j]

/-! ### Positions -/

/-- Labels of nodes that are up are at one place only if they are one label. -/
def CollisionFree (hash : Hash) (virtualNodes : Nat) (nodes : List Node) : Prop :=
  ∀ m ∈ nodes, m.isUp = true → ∀ n ∈ nodes, n.isUp = true → ∀ i < virtualNodes,
    ∀ j < virtualNodes, hash (label m.id i) = hash (label n.id j) → label m.id i = label n.id j

theorem CollisionFree.id_eq_of_claims (free : CollisionFree hash virtualNodes nodes) {m n : Node}
    (first : m ∈ membersOf nodes) (second : n ∈ membersOf nodes) {place : UInt64}
    (claims : Claims hash virtualNodes m place) (claims' : Claims hash virtualNodes n place) :
    m.id = n.id := by
  obtain ⟨listed, up⟩ := mem_of_mem_membersOf first
  obtain ⟨listed', up'⟩ := mem_of_mem_membersOf second
  obtain ⟨i, below, rfl⟩ := claims
  obtain ⟨j, below', same⟩ := claims'
  exact (label_inj (free m listed up n listed' up' i below j below' same.symm)).1

theorem CollisionFree.mem_placeAll_iff (free : CollisionFree hash virtualNodes nodes) :
    p ∈ placeAll hash virtualNodes (membersOf nodes) ↔
      p.owner ∈ membersOf nodes ∧ p ∈ positionsOf hash virtualNodes p.owner := by
  rw [Ring.mem_placeAll_iff (membersOf_increasing nodes), mem_positionsOf_iff]
  constructor
  · exact fun ⟨member, claims, _⟩ => ⟨member, claims, rfl⟩
  · rintro ⟨member, claims, _⟩
    refine ⟨member, claims, fun m listed claimed => ?_⟩
    exact free.id_eq_of_claims member listed claims claimed ▸ String.le_refl _

theorem CollisionFree.nodup_positionsOf (free : CollisionFree hash virtualNodes nodes)
    (member : node ∈ membersOf nodes) : (positionsOf hash virtualNodes node).Nodup := by
  obtain ⟨listed, up⟩ := mem_of_mem_membersOf member
  refine List.Nodup.map_on (fun i first j second same => ?_) List.nodup_range
  have places := congrArg Position.place same
  rw [List.mem_range] at first second
  exact (label_inj (free node listed up node listed up i first j second places)).2

theorem length_positionsOf : (positionsOf hash virtualNodes node).length = virtualNodes := by
  rw [positionsOf, List.length_map, List.length_range]

theorem Ordered.nodup {ps : List Position} (ordered : Ordered ps) : ps.Nodup :=
  ordered.imp fun before => ne_of_apply_ne Position.place (UInt64.ne_of_lt before)

/-- The positions of a member are all that it lays claim to. -/
theorem CollisionFree.perm_filter_placeAll (free : CollisionFree hash virtualNodes nodes)
    (member : node ∈ membersOf nodes) :
    ((placeAll hash virtualNodes (membersOf nodes)).filter (fun p => p.owner.id = node.id)).Perm
      (positionsOf hash virtualNodes node) := by
  have kept := (ordered_placeAll hash virtualNodes (membersOf nodes)).nodup.filter
    fun p => p.owner.id = node.id
  apply (List.perm_ext_iff_of_nodup kept (free.nodup_positionsOf member)).mpr
  intro p
  rw [List.mem_filter, free.mem_placeAll_iff, decide_eq_true_eq]
  constructor
  · rintro ⟨⟨member', placed⟩, same⟩
    have ids := ids_nodup_of_increasing (membersOf_increasing nodes)
    rwa [List.inj_on_of_nodup_map ids member' member same] at placed
  · intro placed
    obtain ⟨_, rfl⟩ := mem_positionsOf_iff.mp placed
    exact ⟨⟨member, placed⟩, rfl⟩

theorem CollisionFree.perm_placeAll (free : CollisionFree hash virtualNodes nodes) :
    (placeAll hash virtualNodes (membersOf nodes)).Perm
      ((membersOf nodes).flatMap (positionsOf hash virtualNodes)) := by
  have once : ((membersOf nodes).flatMap (positionsOf hash virtualNodes)).Nodup := by
    refine List.nodup_flatMap.mpr ⟨fun n member => free.nodup_positionsOf member, ?_⟩
    refine (membersOf_increasing nodes).imp fun {m n} before p first second => ?_
    obtain ⟨_, rfl⟩ := mem_positionsOf_iff.mp first
    obtain ⟨_, rfl⟩ := mem_positionsOf_iff.mp second
    exact String.lt_irrefl _ before
  apply (List.perm_ext_iff_of_nodup (ordered_placeAll ..).nodup once).mpr
  intro p
  rw [free.mem_placeAll_iff, List.mem_flatMap]
  constructor
  · exact fun ⟨member, placed⟩ => ⟨p.owner, member, placed⟩
  · rintro ⟨n, member, placed⟩
    obtain ⟨_, rfl⟩ := mem_positionsOf_iff.mp placed
    exact ⟨member, placed⟩

theorem mem_membersOf_ids_iff :
    id ∈ (membersOf nodes).map Node.id ↔ ∃ n ∈ nodes, n.isUp = true ∧ n.id = id := by
  rw [List.mem_map]
  constructor
  · rintro ⟨n, member, rfl⟩
    obtain ⟨listed, up⟩ := mem_of_mem_membersOf member
    exact ⟨n, listed, up, rfl⟩
  · rintro ⟨n, listed, up, rfl⟩
    obtain ⟨m, last, same⟩ := exists_lastUp listed up
    exact ⟨m, mem_membersOf_iff.mpr last, same⟩

/-- The members are the ids that are up in the list, and each has its full number of positions. -/
structure Full (r : Ring) (virtualNodes : Nat) (nodes : List Node) : Prop where
  ids_once : (r.members.map Node.id).Nodup
  ids : ∀ id, id ∈ r.members.map Node.id ↔ ∃ n ∈ nodes, n.isUp = true ∧ n.id = id
  each : ∀ id, id ∈ r.members.map Node.id →
    (r.positions.filter (fun p => p.owner.id = id)).length = virtualNodes
  all : r.positions.length = virtualNodes * r.members.length

/-- Labels differ wherever ids or numbers do, so that after any updates every id that is up has as
many positions as there are virtual nodes, if only the hash keeps their labels apart. -/
theorem full_after (hash : Hash) (virtualNodes : Nat) (updates : List (List Node))
    (nodes : List Node) (positive : 1 ≤ virtualNodes) :
    (∀ id id' i j, label id i = label id' j → id = id' ∧ i = j) ∧
      (CollisionFree hash virtualNodes nodes →
        (after hash virtualNodes (updates ++ [nodes])).Full virtualNodes nodes) := by
  refine ⟨fun _ _ _ _ => label_inj, fun free => ?_⟩
  have enough : max virtualNodes 1 = virtualNodes := Nat.max_eq_left positive
  have last : after hash virtualNodes (updates ++ [nodes]) =
      ⟨virtualNodes, placeAll hash virtualNodes (membersOf nodes), membersOf nodes⟩ := by
    rw [after_concat, withNodes, update, new, enough]
  rw [last]
  constructor
  · exact ids_nodup_of_increasing (membersOf_increasing nodes)
  · exact fun _ => mem_membersOf_ids_iff
  · intro id listed
    obtain ⟨n, member, rfl⟩ := List.mem_map.mp listed
    exact (free.perm_filter_placeAll member).length_eq.trans length_positionsOf
  · rw [free.perm_placeAll.length_eq, List.length_flatMap]
    simp only [length_positionsOf]
    rw [List.map_const', List.sum_replicate_nat, Nat.mul_comm]

/-- One id is a label of the other, and it is listed twice. -/
theorem full_of_dashed :
    let hash : Hash := fun s =>
      if s = "a-0" then 4 else if s = "a-1" then 3 else if s = "a-0-0" then 2 else 1
    let entry (id : String) (port : Nat) (health : Health) : Node := ⟨id, "h", port, health⟩
    let nodes := [entry "a" 1 .up, entry "a-0" 1 .up, entry "b" 1 .down, entry "a" 2 .up]
    let ring := after hash 2 [[entry "b" 1 .up], nodes, nodes]
    CollisionFree hash 2 nodes ∧ ring.Full 2 nodes ∧
      ring.positions.map Position.place = [1, 2, 3, 4] := by
  intro hash entry nodes ring
  have free : CollisionFree hash 2 nodes := by
    unfold CollisionFree
    decide
  exact ⟨free, (full_after hash 2 [[entry "b" 1 .up], nodes] nodes (by decide)).2 free, by decide⟩

end BlockTier.L2.Ring
