import BlockTier.Proofs.L2.Positions
/-!
What a node that joins a ring takes from the others. The places of the others stay places, so a key
that is not reached from a place of the newcomer stays where it was.
-/
namespace BlockTier.L2.Ring

variable {hash : Hash} {virtualNodes : Nat} {members members' nodes nodes' : List Node}
  {node : Node} {p : Position} {h : UInt64} {key : String}

/-- A place that the newcomer does not have is had by the same node as before. -/
theorem mem_placeAll_of_joined (increasing : members.Pairwise (fun a b => a.id < b.id))
    (increasing' : members'.Pairwise (fun a b => a.id < b.id))
    (both : members'.Perm (node :: members)) (placed : p ∈ placeAll hash virtualNodes members')
    (other : p.owner ≠ node) : p ∈ placeAll hash virtualNodes members := by
  obtain ⟨member, claims, least⟩ := (mem_placeAll_iff increasing').mp placed
  refine (mem_placeAll_iff increasing).mpr ⟨?_, claims, fun m listed => least m ?_⟩
  · exact (List.mem_cons.mp (both.mem_iff.mp member)).resolve_left other
  · exact both.mem_iff.mpr (List.mem_cons_of_mem _ listed)

theorem exists_place_of_joined (increasing : members.Pairwise (fun a b => a.id < b.id))
    (increasing' : members'.Pairwise (fun a b => a.id < b.id))
    (both : members'.Perm (node :: members)) (placed : p ∈ placeAll hash virtualNodes members) :
    ∃ q ∈ placeAll hash virtualNodes members', q.place = p.place := by
  obtain ⟨m, listed, claims⟩ := (exists_mem_placeAll_iff increasing).mp ⟨p, placed, rfl⟩
  exact (exists_mem_placeAll_iff increasing').mpr
    ⟨m, both.mem_iff.mpr (List.mem_cons_of_mem _ listed), claims⟩

/-- Taking places away before and behind it leaves the first position that is met. -/
theorem Meets.of_places {ps ps' : List Position} (meets : Meets ps' h p) (kept : p ∈ ps)
    (places : ∀ q ∈ ps, ∃ q' ∈ ps', q'.place = q.place) : Meets ps h p := by
  refine ⟨kept, ?_⟩
  rcases meets.first with ⟨past, least⟩ | ⟨none_past, least⟩
  · refine Or.inl ⟨past, fun q member reached => ?_⟩
    obtain ⟨q', member', same⟩ := places q member
    exact same ▸ least q' member' (same ▸ reached)
  · refine Or.inr ⟨fun q member => ?_, fun q member => ?_⟩
    · obtain ⟨q', member', same⟩ := places q member
      exact same ▸ none_past q' member'
    · obtain ⟨q', member', same⟩ := places q member
      exact same ▸ least q' member'

theorem owner?_of_joined (up : ∀ n ∈ nodes, n.isUp = true) (once : (nodes.map Node.id).Nodup)
    (joins : node.isUp = true) (new : node.id ∉ nodes.map Node.id)
    (both : nodes'.Perm (node :: nodes)) {owner : Node}
    (owned : (withNodes hash virtualNodes nodes').owner? hash key = some owner)
    (other : owner ≠ node) : (withNodes hash virtualNodes nodes).owner? hash key = some owner := by
  have up' : ∀ n ∈ nodes', n.isUp = true := fun n listed =>
    (List.mem_cons.mp (both.mem_iff.mp listed)).elim (fun same => same ▸ joins) (up n)
  have once' : (nodes'.map Node.id).Nodup :=
    (both.map Node.id).nodup_iff.mpr (List.nodup_cons.mpr ⟨new, once⟩)
  have members : (membersOf nodes').Perm (node :: membersOf nodes) :=
    (membersOf_perm once' up').trans (both.trans ((membersOf_perm once up).symm.cons node))
  have increasing := membersOf_increasing nodes
  have increasing' := membersOf_increasing nodes'
  obtain ⟨p, meets, rfl⟩ := (ownerAt?_eq_some_iff (ordered_placeAll ..)).mp owned
  refine (ownerAt?_eq_some_iff (ordered_placeAll ..)).mpr ⟨p, ?_, rfl⟩
  exact meets.of_places (mem_placeAll_of_joined increasing increasing' members meets.mem other)
    fun q placed => exists_place_of_joined increasing increasing' members placed

/-- When a node joins, or seen the other way leaves, the keys that change their owner are those that
the node owns while it is there. -/
theorem owner?_changes_iff (up : ∀ n ∈ nodes, n.isUp = true) (once : (nodes.map Node.id).Nodup)
    (joins : node.isUp = true) (new : node.id ∉ nodes.map Node.id)
    (both : nodes'.Perm (node :: nodes)) :
    ∃ owner, (withNodes hash virtualNodes nodes').owner? hash key = some owner ∧
      ((withNodes hash virtualNodes nodes).owner? hash key = some owner ∨ owner = node) ∧
      ((withNodes hash virtualNodes nodes).owner? hash key ≠ some owner ↔ owner = node) := by
  cases owned : (withNodes hash virtualNodes nodes').owner? hash key with
  | none =>
    have down := owner?_withNodes_eq_none_iff.mp owned node (both.mem_iff.mpr List.mem_cons_self)
    rw [joins] at down
    cases down
  | some owner =>
    have kept := owner?_of_joined up once joins new both owned
    refine ⟨owner, rfl, ?_, fun changes => Classical.not_not.mp fun other => changes (kept other),
      ?_⟩
    · exact (Classical.em (owner = node)).symm.imp_left kept
    · rintro rfl before
      exact new (List.mem_map_of_mem (mem_of_owner?_withNodes before).1)

/-- The newcomer takes over a place that it shares with a node of a larger id, and the keys that
come round to it. -/
theorem owner?_taken_over :
    let hash : Hash := fun s => if s = "a-0" ∨ s = "c-0" then 5 else if s = "b-0" then 7 else 9
    let a : Node := ⟨"a", "h", 1, .up⟩
    let b : Node := ⟨"b", "h", 1, .up⟩
    let c : Node := ⟨"c", "h", 1, .up⟩
    (withNodes hash 1 [b, c]).owner? hash "k" = some c ∧
      ∃ owner, (withNodes hash 1 [b, c, a]).owner? hash "k" = some owner ∧
        ((withNodes hash 1 [b, c]).owner? hash "k" = some owner ∨ owner = a) ∧
        ((withNodes hash 1 [b, c]).owner? hash "k" ≠ some owner ↔ owner = a) :=
  ⟨by decide, owner?_changes_iff (by decide) (by decide) (by decide) (by decide) (by decide)⟩

end BlockTier.L2.Ring
