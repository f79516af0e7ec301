import BlockTier.Proofs.L1.Gaps
import Mathlib.Data.List.Perm.Subperm
/-!
What is given back leaves no trace: not when it was taken, not what was beside it, and not in which
order it came back. With nothing left live the pool is one free extent again.
-/
namespace BlockTier.L1.Allocator

variable {a a' b : Allocator} {e : Extent} {l l' : List Extent} {size capacity : Nat}

/-- Gives extents back one after the other, up to the first that is not live. -/
def freeAll (a : Allocator) (l : List Extent) : Except AllocError Allocator := l.foldlM free a

theorem freeAll_cons (freed : a.free e = .ok a') (l : List Extent) :
    a.freeAll (e :: l) = a'.freeAll l := by
  rw [freeAll, List.foldlM_cons, freed]
  rfl

theorem Partition.free_allocate (p : a.Valid) (taken : a.allocate size = .ok (e, a')) :
    a'.free e = .ok a := by
  obtain ⟨valid, live, _, _⟩ := p.allocate taken
  obtain ⟨b, freed, _⟩ := valid.free (live.mem_iff.mpr List.mem_cons_self)
  have released := p.release_allocate taken
  simp only [Allocator.release, freed] at released
  rw [freed, released]

/-- Extents that are live can be given back in any sequence, and the others stay live. -/
theorem Partition.freeAll (p : a.Valid) (part : l.Subperm a.live) :
    ∃ b, a.freeAll l = .ok b ∧ b.Valid ∧ b.capacity = a.capacity ∧ (l ++ b.live).Perm a.live := by
  induction l generalizing a with
  | nil => exact ⟨a, rfl, p, rfl, List.Perm.refl _⟩
  | cons e rest ih =>
    have member : e ∈ a.live := part.subset List.mem_cons_self
    obtain ⟨a', freed, valid, live, capacity⟩ := p.free member
    have smaller : rest.Subperm a'.live := by
      have erased := part.erase e
      rwa [List.erase_cons_head, ← live] at erased
    obtain ⟨b, all, left, same, others⟩ := ih valid smaller
    refine ⟨b, (freeAll_cons freed rest).trans all, left, same.trans capacity, ?_⟩
    rw [live] at others
    exact (others.cons e).trans (List.perm_cons_erase member).symm

/-- The order in which live extents come back does not matter. -/
theorem Partition.freeAll_perm (p : a.Valid) (part : l.Subperm a.live) (perm : l'.Perm l) :
    a.freeAll l' = a.freeAll l := by
  obtain ⟨b, all, valid, capacity, live⟩ := p.freeAll part
  obtain ⟨b', all', valid', capacity', live'⟩ := p.freeAll (perm.subperm.trans part)
  rw [all, all']
  congr 1
  apply valid'.eq_of_live valid (capacity'.trans capacity.symm)
  apply (List.perm_append_left_iff l).mp
  exact (perm.symm.append_right b'.live).trans (live'.trans live.symm)

theorem Partition.freeAll_live (p : a.Valid) (all : l.Perm a.live) :
    a.freeAll l = .ok (.new a.capacity) := by
  obtain ⟨b, freed, valid, capacity, live⟩ := p.freeAll all.subperm
  rw [freed]
  congr 1
  apply valid.eq_of_live (valid_new a.capacity) (capacity.trans (capacity_new _).symm)
  rw [live_new]
  apply (List.perm_append_left_iff l).mp
  rw [List.append_nil]
  exact live.trans all.symm

/-! ### Runs -/

theorem Reachable.freeAll (reached : Reachable capacity a) (freed : a.freeAll l = .ok b) :
    Reachable capacity b := by
  induction l generalizing a with
  | nil =>
    cases freed
    exact reached
  | cons e rest ih =>
    rw [Allocator.freeAll, List.foldlM_cons] at freed
    cases first : a.free e with
    | error error =>
      rw [first] at freed
      cases freed
    | ok a' =>
      rw [first] at freed
      have stepped := reached.call (.free e)
      rw [Allocator.call, first] at stepped
      exact ih stepped freed

/-- The pool as one extent; an empty pool has none. -/
def wholePool (capacity : Nat) : List Extent := if 0 < capacity then [⟨0, capacity⟩] else []

theorem new_eq (capacity : Nat) :
    new capacity = ⟨capacity, 0, wholePool capacity, wholePool capacity, []⟩ := by
  unfold new wholePool
  dsimp only
  split <;> rfl

/-- Whatever came before, only what is live counts. -/
structure ForgetsHistory (a : Allocator) (capacity : Nat) : Prop where
  determined : ∀ b, Reachable capacity b → (∀ e, e ∈ b.live ↔ e ∈ a.live) → b = a
  undoes : ∀ size e a', a.allocate size = .ok (e, a') → a'.free e = .ok a
  unordered : ∀ l, l.Nodup → (∀ e ∈ l, e ∈ a.live) →
    ∃ b, Reachable capacity b ∧ (∀ e, e ∈ b.live ↔ e ∈ a.live ∧ e ∉ l) ∧
      ∀ l', l'.Perm l → a.freeAll l' = .ok b
  empties : ∀ l, l.Perm a.live → a.freeAll l = .ok (.new capacity)
  blank : new capacity = ⟨capacity, 0, wholePool capacity, wholePool capacity, []⟩

/-- After any calls, to give back what was just taken undoes the request, live extents can come back
in every order, and when all of them have, the pool is new. -/
theorem forgetsHistory_of_reachable (reached : Reachable capacity a) :
    a.ForgetsHistory capacity := by
  obtain ⟨p, same⟩ := reached.valid
  constructor
  · intro b reached' live
    obtain ⟨q, same'⟩ := reached'.valid
    apply q.eq_of_live p (same'.trans same.symm)
    exact (List.perm_ext_iff_of_nodup q.live_nodup p.live_nodup).mpr live
  · exact fun _ _ _ => p.free_allocate
  · intro l once members
    have part := List.subperm_of_subset once members
    obtain ⟨b, freed, _, _, live⟩ := p.freeAll part
    refine ⟨b, reached.freeAll freed, fun e => ?_, fun l' perm => ?_⟩
    · have apart := List.nodup_append.mp (live.nodup_iff.mpr p.live_nodup)
      rw [← live.mem_iff, List.mem_append]
      constructor
      · intro left
        exact ⟨Or.inr left, fun back => apart.2.2 e back e left rfl⟩
      · rintro ⟨back | left, other⟩
        · exact absurd back other
        · exact left
    · rw [p.freeAll_perm part perm, freed]
  · intro l all
    rw [p.freeAll_live all, same]
  · exact new_eq capacity

/-- Four extents, the second of which has gone: of the others one joins the free space before it,
one that behind it, and the last one both. -/
theorem forgetsHistory_with_hole :
    ∃ a, Reachable 9 a ∧ a.live = [⟨0, 2⟩, ⟨4, 2⟩, ⟨6, 2⟩] ∧
      a.freeAll [⟨4, 2⟩, ⟨0, 2⟩, ⟨6, 2⟩] = .ok ⟨9, 0, [⟨0, 9⟩], [⟨0, 9⟩], []⟩ ∧
      a.ForgetsHistory 9 := by
  have empty : Reachable 9 (.new 9) := .new
  have filled := (((empty.call (.allocate 2)).call (.allocate 2)).call (.allocate 2)).call
    (.allocate 2)
  have hole := filled.call (.free ⟨2, 2⟩)
  exact ⟨_, hole, by cbv, by cbv, forgetsHistory_of_reachable hole⟩

end BlockTier.L1.Allocator
