import BlockTier.Proofs.L1.BestFit
import BlockTier.Proofs.L1.Endings
import BlockTier.Proofs.L1.Runs
import BlockTier.Proofs.L1.TurnOrder
import Mathlib.Data.List.Permutation
/-!
Putting a resident key again with another size. Every other block may go for the new copy, so the
old one stays until it is replaced exactly if the longer part of the pool beside it is long enough;
else it goes before the new copy is begun.
-/
namespace BlockTier.L1

namespace Cache

variable {c : Cache} {size evicted : Nat} {key : String} {old e : Extent} {bumped : Bool}

/-- The pool has room for a block of that size beside the extent. -/
def RoomBeside (old : Extent) (capacity size : Nat) : Prop :=
  size ≤ max old.offset (capacity - old.offset - old.size)

theorem roomBeside_of_apart {capacity : Nat} (apart : e.Apart old) (inside : e.stop ≤ capacity) :
    RoomBeside old capacity e.size := by
  simp only [RoomBeside, Extent.Apart, Extent.stop] at *
  omega

theorem find?_after_turns_pinned (c : Cache) (size : Nat) (key : String) (bumped : Bool) :
    (c.after (c.turns size (some key) bumped)).find? key = c.find? key := by
  generalize pin : some key = pinned
  fun_induction acquireEvicting c size pinned bumped 0 with
  | case1 c bumped evicted e allocator allocated =>
    rw [turns, allocated]
    rfl
  | case2 c bumped evicted cause failed other =>
    rw [turns, failed]
    simp only [other, ↓reduceIte]
    rfl
  | case3 c bumped evicted cause failed full order =>
    rw [turns_of_untracked order]
    rfl
  | case4 c evicted cause failed full oldest rest order pin' =>
    rw [turns_of_failed failed (by simpa using full) order, if_pos pin', if_pos rfl]
    rfl
  | case5 c bumped evicted cause failed full oldest rest order pin' first ih =>
    rw [turns_of_failed failed (by simpa using full) order, if_pos pin', if_neg first, after_cons,
      turn_bump order]
    exact ih
  | case6 c bumped evicted cause failed full oldest rest order other ih =>
    rw [turns_of_failed failed (by simpa using full) order, if_neg other, after_cons]
    refine ih.trans (find?_evict_other ?_)
    rintro rfl
    exact other pin.symm

theorem allocate_of_refused {pinned : Option String} {refusal : Refusal}
    (refused : (c.acquireEvicting size pinned bumped evicted).2 = .error refusal) :
    ∃ cause, (c.acquireEvicting size pinned bumped evicted).1.allocator.allocate size =
      .error cause := by
  fun_induction acquireEvicting c size pinned bumped evicted with
  | case1 => cases refused
  | case2 c bumped evicted cause failed other => exact ⟨cause, failed⟩
  | case3 c bumped evicted cause failed full order => exact ⟨cause, failed⟩
  | case4 c evicted cause failed full oldest rest order pin => exact ⟨cause, failed⟩
  | case5 c bumped evicted cause failed full oldest rest order pin first ih => exact ih refused
  | case6 c bumped evicted cause failed full oldest rest order other ih => exact ih refused

/-- When only one block is left a stretch beside it is free. -/
theorem Consistent.allocate_beside (h : c.Consistent none) (positive : 0 < size)
    (alone : ∀ k x, c.find? k = some x → x = old) (inside : old.stop ≤ c.allocator.capacity)
    (room : RoomBeside old c.allocator.capacity size) :
    ∃ e a, c.allocator.allocate size = .ok (e, a) := by
  have stretch (x : Extent) (long : size ≤ x.size) (bound : x.stop ≤ c.allocator.capacity)
      (apart : old.Apart x) : ∃ e a, c.allocator.allocate size = .ok (e, a) := by
    apply h.pool.allocate_ok_iff.mpr
    obtain ⟨y, gap, first, last⟩ := h.pool.exists_gap (x := x) (by omega) bound (fun e live => by
      obtain ⟨k, found⟩ := h.mem_live_iff.mp live
      rwa [alone k e found])
    refine ⟨positive, y, gap, ?_⟩
    simp only [Extent.stop] at last
    omega
  have either : size ≤ old.offset ∨ size ≤ c.allocator.capacity - old.offset - old.size := by
    unfold RoomBeside at room
    omega
  rcases either with before | behind
  · refine stretch ⟨0, old.offset⟩ before ?_ (Or.inr ?_) <;>
      simp only [Extent.stop] at inside ⊢ <;> omega
  · refine stretch ⟨old.stop, c.allocator.capacity - old.stop⟩ ?_ ?_ (Or.inl ?_) <;>
      simp only [Extent.stop] at inside ⊢ <;> omega

theorem Consistent.acquired_pinned_iff (h : c.Consistent none) (found : c.find? key = some old)
    (positive : 0 < size) :
    (∃ r, (c.acquireEvicting size (some key) false 0).2 = .ok r) ↔
      RoomBeside old c.allocator.capacity size := by
  have acquired : c.Acquired size (c.acquireEvicting size (some key) false 0) :=
    acquired_acquireEvicting h _ _ _
  have taken := taken_acquireEvicting c size (some key) false 0
  have kept : (c.after (c.turns size (some key) false)).find? key = some old :=
    (find?_after_turns_pinned c size key false).trans found
  constructor
  · rintro ⟨⟨e, n⟩, got⟩
    have consistent := acquired.consistent
    have capacity := acquired.shrinks.capacity
    have size_eq := acquired.size_eq e n got
    rw [got] at consistent
    generalize c.acquireEvicting size (some key) false 0 = left at *
    cases taken with
    | refused refusal => cases got
    | acquired e' n' allocator allocated =>
      cases got
      rw [← size_eq, ← capacity]
      exact roomBeside_of_apart (consistent.apart_reserved kept) consistent.reserved_stop_le
  · intro room
    cases out : (c.acquireEvicting size (some key) false 0).2 with
    | ok r => exact ⟨r, rfl⟩
    | error refusal =>
      -- all the others have gone, and the pool is still too full beside the old copy
      obtain ⟨t, alone, rfl⟩ := alone_of_refused h false 0 (h.tracked_of_find? found)
        (fun again => nomatch again) (isCapacity_acquireEvicting positive _ _ _ out) out
      obtain ⟨cause, failed⟩ := allocate_of_refused out
      have consistent := acquired.consistent
      have capacity := acquired.shrinks.capacity
      rw [out] at consistent
      generalize c.acquireEvicting size (some t.key) false 0 = left at *
      cases taken with
      | acquired e n allocator allocated => cases out
      | refused refusal' =>
        have last (k : String) (x : Extent)
            (mapped : (c.after (c.turns size (some t.key) false)).find? k = some x) : x = old := by
          obtain ⟨y, tracked, rfl⟩ := consistent.tracked_of_find? mapped
          rw [alone, List.mem_singleton] at tracked
          rw [tracked, kept] at mapped
          exact (Option.some.inj mapped).symm
        obtain ⟨e, a, allocated⟩ := consistent.allocate_beside positive last
          (capacity ▸ h.stop_le found) (capacity ▸ room)
        rw [allocated] at failed
        cases failed

theorem Consistent.find?_after_turnsToPut (h : c.Consistent none) (found : c.find? key = some old)
    (other : old.size ≠ size) (positive : 0 < size) (fits : size ≤ c.allocator.capacity) :
    (RoomBeside old c.allocator.capacity size →
        (c.after (c.turnsToPut key size)).find? key = some old) ∧
      (¬ RoomBeside old c.allocator.capacity size →
        (c.after (c.turnsToPut key size)).find? key = none) := by
  have unfit : ¬ (size = 0 ∨ c.allocator.capacity < size) := by omega
  have acquired : c.Acquired size (c.acquire size (some key)) := acquired_acquire h (some key)
  rw [← h.acquired_pinned_iff found positive, ← acquire_of_fits positive fits, turnsToPut,
    if_neg (by simp [found, other]), turnsFor, found]
  simp only [turnsToAcquire, if_neg unfit]
  cases tried : c.acquire size (some key) with
  | mk c' out =>
    rw [tried] at acquired
    cases out with
    | ok r =>
      constructor
      · intro _
        exact (find?_after_turns_pinned c size key false).trans found
      · intro refused
        exact absurd ⟨r, rfl⟩ refused
    | error refusal =>
      constructor
      · rintro ⟨_, absent⟩
        cases absent
      · intro _
        simp only [acquired.retries positive fits tried, ↓reduceIte]
        rw [after_append, after_cons]
        have consistent := h.after (c.turns size (some key) false)
        exact ((consistent.evict key).shrinks_after _).absent (find?_evict_self _ key)

end Cache

namespace Tier

variable {t t' : Tier} {key : String} {block : BlockRef} {old : Extent} {ending : Ending}
  {capacity : Nat}

/-- The extents that are taken are those of the resident keys. -/
def Unreserved (t : Tier) : Prop :=
  ∀ e, e ∈ t.cache.allocator.live ↔ ∃ key, t.cache.find? key = some e

theorem Puts.consistent (puts : t.Puts key block ending t') (h : t.cache.Consistent none) :
    t'.cache.Consistent none := by
  by_cases stored : ending = .stored
  · subst stored
    obtain ⟨e, allocator, allocated, left, _⟩ := puts.stored_cases h
    rw [left]
    exact ((h.after _).reserve allocated).commitPut key
  · rcases (puts.unstored h stored).1 with left | left
    · exact left ▸ h.after _
    · exact (h.after _).of_uncounted (by rw [left]; rfl)

/-- The put has not stored its block, and the old copy is there if the pool has room beside it. -/
structure Restores (t : Tier) (key : String) (old : Extent) (room : Prop) (t' : Tier) : Prop where
  kept_iff : (t'.cache.find? key = some old ∧
    t'.copier.readPool old = t.copier.readPool old) ↔ room
  gone : ¬ room → t'.cache.find? key = none
  unreserved : t'.Unreserved

/-- The put has stored its block in one extent, and no other key's extent reaches into the old one.
The new copy may do so if the pool has no room beside the old one. -/
structure Replaces (key : String) (size : Nat) (old : Extent) (room : Prop) (t' : Tier) : Prop where
  mapped : ∃ e, t'.cache.find? key = some e ∧ e.size = size ∧
    (∀ x ∈ t'.cache.allocator.live, x = e ∨ x.Apart old) ∧ (room → e.Apart old)
  freed : old ∉ t'.cache.allocator.live
  unreserved : t'.Unreserved

theorem Puts.restores (puts : t.Puts key block ending t') (h : t.cache.Consistent none)
    (found : t.cache.find? key = some old) (other : old.size ≠ block.size)
    (positive : 0 < block.size) (fits : block.size ≤ t.cache.allocator.capacity)
    (unstored : ending ≠ .stored) :
    t.Restores key old (Cache.RoomBeside old t.cache.allocator.capacity block.size) t' := by
  obtain ⟨kept, gone⟩ := h.find?_after_turnsToPut found other positive fits
  obtain ⟨left, bytes⟩ := puts.unstored h unstored
  have same : t'.cache.find? = (t.cleared key block).find? := by
    rcases left with left | left <;> rw [left]
    rfl
  refine ⟨⟨fun ⟨mapped, _⟩ => ?_, fun room => ?_⟩, fun full => ?_,
    fun e => (puts.consistent h).mem_live_iff⟩
  · apply Classical.byContradiction
    intro full
    rw [same, gone full] at mapped
    cases mapped
  · exact ⟨same ▸ kept room, bytes key old (kept room)⟩
  · rw [same, gone full]

theorem Puts.replaces (puts : t.Puts key block .stored t') (h : t.cache.Consistent none)
    (found : t.cache.find? key = some old) (other : old.size ≠ block.size)
    (positive : 0 < block.size) (fits : block.size ≤ t.cache.allocator.capacity) :
    Replaces key block.size old (Cache.RoomBeside old t.cache.allocator.capacity block.size)
      t' := by
  obtain ⟨kept, _⟩ := h.find?_after_turnsToPut found other positive fits
  obtain ⟨e, allocator, allocated, left, _⟩ := puts.stored_cases h
  have consistent : t'.cache.Consistent none := puts.consistent h
  have size : e.size = block.size := ((h.after _).pool.allocate allocated).2.2.1
  have mapped : t'.cache.find? key = some e := by
    rw [left, Cache.find?_commitPut, if_pos rfl]
  have others (x : Extent) (live : x ∈ t'.cache.allocator.live) : x = e ∨ x.Apart old := by
    obtain ⟨k, there⟩ := consistent.mem_live_iff.mp live
    rw [left, Cache.find?_commitPut] at there
    split at there
    · cases there
      exact Or.inl rfl
    · rename_i different
      have before := (h.shrinks_after (t.cache.turnsToPut key block.size)).kept k x there
      exact Or.inr (h.apart before found different)
  refine ⟨⟨e, mapped, size, others, fun room => ?_⟩, fun live => ?_,
    fun e => consistent.mem_live_iff⟩
  · exact ((h.after _).reserve allocated).apart_reserved (kept room)
  · have some_byte := h.nonempty found
    rcases others old live with same | apart
    · exact other (same ▸ size)
    · simp only [Extent.Apart, Extent.stop] at apart
      omega

/-- A put of a resident key with another size that fails or is dropped leaves the old copy exactly
if the pool has room for both. -/
theorem keeps_old_copy_iff (reachable : Reachable capacity t.cache .idle)
    (found : t.cache.find? key = some old) (other : old.size ≠ block.size)
    (positive : 0 < block.size) (fits : block.size ≤ capacity) :
    (∀ ending t', t.Puts key block ending t' → ending ≠ .stored →
      t.Restores key old (block.size ≤ max old.offset (capacity - old.offset - old.size)) t') ∧
    ∀ t', t.Puts key block .stored t' →
      Replaces key block.size old
        (block.size ≤ max old.offset (capacity - old.offset - old.size)) t' := by
  have h : t.cache.Consistent none := reachable.consistent
  rw [← reachable.capacity_eq] at fits ⊢
  constructor
  · intro ending t' puts unstored
    exact puts.restores h found other positive fits unstored
  · intro t' puts
    exact puts.replaces h found other positive fits

/-- Beside the block at 2 there is room for three bytes, once the others have gone, and not for
four. -/
theorem keeps_old_copy_beside_three :
    ∃ t t₃ t₄ : Tier, Reachable 6 t.cache .idle ∧ t.cache.find? "a" = some ⟨2, 1⟩ ∧
      t.Puts "a" ⟨0, 0, 3⟩ .dropped t₃ ∧ t.Puts "a" ⟨0, 0, 4⟩ .dropped t₄ ∧
      t₃.cache.find? "a" = some ⟨2, 1⟩ ∧ t₄.cache.find? "a" = none ∧
      t.Restores "a" ⟨2, 1⟩ (3 ≤ max 2 (6 - 2 - 1)) t₃ ∧
      t.Restores "a" ⟨2, 1⟩ (4 ≤ max 2 (6 - 2 - 1)) t₄ := by
  let full : Cache :=
    { allocator := ⟨6, 6, [], [], [⟨0, 2⟩, ⟨2, 1⟩, ⟨3, 3⟩]⟩
      entries := [("a", ⟨2, 1⟩), ("x", ⟨0, 2⟩), ("y", ⟨3, 3⟩)]
      recency := [⟨"x", 2⟩, ⟨"a", 1⟩, ⟨"y", 3⟩]
      counters := { insertions := 3 } }
  have empty : Reachable 6 (.new 6) .idle := .new
  have first := empty.store "x" ⟨0, 2⟩ 0 (by cbv) rfl
  have second := first.store "a" ⟨2, 1⟩ 0 (by cbv) rfl
  have reached : Reachable 6 full .idle := second.store "y" ⟨3, 3⟩ 0 (by cbv) (by cbv)
  let t : Tier := ⟨full, { devices := [[1, 2, 3, 4]], pool := [0, 0, 0, 0, 0, 0] }⟩
  have three : t.beginPut "a" ⟨0, 0, 3⟩ =
      ((t.beginPut "a" ⟨0, 0, 3⟩).1, .inr ⟨"a", ⟨3, 3⟩, .toPool [1, 2, 3] ⟨3, 3⟩, 2⟩) :=
    Prod.ext rfl (by cbv)
  have found : t.cache.find? "a" = some ⟨2, 1⟩ := by cbv
  let alone : Cache :=
    { allocator := ⟨6, 1, [⟨0, 2⟩, ⟨3, 3⟩], [⟨0, 2⟩, ⟨3, 3⟩], [⟨2, 1⟩]⟩
      entries := [("a", ⟨2, 1⟩)]
      recency := [⟨"a", 1⟩]
      counters := { insertions := 3, evictions := 2 } }
  let left : Cache :=
    { allocator := ⟨6, 4, [⟨4, 2⟩], [⟨4, 2⟩], [⟨0, 4⟩]⟩
      entries := []
      recency := []
      counters := { insertions := 3, evictions := 3 } }
  have refused : full.acquire 4 (some "a") =
      (alone, .error (.noVictim (.fragmented 4 5))) := by cbv
  have retried : (alone.evict "a").1.acquire 4 none = (left, .ok (⟨0, 4⟩, 0)) := by cbv
  have taken : full.acquireFor "a" 4 = (left, .ok (⟨0, 4⟩, 0)) := by
    have mapped : full.entries.find? "a" = some ⟨2, 1⟩ := found
    rw [Cache.acquireFor, mapped, refused]
    exact retried
  have four : t.beginPut "a" ⟨0, 0, 4⟩ =
      ((t.beginPut "a" ⟨0, 0, 4⟩).1, .inr ⟨"a", ⟨0, 4⟩, .toPool [1, 2, 3, 4] ⟨0, 4⟩, 0⟩) := by
    have begun : t.cache.beginPut "a" 4 = (left, .acquired ⟨0, 4⟩ 0) := by
      change full.beginPut "a" 4 = _
      rw [Cache.beginPut, taken]
      rfl
    rw [beginPut, begun]
    rfl
  have dropped₃ := Puts.dropped three (fun _ _ => rfl)
  have dropped₄ := Puts.dropped four (fun _ _ => rfl)
  have restores₃ := (keeps_old_copy_iff reached found (by decide) (by decide) (by decide)).1 _ _
    dropped₃ (by decide)
  have restores₄ := (keeps_old_copy_iff reached found (by decide) (by decide) (by decide)).1 _ _
    dropped₄ (by decide)
  exact ⟨t, _, _, reached, found, dropped₃, dropped₄, (restores₃.kept_iff.mpr (by decide)).1,
    restores₄.gone (by decide), restores₃, restores₄⟩

end Tier

end BlockTier.L1
