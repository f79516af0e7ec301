import BlockTier.Proofs.L1.Consistency
/-!
Taking an extent for a block. Whatever is evicted on the way, the cache stays consistent and maps
nothing new; the extent that comes out is reserved and has the block's size.
-/
namespace BlockTier.L1.Cache

variable {c : Cache} {size : Nat} {reserved : Option Extent}

theorem shrinks_evict (h : c.Consistent reserved) (key : String) : c.Shrinks (c.evict key).1 := by
  unfold evict
  split
  · exact ⟨rfl, fun _ _ found => found⟩
  · rename_i e found
    refine ⟨(h.pool.release (h.mem_live found)).2.2, fun k x kept => ?_⟩
    simp only [find?, Table.find?_erase] at kept
    split at kept
    · cases kept
    · exact kept

structure Acquired (c : Cache) (size : Nat) (r : Cache × Except Refusal (Extent × Nat)) : Prop where
  shrinks : c.Shrinks r.1
  consistent : r.1.Consistent (r.2.toOption.map Prod.fst)
  size_eq : ∀ e evicted, r.2 = .ok (e, evicted) → e.size = size

theorem Acquired.of_shrinks {c₁ c₂ : Cache} {r : Cache × Except Refusal (Extent × Nat)}
    (shrinks : c₁.Shrinks c₂) (acquired : c₂.Acquired size r) : c₁.Acquired size r :=
  ⟨shrinks.trans acquired.shrinks, acquired.consistent, acquired.size_eq⟩

theorem Acquired.refused (h : c.Consistent none) (refusal : Refusal) :
    c.Acquired size (c, .error refusal) :=
  ⟨.refl c, h, fun _ _ absent => nomatch absent⟩

theorem acquired_acquireEvicting (h : c.Consistent none) (pinned : Option String) (bumped : Bool)
    (evicted : Nat) : c.Acquired size (c.acquireEvicting size pinned bumped evicted) := by
  fun_induction acquireEvicting c size pinned bumped evicted with
  | case1 c bumped evicted e allocator allocated =>
    obtain ⟨_, _, size_eq, capacity⟩ := h.pool.allocate allocated
    refine ⟨⟨capacity, fun _ _ found => found⟩, h.reserve allocated, ?_⟩
    intro x n same
    cases same
    exact size_eq
  | case2 c bumped evicted cause _ _ => exact .refused h _
  | case3 => exact .refused h _
  | case4 => exact .refused h _
  | case5 c bumped evicted cause _ _ oldest rest order _ _ ih =>
    have same : c.Shrinks { c with recency := rest ++ [oldest] } := ⟨rfl, fun _ _ found => found⟩
    exact .of_shrinks same (ih (h.bump order))
  | case6 c bumped evicted cause _ _ oldest rest order _ ih =>
    exact .of_shrinks (shrinks_evict h _) (ih (h.evict _))

theorem acquired_acquire (h : c.Consistent none) (pinned : Option String) :
    c.Acquired size (c.acquire size pinned) := by
  unfold acquire
  split
  · exact .refused h _
  · split
    · exact .refused h _
    · exact acquired_acquireEvicting h pinned false 0

theorem acquired_acquireFor (h : c.Consistent none) (key : String) :
    c.Acquired size (c.acquireFor key size) := by
  unfold acquireFor
  split
  · exact acquired_acquire h none
  · have first : c.Acquired size (c.acquire size (some key)) := acquired_acquire h (some key)
    split
    · rename_i c' refusal tried
      rw [tried] at first
      split
      · have evicted := first.consistent.evict key
        exact .of_shrinks (first.shrinks.trans (shrinks_evict first.consistent key))
          (acquired_acquire evicted none)
      · exact first
    · exact first

/-- The extent that a put has taken, if it has to copy. -/
def PutStart.reserved? : PutStart → Option Extent
  | .acquired e _ => some e
  | _ => none

structure PutBegun (c : Cache) (size : Nat) (r : Cache × PutStart) : Prop where
  shrinks : c.Shrinks r.1
  consistent : r.1.Consistent r.2.reserved?
  size_eq : ∀ e evicted, r.2 = .acquired e evicted → e.size = size

theorem Consistent.beginPut (h : c.Consistent none) (key : String) (size : Nat) :
    c.PutBegun size (c.beginPut key size) := by
  unfold Cache.beginPut
  split
  · exact ⟨⟨rfl, fun _ _ found => found⟩, ⟨h.pool, h.sorted, h.live, h.touch key⟩,
      fun _ _ absent => nomatch absent⟩
  · have acquired : c.Acquired size (c.acquireFor key size) := acquired_acquireFor h key
    split
    · rename_i c' e evicted taken
      rw [taken] at acquired
      refine ⟨acquired.shrinks, acquired.consistent, ?_⟩
      intro x n same
      cases same
      exact acquired.size_eq _ _ rfl
    · rename_i c' refusal refused
      rw [refused] at acquired
      have kept := acquired.consistent
      exact ⟨⟨acquired.shrinks.capacity, acquired.shrinks.kept⟩,
        ⟨kept.pool, kept.sorted, kept.live, kept.tracked⟩, fun _ _ absent => nomatch absent⟩

theorem isCapacity_acquireEvicting (positive : 0 < size) (pinned : Option String) (bumped : Bool)
    (evicted : Nat) {refusal : Refusal}
    (refused : (c.acquireEvicting size pinned bumped evicted).2 = .error refusal) :
    refusal.isCapacity = true := by
  fun_induction acquireEvicting c size pinned bumped evicted with
  | case1 => cases refused
  | case2 c bumped evicted cause failed other =>
    rw [Allocator.isCapacity_of_failed positive failed] at other
    cases other
  | case3 | case4 =>
    cases refused
    rfl
  | case5 _ _ _ _ _ _ _ _ _ _ _ ih => exact ih refused
  | case6 _ _ _ _ _ _ _ _ _ _ ih => exact ih refused

theorem acquire_of_fits (positive : 0 < size) (fits : size ≤ c.allocator.capacity)
    (pinned : Option String) :
    c.acquire size pinned = c.acquireEvicting size pinned false 0 := by
  rw [acquire, if_neg (Nat.ne_of_gt positive), if_neg (Nat.not_lt_of_le fits)]

/-- A put of a block that the pool could hold is not refused before its old copy is gone. -/
theorem Acquired.retries {c' : Cache} {refusal : Refusal} {pinned : Option String}
    (first : c.Acquired size (c', .error refusal)) (positive : 0 < size)
    (fits : size ≤ c.allocator.capacity) (tried : c.acquire size pinned = (c', .error refusal)) :
    (refusal.isCapacity && decide (size ≤ c'.allocator.capacity)) = true := by
  have refused := congrArg Prod.snd tried
  rw [acquire_of_fits positive fits] at refused
  have full := isCapacity_acquireEvicting positive _ _ _ refused
  have room : size ≤ c'.allocator.capacity := first.shrinks.capacity ▸ fits
  simp only [full, room, decide_true, Bool.and_self]

theorem find?_evict_self (c : Cache) (key : String) : (c.evict key).1.find? key = none := by
  unfold evict
  split
  · assumption
  · simp only [find?, Table.find?_erase, ↓reduceIte]

theorem find?_acquireFor_of_refused (h : c.Consistent none) {key : String} {refusal : Refusal}
    (positive : 0 < size) (fits : size ≤ c.allocator.capacity)
    (refused : (c.acquireFor key size).2 = .error refusal) :
    (c.acquireFor key size).1.find? key = none := by
  have acquired : c.Acquired size (c.acquireFor key size) := acquired_acquireFor h key
  cases there : c.find? key with
  | none => exact acquired.shrinks.absent there
  | some e =>
    have first : c.Acquired size (c.acquire size (some key)) := acquired_acquire h (some key)
    unfold acquireFor at refused ⊢
    rw [find?] at there
    rw [there] at refused ⊢
    dsimp only at refused ⊢
    cases tried : c.acquire size (some key) with
    | mk c' out =>
      rw [tried] at first refused
      cases out with
      | ok taken => cases refused
      | error refusal' =>
        simp only [first.retries positive fits tried, ↓reduceIte]
        exact (acquired_acquire (first.consistent.evict key) none).shrinks.absent
          (find?_evict_self c' key)

/-- A block that the pool could hold is refused only when not even its old copy is left. -/
theorem find?_beginPut_of_refused (h : c.Consistent none) {key : String} {refusal : Refusal}
    (positive : 0 < size) (fits : size ≤ c.allocator.capacity)
    (refused : (c.beginPut key size).2 = .refused refusal) :
    (c.beginPut key size).1.find? key = none := by
  unfold beginPut at refused ⊢
  split at refused
  · cases refused
  · rename_i other
    rw [if_neg other]
    split at refused
    · cases refused
    · rename_i taken
      have none_left := find?_acquireFor_of_refused h positive fits (congrArg Prod.snd taken)
      rw [taken] at none_left
      exact none_left

theorem find?_beginPut_of_resident {key : String} {e : Extent} (found : c.find? key = some e)
    (same : e.size = size) : (c.beginPut key size).1.find? key = some e := by
  rw [beginPut, if_pos]
  · exact found
  · rw [← find?, found, Option.map_some, same]

theorem beginPut_of_exceeds {key : String} (other : (c.find? key).map (·.size) ≠ some size)
    (exceeds : c.allocator.capacity < size) :
    ∃ refusal, c.beginPut key size = (c.countRejection, .refused refusal) := by
  have refused (pinned : Option String) :
      c.acquire size pinned = (c, .error (.exceedsCapacity size c.allocator.capacity)) := by
    rw [acquire, if_neg (by omega), if_pos exceeds]
  rw [find?] at other
  unfold beginPut acquireFor
  rw [if_neg other]
  cases c.entries.find? key with
  | none => exact ⟨_, by rw [refused]⟩
  | some e =>
    have unfit : ¬ size ≤ c.allocator.capacity := by omega
    simp only [refused, unfit, decide_false, Bool.and_false, Bool.false_eq_true, ↓reduceIte]
    exact ⟨_, rfl⟩

theorem fits_of_acquired {key : String} {size evicted : Nat} {e : Extent}
    (other : (c.find? key).map (·.size) ≠ some size)
    (taken : (c.beginPut key size).2 = .acquired e evicted) : size ≤ c.allocator.capacity := by
  apply Nat.le_of_not_lt
  intro exceeds
  obtain ⟨refusal, rejected⟩ := beginPut_of_exceeds other exceeds
  rw [rejected] at taken
  cases taken

theorem Consistent.evictUntil (h : c.Consistent none) (needed evicted : Nat) :
    (c.evictUntil needed evicted).1.Consistent none ∧
      c.Shrinks (c.evictUntil needed evicted).1 := by
  fun_induction Cache.evictUntil c needed evicted with
  | case1 | case2 => exact ⟨h, .refl _⟩
  | case3 c evicted _ oldest rest order ih =>
    obtain ⟨consistent, shrinks⟩ := ih (h.evict _)
    exact ⟨consistent, (shrinks_evict h _).trans shrinks⟩

theorem Consistent.makeRoom (h : c.Consistent none) (needed : Nat) :
    (c.makeRoom needed).1.Consistent none ∧ c.Shrinks (c.makeRoom needed).1 := by
  unfold Cache.makeRoom
  dsimp only
  split
  · exact ⟨h, .refl c⟩
  · exact h.evictUntil needed 0

end BlockTier.L1.Cache
