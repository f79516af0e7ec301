import BlockTier.Proofs.L1.Endings
import BlockTier.Proofs.L1.Runs
import BlockTier.Proofs.L1.TurnOrder
/-!
A block that the pool can hold gets its extent. Each turn takes a key from the order of eviction or
moves the pinned one back, and when no key is left the free extents have joined to the whole pool.
-/
namespace BlockTier.L1

namespace Allocator

variable {a : Allocator} {size capacity : Nat}

theorem Partition.eq_new (p : a.Valid) (empty : a.live = []) : a = new a.capacity := by
  apply p.eq_of_live (valid_new _)
  · rw [capacity_new]
  · rw [empty, live_new]

theorem available_new (capacity : Nat) : (new capacity).available = capacity := by
  have unused : (new capacity).used = 0 := by rw [(valid_new capacity).used_eq, live_new]; rfl
  rw [available, capacity_new, unused, Nat.sub_zero]

theorem allocate_new (positive : 0 < size) (fits : size ≤ capacity) :
    ∃ e a, (new capacity).allocate size = .ok (e, a) := by
  have free : (new capacity).bestFit? size = some ⟨0, capacity⟩ := by
    have some_space : 0 < capacity := by omega
    simp [bestFit?, new, some_space, insertFree, insertExtent, fits]
  refine ⟨⟨0, size⟩, (new capacity).take ⟨0, capacity⟩ size, ?_⟩
  rw [allocate, if_neg (by omega), available_new, if_neg (by omega), free]

end Allocator

namespace Cache

variable {c : Cache} {size needed : Nat} {pinned : Option String} {bumped : Bool} {key : String}

theorem Consistent.allocator_eq_new (h : c.Consistent none) (untracked : c.recency = []) :
    c.allocator = .new c.allocator.capacity := by
  have tracked := h.tracked
  rw [untracked, List.nil_perm, List.map_eq_nil_iff] at tracked
  have live := h.live
  rw [tracked] at live
  exact h.pool.eq_new live.eq_nil

/-! ### An extent for a block -/

/-- When all keys may go an extent is found. -/
theorem acquired_unpinned (h : c.Consistent none) (positive : 0 < size)
    (fits : size ≤ c.allocator.capacity) (bumped : Bool) (evicted : Nat) :
    ∃ e n, (c.acquireEvicting size none bumped evicted).2 = .ok (e, n) := by
  generalize unpinned : (none : Option String) = pinned
  fun_induction acquireEvicting c size pinned bumped evicted with
  | case1 c bumped evicted e allocator allocated => exact ⟨e, evicted, rfl⟩
  | case2 c bumped evicted cause failed other =>
    rw [Allocator.isCapacity_of_failed positive failed] at other
    cases other
  | case3 c bumped evicted cause failed full untracked =>
    obtain ⟨e, allocator, allocated⟩ := Allocator.allocate_new positive fits
    rw [h.allocator_eq_new untracked, allocated] at failed
    cases failed
  | case4 c evicted cause failed full oldest rest order pin => cases unpinned.trans pin
  | case5 c bumped evicted cause failed full oldest rest order pin first ih =>
    cases unpinned.trans pin
  | case6 c bumped evicted cause failed full oldest rest order other ih =>
    apply ih (h.evict _)
    rw [(shrinks_evict h _).capacity]
    exact fits

theorem acquired_of_acquire (h : c.Consistent none) (positive : 0 < size)
    (fits : size ≤ c.allocator.capacity) : ∃ e n, (c.acquire size none).2 = .ok (e, n) := by
  rw [acquire_of_fits positive fits]
  exact acquired_unpinned h positive fits false 0

/-- A block that keeps its old copy while it is copied loses that copy rather than its extent. -/
theorem acquired_of_acquireFor (h : c.Consistent none) (key : String) (positive : 0 < size)
    (fits : size ≤ c.allocator.capacity) : ∃ e n, (c.acquireFor key size).2 = .ok (e, n) := by
  unfold acquireFor
  cases c.entries.find? key with
  | none => exact acquired_of_acquire h positive fits
  | some old =>
    have first : c.Acquired size (c.acquire size (some key)) := acquired_acquire h (some key)
    dsimp only
    cases tried : c.acquire size (some key) with
    | mk c' out =>
      rw [tried] at first
      cases out with
      | ok taken => exact ⟨taken.1, taken.2, rfl⟩
      | error refusal =>
        simp only [first.retries positive fits tried, ↓reduceIte]
        apply acquired_of_acquire (first.consistent.evict key) positive
        rw [(shrinks_evict first.consistent key).capacity, first.shrinks.capacity]
        exact fits

theorem Consistent.acquired (h : c.Consistent none) (positive : 0 < size)
    (fits : size ≤ c.allocator.capacity) (other : (c.find? key).map (·.size) ≠ some size) :
    ∃ e evicted, (c.beginPut key size).2 = .acquired e evicted ∧ e.size = size := by
  have begun := h.beginPut key size
  obtain ⟨e, n, taken⟩ := acquired_of_acquireFor h key positive fits
  have acquired : (c.beginPut key size).2 = .acquired e n := by
    unfold Cache.beginPut
    rw [← find?, if_neg other]
    generalize c.acquireFor key size = r at taken
    obtain ⟨c', out⟩ := r
    cases taken
    rfl
  exact ⟨e, n, acquired, begun.size_eq e n acquired⟩

theorem Consistent.not_refused (h : c.Consistent none) (key : String) (positive : 0 < size)
    (fits : size ≤ c.allocator.capacity) (refusal : Refusal) :
    (c.beginPut key size).2 ≠ .refused refusal := by
  intro refused
  by_cases same : (c.find? key).map (·.size) = some size
  · obtain ⟨e, found, size⟩ := Option.map_eq_some_iff.mp same
    rw [beginPut_of_resident found size] at refused
    cases refused
  · obtain ⟨e, n, acquired, _⟩ := h.acquired positive fits same
    rw [acquired] at refused
    cases refused

/-- No mapped block is empty or longer than the pool. -/
theorem Consistent.other_of_unfit (h : c.Consistent none)
    (unfit : size = 0 ∨ c.allocator.capacity < size) (key : String) :
    (c.find? key).map (·.size) ≠ some size := by
  intro same
  obtain ⟨e, found, rfl⟩ := Option.map_eq_some_iff.mp same
  have positive := h.nonempty found
  have inside := h.stop_le found
  rw [Extent.stop] at inside
  omega

/-- What no pool of this capacity could hold is refused at once. -/
theorem Consistent.refused (h : c.Consistent none)
    (unfit : size = 0 ∨ c.allocator.capacity < size) (key : String) :
    ∃ refusal, c.beginPut key size = (c.countRejection, .refused refusal) := by
  have other := h.other_of_unfit unfit key
  rcases unfit with zero | exceeds
  · subst zero
    have zeroSize (pinned : Option String) : c.acquire 0 pinned = (c, .error .zeroSize) :=
      if_pos rfl
    rw [find?] at other
    unfold Cache.beginPut acquireFor
    rw [if_neg other]
    cases c.entries.find? key with
    | none => exact ⟨.zeroSize, by rw [zeroSize]⟩
    | some e =>
      have whole : Refusal.zeroSize.isCapacity = false := rfl
      simp only [zeroSize, whole, Bool.false_and, Bool.false_eq_true, ↓reduceIte]
      exact ⟨_, rfl⟩
  · exact beginPut_of_exceeds other exceeds

theorem enough_of_evictUntil (h : c.Consistent none) (fits : needed ≤ c.allocator.capacity)
    (evicted : Nat) : needed ≤ (c.evictUntil needed evicted).1.allocator.available := by
  fun_induction evictUntil c needed evicted with
  | case1 c evicted enough => exact enough
  | case2 c evicted scarce untracked =>
    have empty := congrArg Allocator.available (h.allocator_eq_new untracked)
    rw [Allocator.available_new] at empty
    omega
  | case3 c evicted scarce oldest rest order ih =>
    apply ih (h.evict _)
    rw [(shrinks_evict h _).capacity]
    exact fits

/-! ### How many turns it takes -/

/-- Each turn but a bump leaves fewer keys. -/
theorem Makes.length_le {ts : List Turn} (makes : Makes pinned c ts) :
    ts.length + (c.after ts).recency.length ≤ c.recency.length + ts.count .bump := by
  induction makes with
  | done c => simp [after]
  | evict order alone next ih =>
    rename_i c oldest rest ts
    have fewer := length_recency_evict_lt order
    rw [after_cons, List.length_cons, List.count_cons_of_ne Turn.noConfusion]
    rw [turn] at ih ⊢
    omega
  | bump order pin next ih =>
    rename_i c oldest rest ts
    have same : (c.turn .bump).recency.length = c.recency.length := by
      rw [turn_bump order, order]
      simp
    rw [after_cons, List.length_cons, List.count_cons_self]
    omega

theorem count_bump_turns (c : Cache) (size : Nat) (pinned : Option String) (bumped : Bool) :
    (c.turns size pinned bumped).count .bump ≤ (!bumped).toNat := by
  fun_induction acquireEvicting c size pinned bumped 0 with
  | case1 c bumped evicted e allocator allocated =>
    rw [turns, allocated]
    exact Nat.zero_le _
  | case2 c bumped evicted cause failed other =>
    rw [turns, failed]
    simp only [other, ↓reduceIte, List.count_nil, Nat.zero_le]
  | case3 c bumped evicted cause failed full order =>
    rw [turns_of_untracked order]
    exact Nat.zero_le _
  | case4 c evicted cause failed full oldest rest order pin =>
    rw [turns_of_failed failed (by simpa using full) order, if_pos pin, if_pos rfl]
    exact Nat.zero_le _
  | case5 c bumped evicted cause failed full oldest rest order pin first ih =>
    rw [turns_of_failed failed (by simpa using full) order, if_pos pin, if_neg first,
      List.count_cons_self]
    cases bumped with
    | true => exact absurd rfl first
    | false => exact Nat.add_le_add_right ih 1
  | case6 c bumped evicted cause failed full oldest rest order other ih =>
    rw [turns_of_failed failed (by simpa using full) order, if_neg other,
      List.count_cons_of_ne Turn.noConfusion]
    exact ih

theorem count_bump_turnsToAcquire (c : Cache) (size : Nat) (pinned : Option String) :
    (c.turnsToAcquire size pinned).count .bump ≤ 1 := by
  unfold turnsToAcquire
  split
  · exact Nat.zero_le _
  · exact count_bump_turns c size pinned false

theorem count_bump_turnsToPut (c : Cache) (key : String) (size : Nat) :
    (c.turnsToPut key size).count .bump ≤ 1 := by
  have unpinned (c : Cache) : (c.turnsToAcquire size none).count .bump = 0 :=
    List.count_eq_zero.mpr (makes_turnsToAcquire c size none).unbumped
  have first := count_bump_turnsToAcquire c size (some key)
  unfold turnsToPut turnsFor
  split
  · exact Nat.zero_le _
  · split
    · rw [unpinned]
      exact Nat.zero_le _
    · dsimp only
      split
      · split
        · rw [List.count_append, List.count_cons_of_ne Turn.noConfusion, unpinned]
          exact first
        · exact first
      · exact first

theorem Consistent.length_turnsToPut (h : c.Consistent none) (key : String) (size : Nat) :
    (c.turnsToPut key size).length ≤ c.recency.length + 1 := by
  have length := (makes_turnsToPut h key size).length_le
  have bumps := count_bump_turnsToPut c key size
  omega

theorem length_turnsToMakeRoom (c : Cache) (needed : Nat) :
    (c.turnsToMakeRoom needed).length ≤ c.recency.length := by
  have makes := makes_turnsToMakeRoom c needed
  have length := makes.length_le
  rw [List.count_eq_zero.mpr makes.unbumped] at length
  omega

end Cache

namespace Tier

/-- How a put that gets its extent begins. The block is there and is touched; or the turns have left
an extent for it, and the put fails if the block cannot be read and waits to copy it otherwise. -/
inductive Obtains (t : Tier) (key : String) (block : BlockRef) :
    Tier × (Status ⊕ Storing) → Prop
  | resident (e : Extent) (s : Status) (found : t.cache.find? key = some e)
    (size : e.size = block.size) (success : s.success = true) :
    Obtains t key block
      ({ t with cache := { t.cache with recency := t.cache.recency.touch key } }, .inl s)
  | unread (e : Extent) (allocator : Allocator) (error : TransferError)
    (allocated : (t.cleared key block).allocator.allocate block.size = .ok (e, allocator))
    (size : e.size = block.size) (unread : t.copier.readDevice block = .error error) :
    Obtains t key block
      (⟨({ t.cleared key block with allocator } : Cache).failPut e, t.copier.countFailure⟩,
        .inl (transferFailure error))
  | waits (e : Extent) (allocator : Allocator) (evicted : Nat) (data : Bytes)
    (allocated : (t.cleared key block).allocator.allocate block.size = .ok (e, allocator))
    (size : e.size = block.size) (read : t.copier.readDevice block = .ok data) :
    Obtains t key block
      ({ t with cache := { t.cleared key block with allocator } },
        .inr ⟨key, e, .toPool data e, evicted⟩)

/-- A put of the block ends with it in the tier unless its copy fails. -/
structure Takes (t : Tier) (key : String) (block : BlockRef) : Prop where
  turns : (t.cache.turnsToPut key block.size).length ≤ t.cache.recency.length + 1
  begins : t.Obtains key block (t.beginPut key block)
  finished : ∀ t' storing copier, t.beginPut key block = (t', .inr storing) →
    (finishPut { t' with copier } storing).2.success = true ∨
      ∃ error, copier.place storing.copying = .error error ∧
        (finishPut { t' with copier } storing).2 = transferFailure error

/-- A call for room is met. -/
structure Clears (t : Tier) (needed : Nat) : Prop where
  turns : (t.cache.turnsToMakeRoom needed).length ≤ t.cache.recency.length
  cache : (t.makeRoom needed).1.cache = t.cache.after (t.cache.turnsToMakeRoom needed)
  enough : needed ≤ (t.makeRoom needed).1.cache.allocator.available
  success : (t.makeRoom needed).2.success = true

variable {t : Tier} {key : String} {block : BlockRef} {needed capacity : Nat}

theorem begin?_store_of_size {c : Copier} {e : Extent} (size : e.size = block.size) :
    c.begin? (.store block e) = (c.readDevice block).map (.toPool · e) := by
  rw [Copier.begin?, if_neg (not_not_intro size.symm)]

theorem obtains_of_fits (h : t.cache.Consistent none) (key : String) (positive : 0 < block.size)
    (fits : block.size ≤ t.cache.allocator.capacity) :
    t.Obtains key block (t.beginPut key block) := by
  have begun := t.cache.begun_beginPut key block.size
  have granted := h.not_refused key positive fits
  have sized := (h.beginPut key block.size).size_eq
  unfold beginPut
  generalize t.cache.beginPut key block.size = left at begun granted sized ⊢
  cases begun with
  | resident e found size => exact .resident e _ found size rfl
  | refused refusal => exact absurd rfl (granted refusal)
  | acquired e evicted allocator allocated =>
    have size : e.size = block.size := sized e evicted rfl
    simp only [Copier.start, begin?_store_of_size size]
    cases read : t.copier.readDevice block with
    | ok data => exact .waits e allocator evicted data allocated size read
    | error error => exact .unread e allocator error allocated size read

theorem takes_of_fits (h : t.cache.Consistent none) (key : String) (positive : 0 < block.size)
    (fits : block.size ≤ t.cache.allocator.capacity) : t.Takes key block := by
  refine ⟨h.length_turnsToPut key block.size, obtains_of_fits h key positive fits, ?_⟩
  intro t' storing copier waits
  have ends := finishPut_ends { t' with copier } storing
  generalize finishPut { t' with copier } storing = r at ends ⊢
  cases ends with
  | stored placed copier' status written same success => exact Or.inl success
  | failed error unwritten => exact Or.inr ⟨error, unwritten, rfl⟩

theorem clears_of_fits (h : t.cache.Consistent none) (fits : needed ≤ t.cache.allocator.capacity) :
    t.Clears needed := by
  have enough := Cache.enough_of_evictUntil h fits 0
  have possible : ¬ t.cache.allocator.capacity < needed := by omega
  refine ⟨t.cache.length_turnsToMakeRoom needed, t.cache.makeRoom_eq_after needed, ?_, ?_⟩
  · rw [makeRoom, Cache.makeRoom, if_neg possible]
    exact enough
  · rw [makeRoom, Cache.makeRoom, if_neg possible]
    dsimp only
    rw [if_pos enough]
    rfl

/-- A block that the pool can hold is never refused, and as much room can be made as the pool has.
More than that is refused before anything has happened. -/
theorem takes_all_that_fits (reachable : Reachable capacity t.cache .idle) :
    (∀ (key : String) (block : BlockRef), 0 < block.size → block.size ≤ capacity →
        t.Takes key block) ∧
      (∀ needed ≤ capacity, t.Clears needed) ∧
      (∀ (key : String) (block : BlockRef), block.size = 0 ∨ capacity < block.size →
        ∃ refusal : Refusal,
          t.beginPut key block =
            ({ t with cache := t.cache.countRejection }, .inl refusal.status)) ∧
      ∀ needed, capacity < needed →
        (t.makeRoom needed).1 = t ∧ (t.makeRoom needed).2.code = .capacityExhausted := by
  have consistent : t.cache.Consistent none := reachable.consistent
  rw [← reachable.capacity_eq]
  refine ⟨fun key block => takes_of_fits consistent key,
    fun needed => clears_of_fits consistent, fun key block unfit => ?_, fun needed exceeds => ?_⟩
  · obtain ⟨refusal, refused⟩ := consistent.refused unfit key
    refine ⟨refusal, ?_⟩
    rw [beginPut, refused]
  · rw [makeRoom, Cache.makeRoom, if_pos exceeds]
    exact ⟨rfl, rfl⟩

/-- The pool cannot hold both copies of the key that is put again, so the old one goes. -/
theorem takes_longer_copy :
    ∃ t : Tier, Reachable 4 t.cache .idle ∧ t.cache.find? "a" = some ⟨0, 2⟩ ∧
      t.Takes "a" ⟨0, 0, 3⟩ := by
  have reachable : Reachable 4 ⟨⟨4, 2, [⟨2, 2⟩], [⟨2, 2⟩], [⟨0, 2⟩]⟩, [("a", ⟨0, 2⟩)], [⟨"a", 2⟩],
      { insertions := 1 }⟩ .idle := by
    have taken : (Cache.new 4).beginPut "a" 2 =
        ({ allocator := ⟨4, 2, [⟨2, 2⟩], [⟨2, 2⟩], [⟨0, 2⟩]⟩ }, .acquired ⟨0, 2⟩ 0) := by cbv
    have waits := Reachable.new.beginPut (congrArg Prod.snd taken)
    rw [taken] at waits
    exact waits.step (.stored _ "a" ⟨0, 2⟩)
  have all := takes_all_that_fits (t := ⟨_, .new 1 8 4 0⟩) reachable
  exact ⟨_, reachable, by cbv, all.1 "a" ⟨0, 0, 3⟩ (by decide) (by decide)⟩

end Tier

end BlockTier.L1
