import BlockTier.Proofs.L1.BestFit
import BlockTier.Proofs.L1.Endings
import BlockTier.Proofs.L1.Runs
import BlockTier.Proofs.L1.TurnOrder
import Mathlib.Data.List.Permutation
import Mathlib.Order.Bounds.Basic
/-!
How many blocks go to make room. The oldest go one after the other, and no more than it takes: as
soon as what is left of the pool has a stretch for the block, or as many bytes as are needed, the
rest stay as they are.
-/
namespace BlockTier.L1

theorem isLeast_succ {P Q : Nat → Prop} {n : Nat} (not : ¬ P 0) (shift : ∀ m, P (m + 1) ↔ Q m)
    (least : IsLeast {m | Q m} n) : IsLeast {m | P m} (n + 1) := by
  refine ⟨(shift n).mpr least.1, fun m holds => ?_⟩
  cases m with
  | zero => exact absurd holds not
  | succ m => exact Nat.succ_le_succ (least.2 ((shift m).mp holds))

namespace Cache

variable {c c' : Cache} {size needed n : Nat} {key : String} {e : Extent} {oldest : Tracked}
  {rest : Recency} {reserved : Option Extent}

/-- When the `n` oldest keys are gone, the others leave a stretch of the pool for the block. -/
def Fits (c : Cache) (size n : Nat) : Prop :=
  ∃ x : Extent, size ≤ x.size ∧ x.stop ≤ c.allocator.capacity ∧
    ∀ t ∈ c.recency.drop n, ∀ e, c.find? t.key = some e → e.Apart x

/-- When the `n` oldest keys are gone, the others leave as many bytes of the pool. -/
def Spares (c : Cache) (needed n : Nat) : Prop :=
  Recency.bytes (c.recency.drop n) + needed ≤ c.allocator.capacity

theorem Consistent.fits_zero_iff (h : c.Consistent none) (positive : 0 < size) :
    c.Fits size 0 ↔ ∃ e a, c.allocator.allocate size = .ok (e, a) := by
  rw [h.pool.allocate_ok_iff]
  constructor
  · rintro ⟨x, long, inside, apart⟩
    refine ⟨positive, ?_⟩
    obtain ⟨y, gap, first, last⟩ := h.pool.exists_gap (x := x) (by omega) inside (fun e live => by
      obtain ⟨key, found⟩ := h.mem_live_iff.mp live
      obtain ⟨t, tracked, rfl⟩ := h.tracked_of_find? found
      exact apart t tracked e found)
    refine ⟨y, gap, ?_⟩
    simp only [Extent.stop] at last
    omega
  · rintro ⟨_, x, gap, long⟩
    exact ⟨x, long, gap.inside, fun t _ e found => gap.apart e (h.mem_live found)⟩

theorem Consistent.spares_zero_iff (h : c.Consistent none) :
    c.Spares needed 0 ↔ needed ≤ c.allocator.available := by
  have inside := h.pool.used_le_capacity
  rw [Spares, List.drop_zero, ← h.used_eq, Allocator.available]
  omega

/-! ### The oldest key goes -/

theorem Consistent.oldest_notMem (h : c.Consistent reserved) (order : c.recency = oldest :: rest) :
    ∀ t ∈ rest, t.key ≠ oldest.key := by
  have nodup := h.recency_nodup
  rw [order, List.map_cons, List.nodup_cons] at nodup
  intro t member same
  exact nodup.1 (same ▸ List.mem_map_of_mem member)

theorem Consistent.recency_evict_oldest (h : c.Consistent reserved)
    (order : c.recency = oldest :: rest) : (c.evict oldest.key).1.recency = rest := by
  rw [recency_evict, order, Recency.remove, List.filter_cons_of_neg (by simp)]
  apply List.filter_eq_self.mpr
  intro t member
  simpa using h.oldest_notMem order t member

theorem Consistent.evictions_evict_oldest (h : c.Consistent reserved)
    (order : c.recency = oldest :: rest) :
    (c.evict oldest.key).1.counters.evictions = c.counters.evictions + 1 := by
  have resident := h.tracked_iff.mp ⟨oldest, order ▸ List.mem_cons_self, rfl⟩
  unfold Cache.evict
  split
  · rename_i absent
    rw [find?, absent] at resident
    cases resident
  · rfl

theorem Consistent.fits_succ_iff (h : c.Consistent reserved)
    (order : c.recency = oldest :: rest) (m : Nat) :
    c.Fits size (m + 1) ↔ (c.evict oldest.key).1.Fits size m := by
  have kept (t : Tracked) (member : t ∈ rest.drop m) :
      (c.evict oldest.key).1.find? t.key = c.find? t.key :=
    find?_evict_other (h.oldest_notMem order t (List.mem_of_mem_drop member))
  unfold Fits
  rw [h.recency_evict_oldest order, (shrinks_evict h _).capacity, order, List.drop_succ_cons]
  constructor
  · rintro ⟨x, long, inside, apart⟩
    refine ⟨x, long, inside, fun t member e found => apart t member e ?_⟩
    rwa [kept t member] at found
  · rintro ⟨x, long, inside, apart⟩
    refine ⟨x, long, inside, fun t member e found => apart t member e ?_⟩
    rwa [kept t member]

theorem Consistent.spares_succ_iff (h : c.Consistent reserved)
    (order : c.recency = oldest :: rest) (m : Nat) :
    c.Spares needed (m + 1) ↔ (c.evict oldest.key).1.Spares needed m := by
  unfold Spares
  rw [h.recency_evict_oldest order, (shrinks_evict h _).capacity, order, List.drop_succ_cons]

/-- The `n` oldest keys are gone and the others are as they were. -/
structure Sheds (c : Cache) (n : Nat) (c' : Cache) : Prop where
  gone : ∀ t ∈ c.recency.take n, c'.find? t.key = none
  kept : ∀ key, (∀ t ∈ c.recency.take n, t.key ≠ key) → c'.find? key = c.find? key
  order : c'.recency = c.recency.drop n
  evictions : c'.counters.evictions = c.counters.evictions + (c.recency.take n).length

theorem Sheds.zero (c : Cache) : c.Sheds 0 c :=
  ⟨fun _ absent => (nomatch absent), fun _ _ => rfl, rfl, rfl⟩

theorem Sheds.succ (h : c.Consistent reserved) (order : c.recency = oldest :: rest)
    (sheds : (c.evict oldest.key).1.Sheds n c') : c.Sheds (n + 1) c' := by
  obtain ⟨gone, kept, left, evictions⟩ := sheds
  rw [h.recency_evict_oldest order] at gone kept left evictions
  refine ⟨fun t member => ?_, fun key others => ?_, ?_, ?_⟩
  · rw [order, List.take_succ_cons] at member
    rcases List.mem_cons.mp member with rfl | later
    · rw [kept t.key fun x early => h.oldest_notMem order x (List.mem_of_mem_take early)]
      exact find?_evict_self c t.key
    · exact gone t later
  · rw [order, List.take_succ_cons] at others
    rw [kept key fun t early => others t (List.mem_cons_of_mem _ early)]
    exact find?_evict_other (others oldest List.mem_cons_self).symm
  · rw [left, order, List.drop_succ_cons]
  · rw [evictions, h.evictions_evict_oldest order, order, List.take_succ_cons, List.length_cons]
    omega

/-! ### The turns -/

theorem Consistent.sheds_turns (h : c.Consistent none) (positive : 0 < size)
    (fits : size ≤ c.allocator.capacity) (bumped : Bool) :
    ∃ n, IsLeast {n | c.Fits size n} n ∧ c.Sheds n (c.after (c.turns size none bumped)) := by
  generalize unpinned : (none : Option String) = pinned
  fun_induction acquireEvicting c size pinned bumped 0 with
  | case1 c bumped evicted e allocator allocated =>
    rw [turns, allocated]
    exact ⟨0, ⟨(h.fits_zero_iff positive).mpr ⟨e, allocator, allocated⟩, fun _ _ => Nat.zero_le _⟩,
      .zero c⟩
  | case2 c bumped evicted cause failed other =>
    rw [Allocator.isCapacity_of_failed positive failed] at other
    cases other
  | case3 c bumped evicted cause failed full untracked =>
    -- with nothing left to evict the whole pool is one gap
    have whole : c.Fits size 0 := by
      refine ⟨⟨0, c.allocator.capacity⟩, fits, by simp [Extent.stop], fun t member => ?_⟩
      rw [untracked] at member
      cases member
    obtain ⟨e, a, allocated⟩ := (h.fits_zero_iff positive).mp whole
    rw [allocated] at failed
    cases failed
  | case4 c evicted cause failed full oldest rest order pin => cases unpinned.trans pin
  | case5 c bumped evicted cause failed full oldest rest order pin first ih =>
    cases unpinned.trans pin
  | case6 c bumped evicted cause failed full oldest rest order other ih =>
    rw [turns_of_failed failed (by simpa using full) order, if_neg other, after_cons]
    obtain ⟨n, least, sheds⟩ := ih (h.evict _) (by rwa [(shrinks_evict h _).capacity])
    refine ⟨n + 1, isLeast_succ ?_ (h.fits_succ_iff order) least, .succ h order sheds⟩
    intro now
    obtain ⟨e, a, allocated⟩ := (h.fits_zero_iff positive).mp now
    rw [allocated] at failed
    cases failed

theorem Consistent.sheds_turnsUntil (h : c.Consistent none)
    (fits : needed ≤ c.allocator.capacity) :
    ∃ n, IsLeast {n | c.Spares needed n} n ∧ c.Sheds n (c.after (c.turnsUntil needed)) := by
  fun_induction Cache.evictUntil c needed 0 with
  | case1 c evicted enough =>
    rw [turnsUntil, if_pos enough]
    exact ⟨0, ⟨h.spares_zero_iff.mpr enough, fun _ _ => Nat.zero_le _⟩, .zero c⟩
  | case2 c evicted scarce untracked =>
    have whole : c.Spares needed 0 := by
      rw [Spares, untracked]
      exact (Nat.zero_add _).trans_le fits
    exact absurd (h.spares_zero_iff.mp whole) scarce
  | case3 c evicted scarce oldest rest order ih =>
    rw [turnsUntil_of_scarce scarce order, after_cons]
    obtain ⟨n, least, sheds⟩ := ih (h.evict _) (by rwa [(shrinks_evict h _).capacity])
    exact ⟨n + 1, isLeast_succ (fun now => scarce (h.spares_zero_iff.mp now))
      (h.spares_succ_iff order) least, .succ h order sheds⟩

theorem Consistent.sheds_turnsToPut (h : c.Consistent none) (absent : c.find? key = none)
    (positive : 0 < size) (fits : size ≤ c.allocator.capacity) :
    ∃ n, IsLeast {n | c.Fits size n} n ∧ c.Sheds n (c.after (c.turnsToPut key size)) := by
  have turns : c.turnsToPut key size = c.turns size none false := by
    rw [turnsToPut, if_neg (by simp [absent]), turnsFor, absent]
    exact if_neg (by omega)
  rw [turns]
  exact h.sheds_turns positive fits false

end Cache

namespace Tier

variable {t t' : Tier} {key : String} {block : BlockRef} {ending : Ending} {needed n capacity : Nat}

/-- The blocks of the `n` oldest keys are evicted. Every other one keeps its extent, its bytes and
its place in the order, behind which the keys that are added come. -/
structure Sheds (t : Tier) (n : Nat) (added : Recency) (t' : Tier) : Prop where
  gone : ∀ x ∈ t.cache.recency.take n, t'.cache.find? x.key = none
  extents : ∀ x ∈ t.cache.recency.drop n, t'.cache.find? x.key = t.cache.find? x.key
  bytes : ∀ x ∈ t.cache.recency.drop n, t'.read? x.key = t.read? x.key
  order : t'.cache.recency = t.cache.recency.drop n ++ added
  evictions : t'.cache.counters.evictions =
    t.cache.counters.evictions + (t.cache.recency.take n).length

theorem read?_congr (found : t'.cache.find? key = t.cache.find? key)
    (same : ∀ x, t.cache.find? key = some x → t'.copier.readPool x = t.copier.readPool x) :
    t'.read? key = t.read? key := by
  rw [read?, read?, found]
  cases there : t.cache.find? key with
  | none => rfl
  | some x => exact congrArg Except.toOption (same x there)

/-- A key behind the oldest ones is none of them. -/
theorem ne_of_mem_drop {r : Recency} (once : (r.map (·.key)).Nodup) {x y : Tracked}
    (early : x ∈ r.take n) (late : y ∈ r.drop n) : x.key ≠ y.key := by
  rw [← List.take_append_drop n r, List.map_append] at once
  exact (List.nodup_append.mp once).2.2 _ (List.mem_map_of_mem early) _
    (List.mem_map_of_mem late)

theorem sheds_of_cache {c : Cache} (h : t.cache.Consistent none) (sheds : t.cache.Sheds n c)
    {added : Recency} (mapped : ∀ x ∈ t.cache.recency, t'.cache.find? x.key = c.find? x.key)
    (bytes : ∀ k x, c.find? k = some x → t'.copier.readPool x = t.copier.readPool x)
    (order : t'.cache.recency = c.recency ++ added)
    (evictions : t'.cache.counters.evictions = c.counters.evictions) :
    t.Sheds n added t' := by
  have kept (x : Tracked) (late : x ∈ t.cache.recency.drop n) :
      c.find? x.key = t.cache.find? x.key :=
    sheds.kept x.key fun y early => ne_of_mem_drop h.recency_nodup early late
  have extents (x : Tracked) (late : x ∈ t.cache.recency.drop n) :
      t'.cache.find? x.key = t.cache.find? x.key :=
    (mapped x (List.mem_of_mem_drop late)).trans (kept x late)
  refine ⟨fun x early => ?_, extents, fun x late => ?_, ?_, ?_⟩
  · rw [mapped x (List.mem_of_mem_take early)]
    exact sheds.gone x early
  · exact read?_congr (extents x late) fun e found => bytes x.key e ((kept x late).trans found)
  · rw [order, sheds.order]
  · rw [evictions, sheds.evictions]

theorem Puts.sheds (puts : t.Puts key block ending t') (h : t.cache.Consistent none)
    (absent : t.cache.find? key = none) (sheds : t.cache.Sheds n (t.cleared key block)) :
    t.Sheds n (if ending = .stored then [⟨key, block.size⟩] else []) t' := by
  have others (x : Tracked) (tracked : x ∈ t.cache.recency) : x.key ≠ key := by
    rintro rfl
    have resident := h.tracked_iff.mp ⟨x, tracked, rfl⟩
    rw [absent] at resident
    cases resident
  -- only a block that is stored is mapped and tracked, and behind all that stay
  by_cases stored : ending = .stored
  · subst stored
    obtain ⟨e, allocator, allocated, left, bytes⟩ := puts.stored_cases h
    have size : e.size = block.size := ((h.after _).pool.allocate allocated).2.2.1
    refine sheds_of_cache h sheds (fun x tracked => ?_) bytes ?_ (by rw [left]; rfl)
    · rw [left, Cache.find?_commitPut, if_neg (others x tracked)]
      rfl
    · rw [left, if_pos rfl]
      change Recency.track _ key e.size = _
      rw [Recency.track, size, Recency.remove, List.filter_eq_self.mpr]
      intro x kept
      rw [sheds.order] at kept
      simpa using others x (List.mem_of_mem_drop kept)
  · obtain ⟨left, bytes⟩ := puts.unstored h stored
    rw [if_neg stored]
    rcases left with left | left
    · exact sheds_of_cache h sheds (fun _ _ => by rw [left]) bytes (by rw [left, List.append_nil])
        (by rw [left])
    · exact sheds_of_cache h sheds (fun _ _ => by rw [left]; rfl) bytes
        (by rw [left, List.append_nil]; rfl) (by rw [left]; rfl)

/-- A put of a new block evicts the fewest of the oldest keys that leave a stretch of the pool for
it, however it ends, and a call for room the fewest that leave as many bytes. -/
theorem evicts_fewest (reachable : Reachable capacity t.cache .idle) :
    (∀ (key : String) (block : BlockRef), t.cache.find? key = none → 0 < block.size →
      block.size ≤ capacity → ∃ n, IsLeast {n | t.cache.Fits block.size n} n ∧
        ∀ ending t', t.Puts key block ending t' →
          t.Sheds n (if ending = .stored then [⟨key, block.size⟩] else []) t') ∧
      ∀ needed ≤ capacity, ∃ n, IsLeast {n | t.cache.Spares needed n} n ∧
        t.Sheds n [] (t.makeRoom needed).1 := by
  have consistent : t.cache.Consistent none := reachable.consistent
  rw [← reachable.capacity_eq]
  refine ⟨fun key block absent positive fits => ?_, fun needed fits => ?_⟩
  · obtain ⟨n, least, sheds⟩ := consistent.sheds_turnsToPut absent positive fits
    exact ⟨n, least, fun ending t' puts => puts.sheds consistent absent sheds⟩
  · obtain ⟨n, least, sheds⟩ := consistent.sheds_turnsUntil fits
    have left : (t.makeRoom needed).1.cache = t.cache.after (t.cache.turnsUntil needed) := by
      have made : (t.makeRoom needed).1.cache = t.cache.after (t.cache.turnsToMakeRoom needed) :=
        t.cache.makeRoom_eq_after needed
      rw [made, Cache.turnsToMakeRoom, if_neg (by omega)]
    exact ⟨n, least, sheds_of_cache consistent sheds (fun _ _ => by rw [left])
      (fun _ _ _ => rfl) (by rw [left, List.append_nil]) (by rw [left])⟩

/-- The two oldest blocks go, since only together they leave a stretch that is long enough. -/
theorem evicts_fewest_that_join :
    ∃ t t' : Tier, Reachable 6 t.cache .idle ∧ t.Puts "d" ⟨0, 0, 3⟩ .stored t' ∧
      t'.cache.recency = [⟨"c", 3⟩, ⟨"d", 3⟩] ∧
      (∃ n, IsLeast {n | t.cache.Fits 3 n} n ∧ t.Sheds n [⟨"d", 3⟩] t') ∧
      ∃ n, IsLeast {n | t.cache.Spares 3 n} n ∧ t.Sheds n [] (t.makeRoom 3).1 := by
  let full : Cache :=
    { allocator := ⟨6, 6, [], [], [⟨0, 2⟩, ⟨2, 1⟩, ⟨3, 3⟩]⟩
      entries := [("a", ⟨0, 2⟩), ("b", ⟨2, 1⟩), ("c", ⟨3, 3⟩)]
      recency := [⟨"a", 2⟩, ⟨"b", 1⟩, ⟨"c", 3⟩]
      counters := { insertions := 3 } }
  have empty : Reachable 6 (.new 6) .idle := .new
  have first := empty.store "a" ⟨0, 2⟩ 0 (by cbv) rfl
  have second := first.store "b" ⟨2, 1⟩ 0 (by cbv) rfl
  have reached : Reachable 6 full .idle := second.store "c" ⟨3, 3⟩ 0 (by cbv) (by cbv)
  let t : Tier := ⟨full, { devices := [[1, 2, 3]], pool := [0, 0, 0, 0, 0, 0] }⟩
  have begun : t.beginPut "d" ⟨0, 0, 3⟩ =
      ((t.beginPut "d" ⟨0, 0, 3⟩).1, .inr ⟨"d", ⟨0, 3⟩, .toPool [1, 2, 3] ⟨0, 3⟩, 2⟩) :=
    Prod.ext rfl (by cbv)
  have all := evicts_fewest (t := t) reached
  obtain ⟨n, least, sheds⟩ := all.1 "d" ⟨0, 0, 3⟩ (by cbv) (by decide) (by decide)
  have puts := Puts.stored begun (fun _ _ => rfl) (by cbv)
  exact ⟨t, _, reached, puts, by cbv, ⟨n, least, sheds _ _ puts⟩, all.2 3 (by decide)⟩

end Tier

end BlockTier.L1
