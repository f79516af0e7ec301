import BlockTier.Proofs.L1.Runs
import Mathlib.Data.List.Permutation
import Mathlib.Logic.ExistsUnique
/-!
The representation of the first tier between two operations: the key map is a bijection between
the resident keys and the live extents, and the three counts of bytes are one number.
-/
namespace BlockTier.L1

namespace Cache

/-- The key map, the allocator and the order of eviction describe the same resident blocks. -/
structure Represents (c : Cache) (capacity : Nat) : Prop where
  mapped_live : ∀ key e, c.find? key = some e → e ∈ c.allocator.live
  live_mapped : ∀ e ∈ c.allocator.live, ∃! key, c.find? key = some e
  live_once : c.allocator.live.Nodup
  mapped_apart : ∀ key key' e e', c.find? key = some e → c.find? key' = some e' → key ≠ key' →
    e.Apart e'
  mapped_inside : ∀ key e, c.find? key = some e → 0 < e.size ∧ e.stop ≤ capacity
  tracked : ∀ key size, ⟨key, size⟩ ∈ c.recency ↔ ∃ e, c.find? key = some e ∧ e.size = size
  tracked_once : (c.recency.map Tracked.key).Nodup
  used_eq_resident : c.stats.used = c.stats.residentBytes
  resident_eq_tracked : c.stats.residentBytes = c.stats.trackedBytes
  used_le_capacity : c.stats.used ≤ c.stats.capacity
  capacity_eq : c.stats.capacity = capacity

end Cache

open Cache in
/-- Whenever the lock is free the first tier represents its resident blocks, however the copies of
the run ended. -/
theorem represents_of_reachable {capacity : Nat} {c : Cache} (h : Reachable capacity c .idle) :
    c.Represents capacity := by
  have consistent : c.Consistent none := h.consistent
  have capacity_eq := h.capacity_eq
  have used : c.allocator.used = c.residentBytes := by
    rw [consistent.pool.used_eq, residentBytes]
    exact (consistent.live.map Extent.size).sum_nat
  have resident : c.residentBytes = c.recency.bytes := by
    rw [residentBytes, Recency.bytes, (consistent.tracked.map Tracked.size).sum_nat]
    simp only [Table.values, List.map_map, Function.comp_def]
  refine
    { mapped_live := fun key e found => consistent.mem_live found
      live_mapped := ?_
      live_once := consistent.pool.live_nodup
      mapped_apart := fun key key' e e' found found' => consistent.apart found found'
      mapped_inside := ?_
      tracked := ?_
      tracked_once := ?_
      used_eq_resident := used
      resident_eq_tracked := resident
      used_le_capacity := consistent.pool.used_le_capacity
      capacity_eq := capacity_eq }
  · intro e live
    have value : e ∈ c.entries.values := by simpa using consistent.live.mem_iff.mp live
    obtain ⟨⟨key, e⟩, entry, rfl⟩ := List.mem_map.mp value
    have found := consistent.mem_entries_iff.mpr entry
    exact ⟨key, found, fun key' found' => consistent.key_unique found' found⟩
  · intro key e found
    exact ⟨consistent.nonempty found, capacity_eq ▸ consistent.stop_le found⟩
  · intro key size
    rw [consistent.tracked.mem_iff, List.mem_map]
    constructor
    · rintro ⟨⟨k, e⟩, entry, same⟩
      cases same
      exact ⟨e, consistent.mem_entries_iff.mpr entry, rfl⟩
    · rintro ⟨e, found, rfl⟩
      exact ⟨(key, e), consistent.mem_entries_iff.mp found, rfl⟩
  · have keys := (consistent.tracked.map Tracked.key).nodup_iff
    rw [keys, List.map_map]
    exact consistent.keys_nodup

/-- A put that evicts another key and is dropped, and then one that is not. -/
theorem represents_after_dropped_put :
    ∃ c, Reachable 100 c .idle ∧ c.find? "a" = none ∧ c.find? "b" = some ⟨0, 40⟩ ∧
      c.Represents 100 := by
  let holder (key : String) (size : Nat) (counters : Counters) : Cache :=
    ⟨⟨100, size, [⟨size, 100 - size⟩], [⟨size, 100 - size⟩], [⟨0, size⟩]⟩, [(key, ⟨0, size⟩)],
      [⟨key, size⟩], counters⟩
  have first : Reachable 100 (holder "a" 60 { insertions := 1 }) .idle := by
    have taken : ((Cache.new 100).beginPut "a" 60).2 = .acquired ⟨0, 60⟩ 0 := by cbv
    have stored := (Reachable.new.beginPut taken).step (.stored _ "a" ⟨0, 60⟩)
    have same : ((Cache.new 100).beginPut "a" 60).1.commitPut "a" ⟨0, 60⟩ =
        holder "a" 60 { insertions := 1 } := by cbv
    exact same ▸ stored
  have dropped : Reachable 100 { Cache.new 100 with counters := ⟨0, 0, 1, 1, 0⟩ } .idle := by
    have taken : ((holder "a" 60 { insertions := 1 }).beginPut "b" 60).2 =
        .acquired ⟨0, 60⟩ 1 := by cbv
    have dropped := (first.beginPut taken).step (.storeDropped _ "b" ⟨0, 60⟩)
    have same : ((holder "a" 60 { insertions := 1 }).beginPut "b" 60).1.dropPut ⟨0, 60⟩ =
        { Cache.new 100 with counters := ⟨0, 0, 1, 1, 0⟩ } := by cbv
    exact same ▸ dropped
  have last : Reachable 100 (holder "b" 40 ⟨0, 0, 2, 1, 0⟩) .idle := by
    have taken : ({ Cache.new 100 with counters := ⟨0, 0, 1, 1, 0⟩ } : Cache).beginPut "b" 40 =
        (⟨⟨100, 40, [⟨40, 60⟩], [⟨40, 60⟩], [⟨0, 40⟩]⟩, [], [], ⟨0, 0, 1, 1, 0⟩⟩,
          .acquired ⟨0, 40⟩ 0) := by cbv
    have stored := (dropped.beginPut (congrArg Prod.snd taken)).step (.stored _ "b" ⟨0, 40⟩)
    rw [taken] at stored
    exact stored
  exact ⟨_, last, by cbv, by cbv, represents_of_reachable last⟩

end BlockTier.L1
