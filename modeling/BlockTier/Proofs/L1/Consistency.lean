import BlockTier.L1.Cache
import BlockTier.Proofs.L1.Allocation
import BlockTier.Proofs.SortedTable
/-!
The key map, the allocator and the order of eviction agree: live are the mapped extents and at
most one that is reserved for a copy, tracked are the mapped keys with their sizes.
-/
namespace BlockTier.L1

theorem Recency.remove_perm {r : Recency} {t : Table Extent}
    (tracked : r.Perm (t.map (fun e => ⟨e.1, e.2.size⟩))) (key : String) :
    (r.remove key).Perm ((t.erase key).map (fun e => ⟨e.1, e.2.size⟩)) := by
  have filtered := tracked.filter (fun x => decide (x.key ≠ key))
  rwa [List.filter_map] at filtered

namespace Cache

structure Consistent (c : Cache) (reserved : Option Extent) : Prop where
  pool : c.allocator.Valid
  sorted : c.entries.Sorted
  live : c.allocator.live.Perm (reserved.toList ++ c.entries.values)
  tracked : c.recency.Perm (c.entries.map (fun e => ⟨e.1, e.2.size⟩))

/-- Of what the first cache maps the second one keeps some. -/
structure Shrinks (c c' : Cache) : Prop where
  capacity : c'.allocator.capacity = c.allocator.capacity
  kept : ∀ key e, c'.find? key = some e → c.find? key = some e

theorem Shrinks.refl (c : Cache) : c.Shrinks c := ⟨rfl, fun _ _ found => found⟩

theorem Shrinks.trans {c₁ c₂ c₃ : Cache} (first : c₁.Shrinks c₂) (second : c₂.Shrinks c₃) :
    c₁.Shrinks c₃ :=
  ⟨second.capacity.trans first.capacity, fun key e found =>
    first.kept key e (second.kept key e found)⟩

theorem Shrinks.absent {c c' : Cache} {key : String} (shrinks : c.Shrinks c')
    (absent : c.find? key = none) : c'.find? key = none := by
  apply Option.eq_none_iff_forall_ne_some.mpr
  intro e found
  have before := shrinks.kept key e found
  rw [absent] at before
  cases before

/-- The cache without its counts. -/
def uncounted (c : Cache) : Cache := { c with counters := {} }

variable {c : Cache} {reserved : Option Extent} {key key' : String} {e e' : Extent}

theorem find?_of_uncounted {c' : Cache} (same : c'.uncounted = c.uncounted) :
    c'.find? = c.find? := by
  have found := congrArg find? same
  exact found

theorem Consistent.of_uncounted {c' : Cache} (h : c.Consistent reserved)
    (same : c'.uncounted = c.uncounted) : c'.Consistent reserved := by
  obtain ⟨allocator, entries, recency, counters⟩ := c'
  cases same
  exact ⟨h.pool, h.sorted, h.live, h.tracked⟩

theorem consistent_new (capacity : Nat) : (new capacity).Consistent none where
  pool := Allocator.valid_new capacity
  sorted := List.Pairwise.nil
  live := by simp [new, Table.values]
  tracked := List.Perm.refl _

theorem find?_commitPut (c : Cache) (key : String) (e : Extent) (k : String) :
    (c.commitPut key e).find? k = if k = key then some e else c.find? k := by
  simp only [find?, commitPut, Table.find?_insert]

namespace Consistent

theorem values_perm (h : c.Consistent reserved) (found : c.find? key = some e) :
    c.entries.values.Perm (e :: (c.entries.erase key).values) :=
  (h.sorted.perm_erase found).map Prod.snd

theorem mem_live (h : c.Consistent reserved) (found : c.find? key = some e) :
    e ∈ c.allocator.live := by
  rw [h.live.mem_iff]
  apply List.mem_append_right
  exact (h.values_perm found).mem_iff.mpr List.mem_cons_self

theorem keys_nodup (h : c.Consistent reserved) : (c.entries.map Prod.fst).Nodup := by
  rw [List.Nodup, List.pairwise_map]
  exact h.sorted.imp (fun before => String.ne_of_lt before)

theorem mem_entries_iff (h : c.Consistent reserved) : c.find? key = some e ↔ (key, e) ∈ c.entries :=
  h.sorted.find?_eq_some_iff

theorem mem_live_iff (h : c.Consistent none) :
    e ∈ c.allocator.live ↔ ∃ key, c.find? key = some e := by
  constructor
  · intro live
    obtain ⟨⟨key, x⟩, entry, rfl⟩ := List.mem_map.mp (h.live.mem_iff.mp live)
    exact ⟨key, h.mem_entries_iff.mpr entry⟩
  · rintro ⟨key, found⟩
    exact h.mem_live found

theorem used_eq (h : c.Consistent none) : c.allocator.used = c.recency.bytes := by
  have mapped := (h.live.map Extent.size).sum_nat
  have tracked := (h.tracked.map Tracked.size).sum_nat
  rw [List.map_map] at tracked
  rw [Table.values, Option.toList_none, List.nil_append, List.map_map] at mapped
  exact h.pool.used_eq.trans (mapped.trans tracked.symm)

theorem apart (h : c.Consistent reserved) (found : c.find? key = some e)
    (found' : c.find? key' = some e') (different : key ≠ key') : e.Apart e' := by
  have pairwise := (h.live.pairwise h.pool.live_pairwise Extent.Apart.symm)
  have values := (List.pairwise_append.mp pairwise).2.1
  have first := (h.values_perm found).pairwise values Extent.Apart.symm
  refine (List.pairwise_cons.mp first).1 e' ?_
  apply List.mem_map.mpr
  refine ⟨(key', e'), ?_, rfl⟩
  apply List.mem_filter.mpr
  exact ⟨h.mem_entries_iff.mp found', by simpa using different.symm⟩

theorem apart_reserved (h : c.Consistent (some e)) (found : c.find? key = some e') :
    e.Apart e' := by
  have pairwise := (h.live.pairwise h.pool.live_pairwise Extent.Apart.symm)
  refine (List.pairwise_cons.mp pairwise).1 e' ?_
  exact (h.values_perm found).mem_iff.mpr List.mem_cons_self

theorem nonempty (h : c.Consistent reserved) (found : c.find? key = some e) : 0 < e.size :=
  h.pool.fills.nonempty e (Or.inl (h.mem_live found))

theorem stop_le (h : c.Consistent reserved) (found : c.find? key = some e) :
    e.stop ≤ c.allocator.capacity :=
  h.pool.fills.inside e (Or.inl (h.mem_live found))

theorem reserved_stop_le (h : c.Consistent (some e)) : e.stop ≤ c.allocator.capacity :=
  h.pool.fills.inside e (Or.inl (h.live.mem_iff.mpr List.mem_cons_self))

theorem key_unique (h : c.Consistent reserved) (found : c.find? key = some e)
    (found' : c.find? key' = some e) : key = key' := by
  apply Classical.byContradiction
  intro different
  have := h.nonempty found
  have := h.apart found found' different
  simp only [Extent.Apart, Extent.stop] at this
  omega

theorem evict_recency (h : c.Consistent reserved) (key : String) :
    (c.recency.remove key).Perm ((c.entries.erase key).map (fun e => ⟨e.1, e.2.size⟩)) :=
  Recency.remove_perm h.tracked key

theorem evict (h : c.Consistent reserved) (key : String) :
    (c.evict key).1.Consistent reserved := by
  unfold Cache.evict
  split
  · rename_i absent
    have tracked := h.evict_recency key
    rw [Table.erase_of_absent absent] at tracked
    exact ⟨h.pool, h.sorted, h.live, tracked⟩
  · rename_i e found
    obtain ⟨valid, live, _⟩ := h.pool.release (h.mem_live found)
    refine ⟨valid, h.sorted.erase key, ?_, h.evict_recency key⟩
    have moved : c.allocator.live.Perm (e :: (reserved.toList ++ (c.entries.erase key).values)) :=
      h.live.trans (((h.values_perm found).append_left _).trans List.perm_middle)
    have erased := moved.erase e
    rw [List.erase_cons_head] at erased
    exact live ▸ erased

theorem reserve (h : c.Consistent none) {size : Nat} {allocator : Allocator}
    (allocated : c.allocator.allocate size = .ok (e, allocator)) :
    Consistent { c with allocator } (some e) := by
  obtain ⟨valid, live, _, _⟩ := h.pool.allocate allocated
  exact ⟨valid, h.sorted, live.trans (h.live.cons e), h.tracked⟩

theorem bump (h : c.Consistent reserved) {oldest : Tracked} {rest : Recency}
    (order : c.recency = oldest :: rest) :
    Consistent { c with recency := rest ++ [oldest] } reserved := by
  have tracked := h.tracked
  rw [order] at tracked
  exact ⟨h.pool, h.sorted, h.live, (List.perm_append_singleton oldest rest).trans tracked⟩

theorem touch (h : c.Consistent reserved) (key : String) :
    (c.recency.touch key).Perm (c.entries.map (fun e => ⟨e.1, e.2.size⟩)) := by
  unfold Recency.touch
  split
  · rename_i t found
    have same : t.key = key := by simpa using List.find?_some found
    have member := h.tracked.mem_iff.mp (List.mem_of_find?_eq_some found)
    obtain ⟨⟨k, e⟩, entry, rfl⟩ := List.mem_map.mp member
    cases same
    have mapped := (h.sorted.perm_erase (h.sorted.find?_eq_some_iff.mpr entry)).map
      (fun e => (⟨e.1, e.2.size⟩ : Tracked))
    exact (List.perm_append_singleton _ _).trans
      (((h.evict_recency k).cons _).trans mapped.symm)
  · exact h.tracked

theorem commitGet (h : c.Consistent reserved) (key : String) :
    (c.commitGet key).Consistent reserved :=
  ⟨h.pool, h.sorted, h.live, h.touch key⟩

theorem dropPut (h : c.Consistent (some e)) : (c.dropPut e).Consistent none := by
  have member : e ∈ c.allocator.live := h.live.mem_iff.mpr List.mem_cons_self
  obtain ⟨valid, live, _⟩ := h.pool.release member
  refine ⟨valid, h.sorted, ?_, h.tracked⟩
  have erased := h.live.erase e
  rw [Option.toList_some, List.singleton_append, List.erase_cons_head] at erased
  exact live ▸ erased

theorem failPut (h : c.Consistent (some e)) : (c.failPut e).Consistent none :=
  ⟨h.dropPut.pool, h.dropPut.sorted, h.dropPut.live, h.dropPut.tracked⟩

theorem commitPut (h : c.Consistent (some e)) (key : String) :
    (c.commitPut key e).Consistent none := by
  have values : (c.entries.insert key e).values.Perm (e :: (c.entries.erase key).values) :=
    (h.sorted.perm_insert key e).map Prod.snd
  have tracked : (c.recency.track key e.size).Perm
      ((c.entries.insert key e).map (fun e => ⟨e.1, e.2.size⟩)) := by
    have mapped := (h.sorted.perm_insert key e).map (fun e => (⟨e.1, e.2.size⟩ : Tracked))
    exact (List.perm_append_singleton _ _).trans
      (((h.evict_recency key).cons _).trans mapped.symm)
  cases found : c.entries.find? key with
  | none =>
    refine ⟨by simp only [Cache.commitPut, found]; exact h.pool, h.sorted.insert key e, ?_, tracked⟩
    rw [Table.erase_of_absent found] at values
    simp only [Cache.commitPut, found]
    exact h.live.trans values.symm
  | some old =>
    obtain ⟨valid, live, _⟩ := h.pool.release (h.mem_live found)
    refine ⟨by simp only [Cache.commitPut, found]; exact valid, h.sorted.insert key e, ?_, tracked⟩
    simp only [Cache.commitPut, found, live]
    have moved : c.allocator.live.Perm (old :: e :: (c.entries.erase key).values) :=
      h.live.trans (((h.values_perm found).cons e).trans (List.Perm.swap _ _ _))
    have erased := moved.erase old
    rw [List.erase_cons_head] at erased
    exact erased.trans values.symm

end Consistent

end Cache

end BlockTier.L1
