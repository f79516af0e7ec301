import BlockTier.Proofs.L1.Admission
/-!
Runs of the first tier. The lock is taken for one operation at a time; one that has to copy waits
with the lock held, and nothing is assumed of how its copy ends.
-/
namespace BlockTier.L1

/-- What the holder of the lock waits for, if it waits. -/
inductive Work
  | idle
  | storing (key : String) (extent : Extent)
  | loading (key : String)
  deriving DecidableEq

namespace Work

/-- The extent that is taken and not mapped yet. -/
def reserved? : Work → Option Extent
  | storing _ e => some e
  | _ => none

def ofPut (key : String) : Cache.PutStart → Work
  | .acquired e _ => storing key e
  | _ => idle

theorem reserved?_ofPut (key : String) (start : Cache.PutStart) :
    (ofPut key start).reserved? = start.reserved? := by
  cases start <;> rfl

end Work

/-- An operation takes the lock, or the copy of the one that holds it ends: it is done, it has
failed, or the caller has dropped it. -/
inductive Step : Cache → Work → Cache → Work → Prop
  | put (c : Cache) (key : String) (size : Nat) :
    Step c .idle (c.beginPut key size).1 (.ofPut key (c.beginPut key size).2)
  | stored (c : Cache) (key : String) (e : Extent) :
    Step c (.storing key e) (c.commitPut key e) .idle
  | storeFailed (c : Cache) (key : String) (e : Extent) :
    Step c (.storing key e) (c.failPut e) .idle
  | storeDropped (c : Cache) (key : String) (e : Extent) :
    Step c (.storing key e) (c.dropPut e) .idle
  | miss (c : Cache) (key : String) (absent : c.find? key = none) : Step c .idle c.countMiss .idle
  | get (c : Cache) (key : String) (e : Extent) (found : c.find? key = some e) :
    Step c .idle c (.loading key)
  | loaded (c : Cache) (key : String) : Step c (.loading key) (c.commitGet key) .idle
  | notLoaded (c : Cache) (key : String) : Step c (.loading key) c .idle
  | read (c : Cache) : Step c .idle c .idle
  | evict (c : Cache) (key : String) : Step c .idle (c.evict key).1 .idle
  | makeRoom (c : Cache) (needed : Nat) : Step c .idle (c.makeRoom needed).1 .idle

inductive Reachable (capacity : Nat) : Cache → Work → Prop
  | new : Reachable capacity (.new capacity) .idle
  | step {c c' : Cache} {w w' : Work} (before : Reachable capacity c w)
    (step : Step c w c' w') : Reachable capacity c' w'

theorem Step.consistent {c c' : Cache} {w w' : Work} (step : Step c w c' w')
    (h : c.Consistent w.reserved?) : c'.Consistent w'.reserved? := by
  cases step with
  | put key size =>
    rw [Work.reserved?_ofPut]
    exact (h.beginPut key size).consistent
  | stored key e => exact h.commitPut key
  | storeFailed key e => exact h.failPut
  | storeDropped key e => exact h.dropPut
  | miss key absent => exact ⟨h.pool, h.sorted, h.live, h.tracked⟩
  | get key e found => exact h
  | loaded key => exact h.commitGet key
  | notLoaded key => exact h
  | read => exact h
  | evict key => exact h.evict key
  | makeRoom needed => exact (h.makeRoom needed).1

theorem Step.capacity {c c' : Cache} {w w' : Work} (step : Step c w c' w')
    (h : c.Consistent w.reserved?) : c'.allocator.capacity = c.allocator.capacity := by
  cases step with
  | put key size => exact (h.beginPut key size).shrinks.capacity
  | stored key e =>
    unfold Cache.commitPut
    dsimp only
    split
    · rename_i old found
      exact (h.pool.release (h.mem_live found)).2.2
    · rfl
  | storeFailed key e | storeDropped key e =>
    exact (h.pool.release (h.live.mem_iff.mpr List.mem_cons_self)).2.2
  | miss key absent => rfl
  | get key e found => rfl
  | loaded key => rfl
  | notLoaded key => rfl
  | read => rfl
  | evict key => exact (Cache.shrinks_evict h key).capacity
  | makeRoom needed => exact (h.makeRoom needed).2.capacity

theorem Reachable.beginPut {capacity : Nat} {c : Cache} (h : Reachable capacity c .idle)
    {key : String} {size : Nat} {e : Extent} {evicted : Nat}
    (begun : (c.beginPut key size).2 = .acquired e evicted) :
    Reachable capacity (c.beginPut key size).1 (.storing key e) := by
  have next := h.step (.put c key size)
  rw [begun] at next
  exact next

theorem Reachable.store {capacity : Nat} {c c' : Cache} (h : Reachable capacity c .idle)
    (key : String) (e : Extent) (evicted : Nat)
    (begun : (c.beginPut key e.size).2 = .acquired e evicted)
    (left : (c.beginPut key e.size).1.commitPut key e = c') : Reachable capacity c' .idle :=
  left ▸ (h.beginPut begun).step (.stored _ key e)

theorem Reachable.consistent {capacity : Nat} {c : Cache} {w : Work}
    (h : Reachable capacity c w) : c.Consistent w.reserved? := by
  induction h with
  | new => exact Cache.consistent_new capacity
  | step _ step ih => exact step.consistent ih

theorem Reachable.capacity_eq {capacity : Nat} {c : Cache} {w : Work}
    (h : Reachable capacity c w) : c.allocator.capacity = capacity := by
  induction h with
  | new => exact Allocator.capacity_new capacity
  | step before step ih => exact (step.capacity before.consistent).trans ih

end BlockTier.L1
