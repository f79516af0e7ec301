import BlockTier.L1.Allocator
import BlockTier.L1.Recency
import BlockTier.Status
import BlockTier.Table
/-!
The first tier: blocks in the host pool, found by key. A block takes an extent before it is
copied and is mapped only when the copy is done, so what is mapped is always complete. Blocks are
evicted in the order of their last touch until a new one fits.
-/
namespace BlockTier.L1

structure Counters where
  hits : Nat := 0
  misses : Nat := 0
  insertions : Nat := 0
  evictions : Nat := 0
  rejections : Nat := 0
  deriving DecidableEq

structure Cache where
  allocator : Allocator
  entries : Table Extent := []
  recency : Recency := []
  counters : Counters := {}

inductive Refusal
  | zeroSize
  | exceedsCapacity (size capacity : Nat)
  | noVictim (cause : AllocError)
  | notAllocated (cause : AllocError)
  deriving DecidableEq

namespace Refusal

def status : Refusal → Status
  | zeroSize => .failure .invalidArgument "block size must be non-zero"
  | exceedsCapacity size capacity =>
    .failure .capacityExhausted
      s!"block of {size} bytes exceeds L1 capacity of {capacity} bytes"
  | noVictim cause =>
    .failure .capacityExhausted s!"L1 full and no victims to evict: {cause.message}"
  | notAllocated cause => .failure .invalidArgument cause.message

def isCapacity (r : Refusal) : Bool := r.status.code = .capacityExhausted

end Refusal

structure Stats where
  capacity : Nat
  used : Nat
  residentBytes : Nat
  residentBlocks : Nat
  liveExtents : Nat
  trackedKeys : Nat
  trackedBytes : Nat
  largestFree : Nat
  utilization : Float
  counters : Counters
  policy : String

namespace Cache

def new (capacity : Nat) : Cache := { allocator := .new capacity }

def contains (c : Cache) (key : String) : Bool := c.entries.contains key

def residentBytes (c : Cache) : Nat := @List.sum Nat _ ⟨0⟩ (c.entries.values.map (·.size))

/-- Unmaps a key, frees its extent and stops tracking it. The flag tells whether it was
resident. -/
def evict (c : Cache) (key : String) : Cache × Bool :=
  match c.entries.find? key with
  | none => ({ c with recency := c.recency.remove key }, false)
  | some e =>
    ({ allocator := c.allocator.release e
       entries := c.entries.erase key
       recency := c.recency.remove key
       counters := { c.counters with evictions := c.counters.evictions + 1 } }, true)

theorem recency_evict (c : Cache) (key : String) :
    (c.evict key).1.recency = c.recency.remove key := by
  unfold evict
  split <;> rfl

theorem length_recency_evict_lt {c : Cache} {oldest : Tracked} {rest : Recency}
    (h : c.recency = oldest :: rest) :
    (c.evict oldest.key).1.recency.length < c.recency.length := by
  have shorter := Recency.length_remove_le rest oldest.key
  rw [recency_evict, h, List.length_cons]
  simp only [Recency.remove, ne_eq, decide_not, List.filter_cons, decide_true, Bool.not_true,
    Bool.false_eq_true, ↓reduceIte] at shorter ⊢
  omega

/-- Takes an extent, evicting the oldest keys while none is free. The pinned key is never evicted:
the first time that it is the oldest it is made the latest. -/
def acquireEvicting (c : Cache) (size : Nat) (pinned : Option String) (bumped : Bool)
    (evicted : Nat) : Cache × Except Refusal (Extent × Nat) :=
  match c.allocator.allocate size with
  | .ok (e, allocator) => ({ c with allocator }, .ok (e, evicted))
  | .error cause =>
    if !cause.isCapacity then (c, .error (.notAllocated cause))
    else
      match h : c.recency with
      | [] => (c, .error (.noVictim cause))
      | oldest :: rest =>
        if pinned = some oldest.key then
          if bumped then (c, .error (.noVictim cause))
          else acquireEvicting { c with recency := rest ++ [oldest] } size pinned true evicted
        else
          acquireEvicting (c.evict oldest.key).1 size pinned bumped
            (if (c.evict oldest.key).2 then evicted + 1 else evicted)
termination_by (c.recency.length, if bumped then 0 else 1)
decreasing_by
  · simp_all [Prod.lex_def]
  · exact Prod.Lex.left _ _ (length_recency_evict_lt h)

def acquire (c : Cache) (size : Nat) (pinned : Option String) :
    Cache × Except Refusal (Extent × Nat) :=
  if size = 0 then (c, .error .zeroSize)
  else if c.allocator.capacity < size then
    (c, .error (.exceedsCapacity size c.allocator.capacity))
  else c.acquireEvicting size pinned false 0

/-- Takes an extent for the new copy of a block. The old copy stays mapped unless the pool cannot
hold both. -/
def acquireFor (c : Cache) (key : String) (size : Nat) : Cache × Except Refusal (Extent × Nat) :=
  match c.entries.find? key with
  | none => c.acquire size none
  | some _ =>
    match c.acquire size (some key) with
    | (c, .error refusal) =>
      if refusal.isCapacity && size ≤ c.allocator.capacity then
        (c.evict key).1.acquire size none
      else (c, .error refusal)
    | acquired => acquired

def countRejection (c : Cache) : Cache :=
  { c with counters := { c.counters with rejections := c.counters.rejections + 1 } }

/-- How a put begins: the block is there already, it is refused, or it has an extent to be copied
to. -/
inductive PutStart
  | resident (size : Nat)
  | refused (refusal : Refusal)
  | acquired (extent : Extent) (evicted : Nat)

/-- A resident block of the same size is only touched. -/
def beginPut (c : Cache) (key : String) (size : Nat) : Cache × PutStart :=
  if (c.entries.find? key).map (·.size) = some size then
    ({ c with recency := c.recency.touch key }, .resident size)
  else
    match c.acquireFor key size with
    | (c, .ok (e, evicted)) => (c, .acquired e evicted)
    | (c, .error refusal) => (c.countRejection, .refused refusal)

/-- Maps the copied block and frees the copy that it replaces. -/
def commitPut (c : Cache) (key : String) (e : Extent) : Cache :=
  let allocator :=
    match c.entries.find? key with
    | some old => c.allocator.release old
    | none => c.allocator
  { c with
    allocator
    entries := c.entries.insert key e
    recency := c.recency.track key e.size
    counters := { c.counters with insertions := c.counters.insertions + 1 } }

def dropPut (c : Cache) (e : Extent) : Cache := { c with allocator := c.allocator.release e }

def failPut (c : Cache) (e : Extent) : Cache := (c.dropPut e).countRejection

def find? (c : Cache) (key : String) : Option Extent := c.entries.find? key

def countMiss (c : Cache) : Cache :=
  { c with counters := { c.counters with misses := c.counters.misses + 1 } }

def commitGet (c : Cache) (key : String) : Cache :=
  { c with
    recency := c.recency.touch key
    counters := { c.counters with hits := c.counters.hits + 1 } }

/-- Evicts the oldest keys until `needed` bytes are free, and tells how many went. -/
def evictUntil (c : Cache) (needed evicted : Nat) : Cache × Nat :=
  if needed ≤ c.allocator.available then (c, evicted)
  else
    match h : c.recency with
    | [] => (c, evicted)
    | oldest :: _ =>
      (c.evict oldest.key).1.evictUntil needed
        (if (c.evict oldest.key).2 then evicted + 1 else evicted)
termination_by c.recency.length
decreasing_by exact length_recency_evict_lt h

def makeRoom (c : Cache) (needed : Nat) : Cache × Status :=
  let capacity := c.allocator.capacity
  if capacity < needed then
    (c, .failure .capacityExhausted
      s!"requested {needed} bytes exceeds L1 capacity of {capacity} bytes")
  else
    let (c, evicted) := c.evictUntil needed 0
    let available := c.allocator.available
    (c,
      if needed ≤ available then .ok s!"{available} bytes free in L1 (evicted {evicted})"
      else .failure .capacityExhausted s!"only {available} of {needed} bytes could be freed")

def stats (c : Cache) : Stats where
  capacity := c.allocator.capacity
  used := c.allocator.used
  residentBytes := c.residentBytes
  residentBlocks := c.entries.length
  liveExtents := c.allocator.live.length
  trackedKeys := c.recency.length
  trackedBytes := c.recency.bytes
  largestFree := c.allocator.largestFree
  utilization := c.allocator.utilization
  counters := c.counters
  policy := Recency.policyName

end Cache

end BlockTier.L1
