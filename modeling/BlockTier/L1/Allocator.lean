import BlockTier.Memory.Block
/-!
The extents of the host pool. Free space is kept as extents that never touch, listed by offset
for merging and by size for the best fit; a request gets the start of the shortest free extent
that holds it, the lowest one among equals.
-/
namespace BlockTier

def Extent.startsBefore (a b : Extent) : Bool := a.offset < b.offset

def Extent.fitsBefore (a b : Extent) : Bool :=
  a.size < b.size || (a.size = b.size && a.offset < b.offset)

namespace L1

inductive AllocError
  | full (requested available : Nat)
  | fragmented (requested available : Nat)
  | invalidSize (size : Nat)
  | unknownPointer (extent : Extent)
  deriving DecidableEq

namespace AllocError

/-- Whether evicting blocks can help. -/
def isCapacity : AllocError → Bool
  | full .. | fragmented .. => true
  | _ => false

def message : AllocError → String
  | full requested available =>
    s!"L1 pool full: requested {requested} bytes, {available} available"
  | fragmented requested available =>
    s!"L1 pool fragmented: no contiguous extent of {requested} bytes " ++
      s!"({available} free in total)"
  | invalidSize size => s!"Invalid allocation size: {size}"
  | unknownPointer e =>
    s!"No live allocation at host address 0x{Hex.ofNat e.offset} of {e.size} bytes"

end AllocError

/-- Enters an extent in front of the first one that it precedes. -/
def insertExtent (precedes : Extent → Extent → Bool) (e : Extent) : List Extent → List Extent
  | [] => [e]
  | x :: rest => if precedes e x then e :: x :: rest else x :: insertExtent precedes e rest

structure Allocator where
  capacity : Nat
  used : Nat
  /-- The free extents in order of offset. -/
  byOffset : List Extent
  /-- The same extents in order of size. -/
  bySize : List Extent
  /-- The extents handed out, in order of offset. -/
  live : List Extent
  deriving DecidableEq

namespace Allocator

def insertFree (a : Allocator) (e : Extent) : Allocator :=
  { a with
    byOffset := insertExtent Extent.startsBefore e a.byOffset
    bySize := insertExtent Extent.fitsBefore e a.bySize }

def removeFree (a : Allocator) (e : Extent) : Allocator :=
  { a with byOffset := a.byOffset.erase e, bySize := a.bySize.erase e }

def new (capacity : Nat) : Allocator :=
  let empty : Allocator := ⟨capacity, 0, [], [], []⟩
  if 0 < capacity then empty.insertFree ⟨0, capacity⟩ else empty

def available (a : Allocator) : Nat := a.capacity - a.used

/-- The shortest free extent of at least `size` bytes. -/
def bestFit? (a : Allocator) (size : Nat) : Option Extent :=
  a.bySize.find? (fun e => size ≤ e.size)

/-- Hands out the start of a free extent. -/
def take (a : Allocator) (free : Extent) (size : Nat) : Allocator :=
  let a := a.removeFree free
  let a := if size < free.size then a.insertFree ⟨free.offset + size, free.size - size⟩ else a
  { a with
    live := insertExtent Extent.startsBefore ⟨free.offset, size⟩ a.live
    used := a.used + size }

def allocate (a : Allocator) (size : Nat) : Except AllocError (Extent × Allocator) :=
  if size = 0 then .error (.invalidSize size)
  else if a.available < size then .error (.full size a.available)
  else
    match a.bestFit? size with
    | none => .error (.fragmented size a.available)
    | some free => .ok (⟨free.offset, size⟩, a.take free size)

/-- Joins `e` with the free extent that ends where it starts. -/
def mergeLeft (a : Allocator) (e : Extent) : Allocator × Extent :=
  match a.byOffset.find? (fun f => f.stop = e.offset) with
  | some f => (a.removeFree f, ⟨f.offset, f.size + e.size⟩)
  | none => (a, e)

/-- Joins `e` with the free extent that starts where it ends. -/
def mergeRight (a : Allocator) (e : Extent) : Allocator × Extent :=
  match a.byOffset.find? (fun f => f.offset = e.stop) with
  | some f => (a.removeFree f, ⟨e.offset, e.size + f.size⟩)
  | none => (a, e)

def free (a : Allocator) (e : Extent) : Except AllocError Allocator :=
  if e ∈ a.live then
    let a := { a with live := a.live.erase e, used := a.used - e.size }
    let (a, e) := a.mergeLeft e
    let (a, e) := a.mergeRight e
    .ok (a.insertFree e)
  else .error (.unknownPointer e)

/-- The state after an extent is given back; nothing changes if it is not live. -/
def release (a : Allocator) (e : Extent) : Allocator :=
  match a.free e with
  | .ok a => a
  | .error _ => a

def largestFree (a : Allocator) : Nat :=
  match a.bySize.getLast? with
  | some e => e.size
  | none => 0

/-- The part of the capacity in use, zero for an empty pool. -/
def utilization (a : Allocator) : Float :=
  if a.capacity = 0 then 0 else a.used.toUInt64.toFloat / a.capacity.toUInt64.toFloat

end Allocator

end L1

end BlockTier
