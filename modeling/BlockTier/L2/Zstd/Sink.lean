/-!
Where the content of frames is put. A sink takes a portion at a time. At first a portion is what is
left of a fixed number of bytes; after them it is what is left of the capacity, which grows whenever
it is used up, within a bound that doubles with each portion that is filled.
-/
namespace BlockTier.L2.Zstd

/-- So many bytes are taken before the capacity counts. -/
def firstBytes : Nat := 8192

structure Sink where
  used : Nat := 0
  capacity : Nat := 0
  /-- The bound of a portion once the capacity counts. -/
  portion : Nat := firstBytes

namespace Sink

/-- The length of the next portion. -/
def room (s : Sink) : Nat :=
  if s.used < firstBytes then firstBytes - s.used else min s.portion (s.capacity - s.used)

/-- No capacity that is not zero is smaller. -/
def minCapacity : Nat := 8

/-- Grows to twice its capacity, or as far as is needed for more bytes. -/
def grow (s : Sink) (more : Nat) : Sink :=
  let needed := s.used + more
  if s.capacity < needed then { s with capacity := max minCapacity (max (2 * s.capacity) needed) }
  else s

def take (s : Sink) (n : Nat) : Sink :=
  if s.used < firstBytes then
    let s := { s.grow n with used := s.used + n }
    if s.used < firstBytes then s else s.grow firstBytes
  else
    let portion := if n = s.room then 2 * s.portion else s.portion
    let s := { s with used := s.used + n, portion }
    if s.used < s.capacity then s else s.grow firstBytes

/-- Takes bytes that are at hand, as many as it has room for at a time. -/
def takeAll (s : Sink) (n : Nat) : Sink :=
  let portion := min n s.room
  if 0 < portion then (s.take portion).takeAll (n - portion) else s
termination_by n
decreasing_by omega

/-- Takes the content of blocks. A portion is filled from several blocks; the block that it ends in
is put to its end before the next one is read. -/
def takeBlocks (s : Sink) (lengths : List Nat) : Sink :=
  let add (state : Sink × Nat) (n : Nat) : Sink × Nat :=
    let (s, filled) := state
    if filled + n ≤ s.room then (s, filled + n)
    else ((s.take s.room).takeAll (filled + n - s.room), 0)
  let (s, filled) := lengths.foldl add (s, 0)
  s.takeAll filled

end Sink

end BlockTier.L2.Zstd
