/-!
Byte strings and the ranges of a flat memory region. A range is read or overwritten as a whole
or not at all.
-/
namespace BlockTier

abbrev Bytes := List UInt8

namespace Bytes

def ofString (s : String) : Bytes := s.toUTF8.data.toList

def toString? (b : Bytes) : Option String := String.fromUTF8? ⟨b.toArray⟩

/-- The `len` bytes from `start`, if all of them lie in the region. -/
def slice? (region : Bytes) (start len : Nat) : Option Bytes :=
  if start + len ≤ region.length then some ((region.drop start).take len) else none

/-- The region with `data` in place of as many bytes from `start`, if all of them lie in it. -/
def splice? (region : Bytes) (start : Nat) (data : Bytes) : Option Bytes :=
  if start + data.length ≤ region.length then
    some (region.take start ++ data ++ region.drop (start + data.length))
  else none

def zeros (n : Nat) : Bytes := List.replicate n 0

/-- The number whose digits to base 256 are the bytes, lowest first. -/
def littleEndian : Bytes → Nat
  | [] => 0
  | b :: rest => b.toNat + 256 * littleEndian rest

/-- The number whose digits to base 256 are the bytes, highest first. -/
def bigEndian (b : Bytes) : Nat := b.foldl (fun n x => 256 * n + x.toNat) 0

/-- The `n` lowest digits of `v` to base 256, lowest first. -/
def ofNatLE : (n : Nat) → (v : Nat) → Bytes
  | 0, _ => []
  | n + 1, v => UInt8.ofNat (v % 256) :: ofNatLE n (v / 256)

theorem length_slice? {region data : Bytes} {start len : Nat}
    (h : region.slice? start len = some data) : data.length = len := by
  unfold slice? at h
  split at h
  · cases h
    simp only [List.length_take, List.length_drop]
    omega
  · cases h

theorem length_splice? {region result data : Bytes} {start : Nat}
    (h : region.splice? start data = some result) : result.length = region.length := by
  unfold splice? at h
  split at h
  · cases h
    simp only [List.length_append, List.length_take, List.length_drop]
    omega
  · cases h

end Bytes

end BlockTier
