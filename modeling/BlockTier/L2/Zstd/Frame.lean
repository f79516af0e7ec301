import BlockTier.Bytes
/-!
The parts of frames of the zstd format: what stands in front of a frame and in front of each of its
blocks.
-/
namespace BlockTier.L2.Zstd

inductive Error
  | unknownDescriptor
  | incomplete
  | unsupported
  | corrupted
  deriving DecidableEq

def Error.message : Error → String
  | unknownDescriptor => "Unknown frame descriptor"
  | incomplete => "incomplete frame"
  | unsupported => "Unsupported frame parameter"
  | corrupted => "Data corruption detected"

/-- The four bytes that every frame starts with. -/
def magic : Bytes := [0x28, 0xb5, 0x2f, 0xfd]

/-- The end of the four bytes that every skippable frame starts with. -/
def skippableMagic : Bytes := [0x2a, 0x4d, 0x18]

def maxBlock : Nat := 128 * 1024

/-- Windows above two to this power have no description. -/
def maxWindowLog : Nat := 31

def cut (n : Nat) (b : Bytes) : Except Error (Bytes × Bytes) :=
  let front := b.take n
  if front.length < n then .error .incomplete else .ok (front, b.drop n)

structure Header where
  window : Nat
  contentSize : Option Nat

/-- The sizes in bytes of the dictionary field, by its flag. -/
def dictionaryWidth : Nat → Nat
  | 3 => 4
  | n => n

/-- The size in bytes of the content-size field, by its flag. -/
def contentWidth (singleSegment : Bool) : Nat → Nat
  | 0 => if singleSegment then 1 else 0
  | n => 1 <<< n

/-- The window that its one-byte description stands for. -/
def windowSize (d : Nat) : Nat := (1 <<< (10 + d / 8)) / 8 * (8 + d % 8)

/-- Reads what follows the magic number. Checksums and dictionaries are not supported. -/
def header (b : Bytes) : Except Error (Header × Bytes) := do
  let (d, b) ← cut 1 b
  let d := Bytes.littleEndian d
  let singleSegment := d / 32 % 2 = 1
  if d / 8 % 2 = 1 || d / 4 % 2 = 1 then throw .unsupported
  let (w, b) ← cut (if singleSegment then 0 else 1) b
  let w := Bytes.littleEndian w
  let (dictionary, b) ← cut (dictionaryWidth (d % 4)) b
  let (content, b) ← cut (contentWidth singleSegment (d / 64)) b
  if Bytes.littleEndian dictionary ≠ 0 then throw .unsupported
  let contentSize :=
    match content.length with
    | 0 => none
    | 2 => some (Bytes.littleEndian content + 256)
    | _ => some (Bytes.littleEndian content)
  let window :=
    if singleSegment then contentSize.getD 0 else windowSize w
  if maxWindowLog < 10 + w / 8 then throw .unsupported
  return (⟨window, contentSize⟩, b)

inductive BlockKind
  | raw | run | compressed
  deriving DecidableEq

structure BlockHeader where
  last : Bool
  kind : BlockKind
  size : Nat

def blockHeader (b : Bytes) : Except Error (BlockHeader × Bytes) := do
  let (h, b) ← cut 3 b
  let h := Bytes.littleEndian h
  let kind ←
    match h / 2 % 4 with
    | 0 => pure BlockKind.raw
    | 1 => pure BlockKind.run
    | 2 => pure BlockKind.compressed
    | _ => throw .corrupted
  return (⟨h % 2 = 1, kind, h / 8⟩, b)

def blockContent (h : BlockHeader) (b : Bytes) : Except Error (Bytes × Bytes) :=
  match h.kind with
  | .raw => cut h.size b
  | .run => do
    let (x, b) ← cut 1 b
    pure (x.flatMap (List.replicate h.size), b)
  | .compressed => .error .unsupported

end BlockTier.L2.Zstd
