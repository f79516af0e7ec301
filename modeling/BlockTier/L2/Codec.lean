import BlockTier.L2.Zstd.Reader
import BlockTier.L2.Zstd.Writer
/-!
The frames that blocks are stored in. A tag says whether the data follows as it is or compressed;
compressed data is kept only when it is shorter, and every reader follows the tag.
-/
namespace BlockTier.L2

structure Scheme where
  compress : (level : Int) → Bytes → Bytes
  decompress : Bytes → Except String Bytes

/-- Decompressing undoes compressing. -/
def Scheme.Lawful (s : Scheme) : Prop :=
  ∀ level data, s.decompress (s.compress level data) = .ok data

def Scheme.zstd : Scheme where
  compress _ data := Zstd.compress data
  decompress b := (Zstd.decompress b).mapError Zstd.Error.message

inductive CodecError
  | compression (reason : String)
  | emptyFrame
  | unknownTag (tag : UInt8)
  deriving DecidableEq

def CodecError.message : CodecError → String
  | compression reason => s!"Zstd failed: {reason}"
  | emptyFrame => "Empty frame"
  | unknownTag tag => s!"Unknown frame tag {tag}"

def rawTag : UInt8 := 0

def compressedTag : UInt8 := 1

structure Codec where
  scheme : Scheme := .zstd
  compress : Bool := false
  level : Int := 0

namespace Codec

def encode (c : Codec) (data : Bytes) : Bytes :=
  let compressed := c.scheme.compress c.level data
  if c.compress && compressed.length < data.length then compressedTag :: compressed
  else rawTag :: data

def decode (c : Codec) : Bytes → Except CodecError Bytes
  | [] => .error .emptyFrame
  | tag :: body =>
    if tag = rawTag then .ok body
    else if tag = compressedTag then (c.scheme.decompress body).mapError .compression
    else .error (.unknownTag tag)

end Codec

end BlockTier.L2
