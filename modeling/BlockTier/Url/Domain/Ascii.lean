import BlockTier.Url.Domain.Direction
import BlockTier.Url.Domain.Joining
import BlockTier.Url.Domain.Mapping
import BlockTier.Url.Punycode
/-!
The ASCII form of domain names. Each character is replaced by what it stands for, the text is
composed, and labels that are not ASCII then are written with a prefix in their ASCII form.
-/
namespace BlockTier.Url.Domain

/-- ASCII characters that no name may hold. -/
def isForbidden (c : Char) : Bool :=
  c.toNat ≤ 0x20 || c.toNat = 0x7f || "%#/:<>?@[\\]^|".toList.contains c

def isAscii (c : Char) : Bool := c.toNat < 128

/-- What the ASCII form of a label starts with. -/
def asciiMark : List Char := "xn--".toList

/-- No longer ASCII form is read, and no longer label is written. -/
def maxRead : Nat := 2000

def maxWritten : Nat := 1000

/-- Whether marks and joiners of a label may stand where they do. -/
def isValid (label : List Char) : Bool :=
  let codes := label.map Char.toNat
  !(codes.head?.map isMark).getD false && validJoiners [] codes

/-- The label that an ASCII form stands for: it must be one that would be written in this form. -/
def readAscii? (ascii : List Char) : Option (List Char) := do
  let isWritten := !ascii.isEmpty && ascii.getLast? ≠ some '-' && ascii.all isAscii
  if !isWritten || maxRead < ascii.length then failure
  let text ← Punycode.decode ascii
  let codes := text.map Char.toNat
  if !text.all (fun c => isPlain c && !isForbidden c && c ≠ '.') then failure
  if compose codes ≠ codes || !isValid text then failure
  return text

/-- A label with the characters that it stands for. -/
structure Label where
  ascii : List Char
  text : List Char

/-- Reads a label whose characters have been replaced. -/
def label? (cs : List Char) : Option Label := do
  if cs.take asciiMark.length = asciiMark then
    return ⟨cs, ← readAscii? (cs.drop asciiMark.length)⟩
  else if cs.all isAscii then return ⟨cs, cs⟩
  else
    if maxWritten < cs.length || !isValid cs then failure
    return ⟨asciiMark ++ Punycode.encode cs, cs⟩

def replace? (cs : List Char) : Option (List Char) := do
  let codes ← cs.mapM image?
  return (compose codes.flatten).map Char.ofNat

def ascii? (name : List Char) : Option (List Char) := do
  let cs ← if name.all isAscii then some (name.map Char.toLower) else replace? name
  if cs.any isForbidden then failure
  let labels ← (splitAt (· = '.') cs).mapM label?
  if !directionsAgree (labels.map (fun l => l.text.map Char.toNat)) then failure
  return ['.'].intercalate (labels.map Label.ascii)

end BlockTier.Url.Domain
