import BlockTier.Hex
/-!
Percent-encoding. What has to be encoded depends on the part of a URL that the text is in.
-/
namespace BlockTier.Url

/-- Controls and bytes outside the ASCII range, which no part takes as they are. -/
def isControl (b : UInt8) : Bool := b < 0x20 || 0x7e < b

def isOneOf (s : String) (b : UInt8) : Bool := (Bytes.ofString s).contains b

def inFragment (b : UInt8) : Bool := isControl b || isOneOf " \"<>`" b

def inQuery (b : UInt8) : Bool := isControl b || isOneOf " \"#<>'" b

def inPath (b : UInt8) : Bool := inFragment b || isOneOf "#?\x7b\x7d" b

/-- The text of a single path segment may hold no slash of either kind and no percent sign. -/
def inSegment (b : UInt8) : Bool := inPath b || isOneOf "/%\\" b

def inUserinfo (b : UInt8) : Bool := inPath b || isOneOf "/:;=@[\\]^|" b

def upperDigit (n : Nat) : UInt8 := UInt8.ofNat (if n < 10 then 48 + n else 55 + n)

def encodeByte (mustEncode : UInt8 → Bool) (b : UInt8) : Bytes :=
  if mustEncode b then [0x25, upperDigit (b.toNat / 16), upperDigit (b.toNat % 16)] else [b]

def encodeBytes (mustEncode : UInt8 → Bool) (b : Bytes) : Bytes :=
  b.flatMap (encodeByte mustEncode)

/-- The encoded text; it is plain ASCII where the rest was. -/
def encode (mustEncode : UInt8 → Bool) (cs : List Char) : List Char :=
  (encodeBytes mustEncode (Bytes.ofString (String.ofList cs))).map
    (fun b => Char.ofNat b.toNat)

/-- The bytes that the text stands for. A percent sign without two digits stands for itself. -/
def decode (b : Bytes) : Bytes :=
  go b []
where
  go : Bytes → Bytes → Bytes
    | [], acc => acc.reverse
    | 0x25 :: x :: y :: rest, acc =>
      match Hex.digit? x, Hex.digit? y with
      | some h, some l => go rest (UInt8.ofNat (16 * h + l) :: acc)
      | _, _ => go (x :: y :: rest) (0x25 :: acc)
    | b :: rest, acc => go rest (b :: acc)
  termination_by b => b.length

end BlockTier.Url
