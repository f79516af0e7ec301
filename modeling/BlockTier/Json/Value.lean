import BlockTier.Bytes
import BlockTier.Hex
import BlockTier.Decimal
/-!
JSON values and their compact text. Members keep their order.
-/
namespace BlockTier

inductive Json
  | null
  | bool (b : Bool)
  | num (n : Int)
  | double (x : Float)
  | str (s : String)
  | arr (items : List Json)
  | obj (members : List (String × Json))
  deriving Inhabited

namespace Json

def nat (n : Nat) : Json := num n

/-- How a byte of a text is written. Bytes above the ASCII range stay as they are. -/
def escape (b : UInt8) : Bytes :=
  if b = 0x22 then [0x5c, 0x22]
  else if b = 0x5c then [0x5c, 0x5c]
  else if b = 0x08 then [0x5c, 0x62]
  else if b = 0x09 then [0x5c, 0x74]
  else if b = 0x0a then [0x5c, 0x6e]
  else if b = 0x0c then [0x5c, 0x66]
  else if b = 0x0d then [0x5c, 0x72]
  else if b < 0x20 then Bytes.ofString s!"\\u{Hex.padded 4 b.toNat}"
  else [b]

def quote (s : String) : Bytes := 0x22 :: ((Bytes.ofString s).flatMap escape ++ [0x22])

mutual

def bytes : Json → Bytes
  | null => Bytes.ofString "null"
  | bool true => Bytes.ofString "true"
  | bool false => Bytes.ofString "false"
  | num n => Bytes.ofString (toString n)
  | double x => Bytes.ofString (Decimal.shortest x)
  | str s => quote s
  | arr items => 0x5b :: (itemBytes items ++ [0x5d])
  | obj members => 0x7b :: (memberBytes members ++ [0x7d])

def itemBytes : List Json → Bytes
  | [] => []
  | [v] => bytes v
  | v :: rest => bytes v ++ 0x2c :: itemBytes rest

def memberBytes : List (String × Json) → Bytes
  | [] => []
  | [(k, v)] => quote k ++ 0x3a :: bytes v
  | (k, v) :: rest => quote k ++ 0x3a :: (bytes v ++ 0x2c :: memberBytes rest)

end

def render (v : Json) : String := v.bytes.toString?.getD ""

end Json

end BlockTier
