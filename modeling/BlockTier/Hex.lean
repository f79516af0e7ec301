import BlockTier.Bytes
/-!
Numbers and bytes in lower-case digits to base 16.
-/
namespace BlockTier.Hex

/-- The digits of a number, without leading zeros. -/
def ofNat (n : Nat) : String := String.ofList (Nat.toDigits 16 n)

def padded (width n : Nat) : String :=
  let digits := Nat.toDigits 16 n
  String.ofList (List.replicate (width - digits.length) '0' ++ digits)

def ofWord (w : UInt64) : String := padded 16 w.toNat

def ofBytes (b : Bytes) : String :=
  b.foldl (fun s x => s ++ padded 2 x.toNat) ""

def digit? (b : UInt8) : Option Nat :=
  let n := b.toNat
  if 48 ≤ n ∧ n ≤ 57 then some (n - 48)
  else if 97 ≤ n ∧ n ≤ 102 then some (n - 87)
  else if 65 ≤ n ∧ n ≤ 70 then some (n - 55)
  else none

def toBytes? (s : String) : Option Bytes :=
  go (Bytes.ofString s) []
where
  go : Bytes → Bytes → Option Bytes
    | [], acc => some acc.reverse
    | [_], _ => none
    | a :: b :: rest, acc =>
      match digit? a, digit? b with
      | some x, some y => go rest (UInt8.ofNat (16 * x + y) :: acc)
      | _, _ => none

end BlockTier.Hex
