/-!
The decimal text of double-precision numbers: the fewest digits that read back as the number.
-/
namespace BlockTier.Decimal

/-- The digits `m` and the exponent `e` of a number `m * 10 ^ e`. -/
structure Digits where
  digits : Nat
  exponent : Int

/-- A double as a quotient, without its sign. -/
def quotient (x : Float) : Nat × Nat :=
  let bits := x.toBits.toNat
  let fraction := bits % (1 <<< 52)
  let exponent := bits >>> 52 % (1 <<< 11)
  let m := if exponent = 0 then fraction else fraction + 1 <<< 52
  let e := max exponent 1
  (m <<< (e - 1075), 1 <<< (1075 - e))

/-- The greatest power of ten, from a guess downwards, that is not above the quotient. -/
def leadingExponent (num den : Nat) : (fuel : Nat) → Int → Int
  | 0, e => e
  | fuel + 1, e =>
    if den * Nat.pow 10 e.toNat ≤ num * Nat.pow 10 (-e).toNat then e
    else leadingExponent num den fuel (e - 1)

/-- The nearest number with `n` digits from the place `lead` on; a tie goes to the even digit. -/
def rounded (num den : Nat) (lead : Int) (n : Nat) : Digits :=
  let e := lead - (n - 1)
  let a := num * Nat.pow 10 (-e).toNat
  let b := den * Nat.pow 10 e.toNat
  let q := a / b
  let r := 2 * (a % b)
  ⟨if b < r || (r = b && q % 2 = 1) then q + 1 else q, e⟩

def Digits.toFloat (d : Digits) : Float :=
  Float.ofScientific d.digits (d.exponent < 0) d.exponent.natAbs

/-- The rounding to the fewest digits, from `n` up to 17, that reads back as the number. -/
def fewest (x : Float) (num den : Nat) (lead : Int) : (fuel : Nat) → (n : Nat) → Digits
  | 0, n => rounded num den lead n
  | fuel + 1, n =>
    let d := rounded num den lead n
    if d.toFloat == x then d else fewest x num den lead fuel (n + 1)

def Digits.trim (d : Digits) : (fuel : Nat) → Digits
  | 0 => d
  | fuel + 1 =>
    if d.digits ≠ 0 && d.digits % 10 = 0 then
      Digits.trim ⟨d.digits / 10, d.exponent + 1⟩ fuel
    else d

/-- Digits with a point, or with an exponent if the point would be far from them. -/
def Digits.text (d : Digits) : String :=
  let s := toString d.digits
  let n := s.length
  let point := n + d.exponent
  if 0 ≤ d.exponent && point ≤ 16 then
    s ++ String.ofList (List.replicate d.exponent.toNat '0') ++ ".0"
  else if 0 < point && point ≤ 16 then
    String.ofList (s.toList.take point.toNat) ++ "." ++ String.ofList (s.toList.drop point.toNat)
  else if -5 < point && point ≤ 0 then
    "0." ++ String.ofList (List.replicate (-point).toNat '0') ++ s
  else
    let mantissa := String.ofList (s.toList.take 1) ++
      (if n = 1 then "" else "." ++ String.ofList (s.toList.drop 1))
    mantissa ++ "e" ++ toString (point - 1)

/-- The text of a number without its sign. -/
def magnitude (x : Float) : String :=
  if x == 0 then "0.0"
  else
    let (num, den) := quotient x
    let lead := leadingExponent num den 700 310
    ((fewest x.abs num den lead 16 1).trim 20).text

/-- The text of a finite number. -/
def shortest (x : Float) : String :=
  if x.toBits.toNat < 1 <<< 63 then magnitude x else "-" ++ magnitude x

end BlockTier.Decimal
