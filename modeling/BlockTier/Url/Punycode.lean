import BlockTier.Url.Text
/-!
The ASCII form of labels with other characters. The ASCII characters come first; behind the last
hyphen the others follow in rising order, each as the number of places that are passed over to where
it is put. The numbers are written to base 36, least digit first, and a digit below a threshold ends
its number; the thresholds move with the numbers that came before.
-/
namespace BlockTier.Url.Punycode

def digitChar (d : Nat) : Char := Char.ofNat (if d < 26 then 97 + d else 22 + d)

def digit? (c : Char) : Option Nat :=
  if c.isLower then some (c.toNat - 97)
  else if c.isDigit then some (c.toNat - 22)
  else none

theorem digit?_digitChar {d : Nat} (h : d < 36) : digit? (digitChar d) = some d := by
  have all : ∀ e : Fin 36, digit? (digitChar e) = some e.val := by decide
  exact all ⟨d, h⟩

def firstCode : Nat := 128

def firstBias : Nat := 72

/-- The threshold of the digit at a place; places count in steps of 36 from 36 on. -/
def threshold (bias place : Nat) : Nat := min 26 (max 1 (place - bias))

theorem threshold_bounds (bias place : Nat) :
    1 ≤ threshold bias place ∧ threshold bias place ≤ 26 := by
  unfold threshold
  omega

/-- The bias for the next number: the places that a number as large as `n` takes. -/
def biasFor (n place : Nat) : Nat :=
  if 455 < n then biasFor (n / 35) (place + 36) else place + 36 * n / (n + 38)
termination_by n

/-- The bias after a number that put the last of `count` characters in place. -/
def adapt (n count : Nat) (isFirst : Bool) : Nat :=
  let n := if isFirst then n / 700 else n / 2
  biasFor (n + n / count) 0

def digits (bias place n : Nat) : List Char :=
  let t := threshold bias place
  if n < t then [digitChar n]
  else digitChar (t + (n - t) % (36 - t)) :: digits bias (place + 36) ((n - t) / (36 - t))
termination_by n
decreasing_by
  have := threshold_bounds bias place
  exact Nat.lt_of_le_of_lt (Nat.div_le_self ..) (by omega)

/-- What has been written, and how many places have been passed over since. -/
structure Writer where
  written : List Char := []
  passed : Nat := 0
  bias : Nat := firstBias
  count : Nat

/-- Goes over a character of the text while those with a code are put in place. -/
def Writer.pass (basic code : Nat) (w : Writer) (c : Char) : Writer :=
  if c.toNat < code then { w with passed := w.passed + 1 }
  else if c.toNat = code then
    { written := w.written ++ digits w.bias 36 w.passed
      passed := 0
      bias := adapt w.passed (w.count + 1) (w.count = basic)
      count := w.count + 1 }
  else w

/-- Puts the characters with each of some codes in place, from the next possible code on. -/
def Writer.place (text : List Char) (basic : Nat) : (next : Nat) → List Nat → Writer → Writer
  | _, [], w => w
  | next, code :: codes, w =>
    let w := { w with passed := w.passed + (code - next) * (w.count + 1) }
    let w := text.foldl (Writer.pass basic code) w
    Writer.place text basic (code + 1) codes { w with passed := w.passed + 1 }

def encode (text : List Char) : List Char :=
  let basic := text.filter (·.toNat < firstCode)
  let codes := ((text.map Char.toNat).filter (firstCode ≤ ·)).mergeSort.eraseDups
  basic ++ (if basic.isEmpty then [] else ['-']) ++
    (Writer.place text basic.length firstCode codes { count := basic.length }).written

def numberLimit : Nat := 1 <<< 32

/-- Reads a number and adds it to `sum`. -/
def readNumber (bias : Nat) : (place weight sum : Nat) → List Char → Option (Nat × List Char)
  | _, _, _, [] => none
  | place, weight, sum, c :: rest => do
    let d ← digit? c
    let t := threshold bias place
    if d < t then return (sum + d * weight, rest)
    let weight' := weight * (36 - t)
    if numberLimit ≤ weight' then failure
    readNumber bias (place + 36) weight' (sum + d * weight) rest

/-- Puts characters in place until nothing is left to read. Each takes at least one digit, so the
number of digits is `fuel` enough. -/
def insertAll : (fuel bias code position : Nat) → (text : List Char) → List Char →
    Option (List Char)
  | _, _, _, _, text, [] => some text
  | 0, _, _, _, _, _ => none
  | fuel + 1, bias, code, position, text, rest => do
    let (sum, rest) ← readNumber bias 36 1 position rest
    let count := text.length + 1
    let code := code + sum / count
    if code.isValidChar then
      insertAll fuel (adapt (sum - position) count (position = 0)) code (sum % count + 1)
        (text.insertIdx (sum % count) (Char.ofNat code)) rest
    else failure

/-- The text that the ASCII form in lower case stands for. -/
def decode (ascii : List Char) : Option (List Char) :=
  let tail := (ascii.reverse.takeWhile (· ≠ '-')).reverse
  let basic := ascii.take (ascii.length - tail.length - 1)
  if ascii.head? = some '-' && basic.isEmpty then none
  else insertAll tail.length firstBias firstCode 0 basic tail

end BlockTier.Url.Punycode
