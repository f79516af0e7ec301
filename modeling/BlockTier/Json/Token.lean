import BlockTier.Hex
/-!
The tokens of a JSON text. The bytes are read one at a time; the first byte that no token can
take gives a bad token, and nothing after it is read.
-/
namespace BlockTier.Json

structure Numeral where
  negative : Bool := false
  /-- The leading digits without the point, as many as 64 bits hold. -/
  digits : Nat := 0
  /-- The power of ten that they are to be taken times, the exponent aside. -/
  scale : Int := 0
  /-- Whether a digit after the point has been left out, so that those after it are too. -/
  isCut : Bool := false
  /-- Whether there is neither a point nor an exponent. -/
  isWhole : Bool := true
  exponent : Int := 0
  deriving DecidableEq

namespace Numeral

/-- The first number that 64 bits do not hold. -/
def limit : Nat := 1 <<< 64

/-- The first exponent that is not read any further. -/
def exponentLimit : Int := (1 <<< 31 : Nat)

/-- Adds a digit before the point. After one that does not fit the rest are only counted. -/
def addWhole (n : Numeral) (d : Nat) : Numeral :=
  if 0 < n.scale || limit ≤ 10 * n.digits + d then { n with scale := n.scale + 1 }
  else { n with digits := 10 * n.digits + d }

/-- Adds a digit after the point. One that does not fit is left out with all after it. -/
def addPlace (n : Numeral) (d : Nat) : Numeral :=
  if n.isCut || limit ≤ 10 * n.digits + d then { n with isCut := true }
  else { n with digits := 10 * n.digits + d, scale := n.scale - 1 }

def addExponent (n : Numeral) (d : Nat) : Numeral :=
  { n with exponent := min (10 * n.exponent + d) exponentLimit }

def bound (n : Nat) : Int := (1 <<< n : Nat)

/-- The value of a number written without point and exponent, if 64 bits hold it and it is not a
negative zero. -/
def whole? (n : Numeral) : Option Int :=
  let v : Int := if n.negative then -n.digits else n.digits
  if !n.isWhole || n.scale ≠ 0 || (n.negative && n.digits = 0) then none
  else if -bound 63 ≤ v && v < bound 64 then some v
  else none

/-- Whether the value is past the range of double-precision numbers. -/
def isTooLarge (n : Numeral) : Bool :=
  let e := n.scale + n.exponent
  if n.digits = 0 then false
  else if exponentLimit ≤ n.exponent || 308 < e then true
  else if n.exponent ≤ -exponentLimit || e < 0 then false
  else ((UInt64.ofNat n.digits).toFloat * Float.ofScientific 1 false e.toNat).isInf

end Numeral

inductive Token
  | openObject | closeObject | openList | closeList | comma | colon
  | null
  | bool (b : Bool)
  | number (n : Numeral)
  /-- A string; there is no text if it holds half a surrogate pair or invalid UTF-8. -/
  | text (s : Option String)
  | bad
  deriving DecidableEq

structure Literal where
  /-- The bytes so far, latest first. -/
  bytes : Bytes := []
  /-- The first half of a surrogate pair whose second half must follow. -/
  high : Option Nat := none
  isText : Bool := true

namespace Literal

/-- The bytes of a character, latest first, in front of those before it. -/
def push (l : Literal) (code : Nat) : Literal :=
  { l with bytes := (Bytes.ofString (Char.ofNat code).toString).reverse ++ l.bytes }

def addByte (l : Literal) (b : UInt8) : Literal :=
  { bytes := b :: l.bytes, high := none, isText := l.isText && l.high.isNone }

/-- Adds the 16-bit unit of an escape. -/
def addUnit (l : Literal) (unit : Nat) : Literal :=
  let isHigh := 0xd800 ≤ unit && unit < 0xdc00
  let isLow := 0xdc00 ≤ unit && unit < 0xe000
  match l.high with
  | some high =>
    if isLow then
      { l with high := none }.push (0x10000 + (high - 0xd800) * 0x400 + (unit - 0xdc00))
    else { l with high := none, isText := false }
  | none =>
    if isHigh then { l with high := some unit }
    else if isLow then { l with isText := false }
    else l.push unit

def text? (l : Literal) : Option String :=
  if l.isText && l.high.isNone then Bytes.toString? l.bytes.reverse else none

end Literal

inductive NumeralPart
  | sign | zero | whole | point | fraction | exponentMark | exponentSign | exponent

inductive Mode
  | between
  /-- The bytes that must follow of the name of a token. -/
  | name (rest : Bytes) (t : Token)
  /-- A number; the exponent's own digits are kept apart from its sign. -/
  | numeral (part : NumeralPart) (n : Numeral) (negativeExponent : Bool)
  | string (l : Literal)
  | escape (l : Literal)
  | unit (left : Nat) (value : Nat) (l : Literal)
  | stuck

/-- The tokens read, latest first, and what the next byte belongs to. -/
structure Lexer where
  mode : Mode := .between
  tokens : List Token := []

namespace Lexer

def emit (x : Lexer) (t : Token) : Lexer := ⟨.between, t :: x.tokens⟩

def goTo (x : Lexer) (mode : Mode) : Lexer := { x with mode }

def fail (x : Lexer) : Lexer := ⟨.stuck, .bad :: x.tokens⟩

def isDigit (b : UInt8) : Bool := 0x30 ≤ b && b ≤ 0x39

def digit (b : UInt8) : Nat := b.toNat - 0x30

def feedBetween (x : Lexer) (b : UInt8) : Lexer :=
  if b = 0x20 || b = 0x09 || b = 0x0a || b = 0x0d then x
  else if b = 0x7b then x.emit .openObject
  else if b = 0x7d then x.emit .closeObject
  else if b = 0x5b then x.emit .openList
  else if b = 0x5d then x.emit .closeList
  else if b = 0x2c then x.emit .comma
  else if b = 0x3a then x.emit .colon
  else if b = 0x22 then x.goTo (.string {})
  else if b = 0x74 then x.goTo (.name [0x72, 0x75, 0x65] (.bool true))
  else if b = 0x66 then x.goTo (.name [0x61, 0x6c, 0x73, 0x65] (.bool false))
  else if b = 0x6e then x.goTo (.name [0x75, 0x6c, 0x6c] .null)
  else if b = 0x2d then x.goTo (.numeral .sign { negative := true } false)
  else if b = 0x30 then x.goTo (.numeral .zero {} false)
  else if isDigit b then x.goTo (.numeral .whole { digits := digit b } false)
  else x.fail

/-- Ends a number, if it may end here. -/
def endNumeral (x : Lexer) (part : NumeralPart) (n : Numeral) (negativeExponent : Bool) : Lexer :=
  match part with
  | .zero | .whole | .fraction => x.emit (.number n)
  | .exponent =>
    x.emit (.number (if negativeExponent then { n with exponent := -n.exponent } else n))
  | .sign | .point | .exponentMark | .exponentSign => x.fail

/-- Reads a byte of a number, or the byte after it. -/
def feedNumeral (x : Lexer) (part : NumeralPart) (n : Numeral) (negativeExponent : Bool)
    (b : UInt8) : Lexer :=
  let isPoint := b = 0x2e
  let isMark := b = 0x65 || b = 0x45
  let more (part : NumeralPart) (n : Numeral) := x.goTo (.numeral part n negativeExponent)
  let afterWhole : Option Lexer :=
    if isPoint then some (more .point { n with isWhole := false })
    else if isMark then some (more .exponentMark { n with isWhole := false })
    else none
  let stop :=
    match x.endNumeral part n negativeExponent with
    | ⟨.stuck, tokens⟩ => ⟨.stuck, tokens⟩
    | ended => ended.feedBetween b
  match part with
  | .sign =>
    if b = 0x30 then more .zero n
    else if isDigit b then more .whole (n.addWhole (digit b))
    else x.fail
  | .zero => if isDigit b then x.fail else afterWhole.getD stop
  | .whole => if isDigit b then more .whole (n.addWhole (digit b)) else afterWhole.getD stop
  | .point | .fraction =>
    if isDigit b then more .fraction (n.addPlace (digit b))
    else
      match part with
      | .fraction => if isMark then more .exponentMark n else stop
      | _ => x.fail
  | .exponentMark =>
    if isDigit b then more .exponent { n with exponent := digit b }
    else if b = 0x2b then more .exponentSign n
    else if b = 0x2d then x.goTo (.numeral .exponentSign n true)
    else x.fail
  | .exponentSign | .exponent =>
    if isDigit b then more .exponent (n.addExponent (digit b))
    else stop

def feedEscape (x : Lexer) (l : Literal) (b : UInt8) : Lexer :=
  let add (c : UInt8) := x.goTo (.string (l.addByte c))
  if b = 0x22 || b = 0x5c || b = 0x2f then add b
  else if b = 0x62 then add 0x08
  else if b = 0x66 then add 0x0c
  else if b = 0x6e then add 0x0a
  else if b = 0x72 then add 0x0d
  else if b = 0x74 then add 0x09
  else if b = 0x75 then x.goTo (.unit 4 0 l)
  else x.fail

def feed (x : Lexer) (b : UInt8) : Lexer :=
  match x.mode with
  | .between => x.feedBetween b
  | .name (c :: rest) t =>
    if b ≠ c then x.fail
    else if rest.isEmpty then x.emit t
    else x.goTo (.name rest t)
  | .name [] _ => x.fail
  | .numeral part n negativeExponent => x.feedNumeral part n negativeExponent b
  | .string l =>
    if b = 0x22 then x.emit (.text l.text?)
    else if b = 0x5c then x.goTo (.escape l)
    else if b < 0x20 then x.fail
    else x.goTo (.string (l.addByte b))
  | .escape l => x.feedEscape l b
  | .unit left value l =>
    match Hex.digit? b with
    | none => x.fail
    | some d =>
      if left ≤ 1 then x.goTo (.string (l.addUnit (16 * value + d)))
      else x.goTo (.unit (left - 1) (16 * value + d) l)
  | .stuck => x

def finish (x : Lexer) : List Token :=
  let x :=
    match x.mode with
    | .between | .stuck => x
    | .numeral part n negativeExponent => x.endNumeral part n negativeExponent
    | .name .. | .string _ | .escape _ | .unit .. => x.fail
  x.tokens.reverse

end Lexer

def tokens (text : Bytes) : List Token := (text.foldl Lexer.feed {}).finish

end BlockTier.Json
