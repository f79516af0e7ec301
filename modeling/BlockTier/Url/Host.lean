import BlockTier.Url.Domain.Ascii
import BlockTier.Url.Percent
/-!
The hosts of URLs: names, IPv4 addresses in any of their numeric spellings, and IPv6 addresses in
brackets. Each is written in one form.
-/
namespace BlockTier.Url

inductive Error
  | emptyHost
  | invalidDomain
  | invalidIpv4
  | invalidIpv6
  | invalidPort
  deriving DecidableEq

def Error.message : Error → String
  | emptyHost => "empty host"
  | invalidDomain => "invalid international domain name"
  | invalidIpv4 => "invalid IPv4 address"
  | invalidIpv6 => "invalid IPv6 address"
  | invalidPort => "invalid port number"

/-- The value of a part of an IPv4 address: to base 16 after 0x, to base 8 after 0, else to base
10. -/
def ipv4Part? (cs : List Char) : Option Nat :=
  let read (base : Nat) (isDigit : Char → Bool) (cs : List Char) :=
    if cs.all isDigit then some (number base cs) else none
  match cs with
  | [] => none
  | '0' :: 'x' :: rest | '0' :: 'X' :: rest => read 16 isHexDigit rest
  | '0' :: c :: rest => read 8 (fun c => '0' ≤ c && c ≤ '7') (c :: rest)
  | cs => read 10 Char.isDigit cs

/-- The parts of a host between points, without an empty one at the end. -/
def hostParts (cs : List Char) : List (List Char) :=
  let parts := splitAt (· = '.') cs
  if parts.getLast? = some [] then parts.dropLast else parts

/-- Whether the last part is a number, so that the host must be an IPv4 address. -/
def endsInNumber (cs : List Char) : Bool :=
  match (hostParts cs).getLast? with
  | none => false
  | some last => (!last.isEmpty && last.all Char.isDigit) || (ipv4Part? last).isSome

/-- The value of an address whose last part stands for all bytes that are left. -/
def ipv4? (cs : List Char) : Option Nat := do
  let numbers ← (hostParts cs).mapM ipv4Part?
  let last ← numbers.getLast?
  let front := numbers.dropLast
  if 4 < numbers.length || front.any (255 < ·) then failure
  let left := 1 <<< (8 * (4 - front.length))
  if left ≤ last then failure
  return front.foldl (fun n x => 256 * n + x) 0 * left + last

def ipv4Text (n : Nat) : List Char :=
  (s!"{n >>> 24}.{n >>> 16 % 256}.{n >>> 8 % 256}.{n % 256}").toList

/-- One number of the dotted end of an IPv6 address. -/
def dottedPart? (cs : List Char) : Option Nat :=
  match cs with
  | [] => none
  | ['0'] => some 0
  | '0' :: _ => none
  | _ =>
    if cs.all Char.isDigit && cs.length ≤ 3 && number 10 cs ≤ 255 then some (number 10 cs)
    else none

/-- The two pieces that the dotted end of an IPv6 address stands for. -/
def dottedPieces? (cs : List Char) : Option (List Nat) := do
  match ← (splitAt (· = '.') cs).mapM dottedPart? with
  | [a, b, c, d] => return [256 * a + b, 256 * c + d]
  | _ => failure

/-- The pieces between colons, the last of which may be dotted. -/
def ipv6Pieces? : List (List Char) → Option (List Nat)
  | [] => some []
  | [last] =>
    if last.contains '.' then dottedPieces? last
    else if !last.isEmpty && last.length ≤ 4 && last.all isHexDigit then some [number 16 last]
    else none
  | piece :: rest => do
    if piece.isEmpty || 4 < piece.length || !piece.all isHexDigit then failure
    return number 16 piece :: (← ipv6Pieces? rest)

/-- The texts on both sides of the first double colon. -/
def cutDoubleColon : List Char → Option (List Char × List Char)
  | ':' :: ':' :: rest => some ([], rest)
  | c :: rest => (cutDoubleColon rest).map (fun (a, b) => (c :: a, b))
  | [] => none

/-- The pieces of a side of a double colon, or of an address without one. -/
def ipv6Side? (cs : List Char) : Option (List Nat) :=
  if cs.isEmpty then some [] else ipv6Pieces? (splitAt (· = ':') cs)

def ipv6? (cs : List Char) : Option (List Nat) := do
  match cutDoubleColon cs with
  | none =>
    let pieces ← ipv6Side? cs
    if pieces.length = 8 then return pieces else failure
  | some (left, right) =>
    if left.contains '.' then failure
    let left ← ipv6Side? left
    let right ← ipv6Side? right
    if 7 < left.length + right.length then failure
    return left ++ List.replicate (8 - left.length - right.length) 0 ++ right

/-- The start and the length of the first longest run of zeros. -/
def longestZeros (pieces : List Nat) : Nat × Nat :=
  let runs := (List.range pieces.length).map
    (fun i => (i, ((pieces.drop i).takeWhile (· = 0)).length))
  runs.foldl (fun best run => if best.2 < run.2 then run else best) (0, 0)

def pieceTexts (pieces : List Nat) : List Char :=
  (":".intercalate (pieces.map Hex.ofNat)).toList

/-- An address with its first longest run of zeros, if it is longer than one, left out. -/
def ipv6Text (pieces : List Nat) : List Char :=
  let (start, length) := longestZeros pieces
  if length ≤ 1 then pieceTexts pieces
  else pieceTexts (pieces.take start) ++ ':' :: ':' :: pieceTexts (pieces.drop (start + length))

def host (cs : List Char) : Except Error (List Char) :=
  match cs with
  | [] => .error .emptyHost
  | '[' :: rest =>
    match rest.getLast?, ipv6? rest.dropLast with
    | some ']', some pieces => .ok ('[' :: (ipv6Text pieces ++ [']']))
    | _, _ => .error .invalidIpv6
  | _ =>
    let text := Bytes.toString? (decode (Bytes.ofString (String.ofList cs)))
    match text.bind (Domain.ascii? ·.toList) with
    | none => .error .invalidDomain
    | some name =>
      if name.isEmpty then .error .emptyHost
      else if endsInNumber name then
        match ipv4? name with
        | some n => .ok (ipv4Text n)
        | none => .error .invalidIpv4
      else .ok name

end BlockTier.Url
