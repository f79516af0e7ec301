import BlockTier.Json.Token
import BlockTier.Json.Value
/-!
Readers of JSON values of a given shape. A reader takes tokens from the front and returns the
value in canonical form: records have all their fields, in order. The first fault in reading
order is reported, and a fault of shape is told apart from one of syntax.
-/
namespace BlockTier.Json

inductive Fault
  /-- The text is no JSON. -/
  | syntaxFault
  /-- The text is JSON so far, but not what is to be read. -/
  | shapeFault
  deriving DecidableEq

/-- A reader of values of one shape. -/
abbrev Format := List Token → Except Fault (Json × List Token)

namespace Format

/-- The fault of a token that starts no value of the shape. -/
def wrongKind : List Token → Fault
  | .null :: _ | .bool _ :: _ | .openObject :: _ | .openList :: _ | .text (some _) :: _ =>
    .shapeFault
  | .number n :: _ => if n.isTooLarge then .syntaxFault else .shapeFault
  | _ => .syntaxFault

def text : Format
  | .text (some s) :: rest => .ok (.str s, rest)
  | ts => .error (wrongKind ts)

def flag : Format
  | .bool b :: rest => .ok (.bool b, rest)
  | ts => .error (wrongKind ts)

def integer (lo hi : Int) : Format
  | .number n :: rest =>
    match n.whole? with
    | some v => if lo ≤ v && v ≤ hi then .ok (.num v, rest) else .error .shapeFault
    | none => .error (wrongKind (.number n :: rest))
  | ts => .error (wrongKind ts)

def word (bits : Nat) : Format := integer 0 (Numeral.bound bits - 1)

def signed (bits : Nat) : Format :=
  integer (-Numeral.bound (bits - 1)) (Numeral.bound (bits - 1) - 1)

def optional (f : Format) : Format
  | .null :: rest => .ok (.null, rest)
  | ts => f ts

/-- One of several names, alone or as the only member of an object, with null. -/
def choice (names : List String) : Format
  | .text (some s) :: rest => if s ∈ names then .ok (.str s, rest) else .error .shapeFault
  | .openObject :: .closeObject :: _ => .error .syntaxFault
  | .openObject :: .text (some s) :: rest =>
    if s ∉ names then .error .shapeFault
    else
      match rest with
      | .colon :: .null :: .closeObject :: rest => .ok (.str s, rest)
      | .colon :: .null :: _ => .error .syntaxFault
      | .colon :: ts => .error (wrongKind ts)
      | _ => .error .syntaxFault
  | .openObject :: ts => .error (wrongKind ts)
  | _ => .error .syntaxFault

/-- What a comma or a closing bracket in a list says about it. -/
def nextItem (isFirst : Bool) : List Token → Except Fault (Option (List Token))
  | .closeList :: _ => .ok none
  | .comma :: .closeList :: _ => .error .syntaxFault
  | .comma :: ts => if isFirst then .ok (some (.comma :: ts)) else .ok (some ts)
  | [] => .error .syntaxFault
  | ts => if isFirst then .ok (some ts) else .error .syntaxFault

def endList : List Token → Except Fault (List Token)
  | .closeList :: rest => .ok rest
  | _ => .error .syntaxFault

/-- The items of a list whose bracket has been read. Each takes at least one token, so `fuel`
above their number is never used up. -/
def items (f : Format) : (fuel : Nat) → (done : List Json) → List Token →
    Except Fault (List Json × List Token)
  | 0, _, _ => .error .syntaxFault
  | fuel + 1, done, ts => do
    match ← nextItem done.isEmpty ts with
    | none => return (done.reverse, ← endList ts)
    | some ts =>
      let (v, ts) ← f ts
      items f fuel (v :: done) ts

def list (f : Format) : Format
  | .openList :: ts => do
    let (vs, ts) ← items f (ts.length + 1) [] ts
    return (.arr vs, ts)
  | ts => .error (wrongKind ts)

inductive Nest
  | inObject | inList
  deriving DecidableEq

/-- What may come next in a value that is passed over. -/
inductive Expect
  | value | itemOrEnd | keyOrEnd | key | colon | after
  deriving DecidableEq

/-- What comes after a token, and in which brackets. -/
def passToken (e : Expect) (nest : List Nest) (t : Token) : Option (Expect × List Nest) :=
  let startValue :=
    match t with
    | .null | .bool _ | .number _ | .text _ => some (.after, nest)
    | .openList => some (.itemOrEnd, .inList :: nest)
    | .openObject => some (.keyOrEnd, .inObject :: nest)
    | _ => none
  match e, t, nest with
  | .value, _, _ => startValue
  | .itemOrEnd, .closeList, _ :: outer => some (.after, outer)
  | .itemOrEnd, _, _ => startValue
  | .keyOrEnd, .closeObject, _ :: outer => some (.after, outer)
  | .keyOrEnd, .text _, _ => some (.colon, nest)
  | .key, .text _, _ => some (.colon, nest)
  | .colon, .colon, _ => some (.value, nest)
  | .after, .comma, .inList :: _ => some (.value, nest)
  | .after, .comma, .inObject :: _ => some (.key, nest)
  | .after, .closeList, .inList :: outer => some (.after, outer)
  | .after, .closeObject, .inObject :: outer => some (.after, outer)
  | _, _, _ => none

def skip (e : Expect) (nest : List Nest) (ts : List Token) : Except Fault (List Token) :=
  if e = .after ∧ nest = [] then .ok ts
  else
    match ts with
    | [] => .error .syntaxFault
    | t :: rest =>
      match passToken e nest t with
      | none => .error .syntaxFault
      | some (e, nest) => skip e nest rest

structure Field where
  name : String
  format : Format
  /-- The value of a field that is left out; without one it must be there. -/
  ifAbsent : Option Json := none

/-- The next key of an object, and its members after it. -/
def nextKey (isFirst : Bool) : List Token → Except Fault (Option (String × List Token))
  | .closeObject :: _ => .ok none
  | .text (some k) :: ts => if isFirst then .ok (some (k, ts)) else .error .syntaxFault
  | .comma :: .text (some k) :: ts => if isFirst then .error .syntaxFault else .ok (some (k, ts))
  | _ => .error .syntaxFault

def passColon : List Token → Except Fault (List Token)
  | .colon :: rest => .ok rest
  | _ => .error .syntaxFault

/-- The known members of an object whose bracket has been read, latest first, and what follows the
object. Each takes at least one token, so `fuel` above their number is never used up. -/
def members (fields : List Field) :
    (fuel : Nat) → (isFirst : Bool) → (done : List (String × Json)) → List Token →
      Except Fault (List (String × Json) × List Token)
  | 0, _, _, _ => .error .syntaxFault
  | fuel + 1, isFirst, done, ts => do
    match ← nextKey isFirst ts with
    | none => return (done, ts.drop 1)
    | some (k, ts) =>
      match fields.find? (fun f => f.name = k) with
      | none => members fields fuel false done (← skip .value [] (← passColon ts))
      | some f =>
        if (done.lookup k).isSome then throw .shapeFault
        let (v, ts) ← f.format (← passColon ts)
        members fields fuel false ((k, v) :: done) ts

def Field.complete (f : Field) (read : Option Json) : Except Fault (String × Json) :=
  match read, f.ifAbsent with
  | some v, _ => .ok (f.name, v)
  | none, some v => .ok (f.name, v)
  | none, none => .error .shapeFault

def positional : List Field → (isFirst : Bool) → List Token →
    Except Fault (List (String × Json) × List Token)
  | [], _, ts => do return ([], ← endList ts)
  | f :: fields, isFirst, ts => do
    let (v, ts) ←
      match ← nextItem isFirst ts with
      | none => do pure (← f.complete none, ts)
      | some ts => do
        let (v, ts) ← f.format ts
        pure ((f.name, v), ts)
    let (rest, ts) ← positional fields false ts
    return (v :: rest, ts)

/-- An object with the fields in any order and among others, or the list of the fields. -/
def record (fields : List Field) : Format
  | .openObject :: ts => do
    let (read, ts) ← members fields (ts.length + 1) true [] ts
    return (.obj (← fields.mapM (fun f => f.complete (read.lookup f.name))), ts)
  | .openList :: ts => do
    let (vs, ts) ← positional fields true ts
    return (.obj vs, ts)
  | ts => .error (wrongKind ts)

def parse (f : Format) (text : Bytes) : Except Fault Json :=
  match f (tokens text) with
  | .ok (v, []) => .ok v
  | .ok (_, _ :: _) => .error .syntaxFault
  | .error e => .error e

end Format

end BlockTier.Json
