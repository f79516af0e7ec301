import BlockTier.Wire.Basic
/-!
HTTP requests and responses, and what a request must bring to be read as JSON.
-/
namespace BlockTier.Http

inductive Method
  | get | head | post | put
  | other (name : String)
  deriving DecidableEq

structure Request where
  method : Method
  /-- The path with its query. -/
  target : String
  contentType : Option String := none
  body : Bytes := []

inductive Body
  | empty
  | json (v : Json)
  | bytes (b : Bytes)

structure Response where
  code : Nat
  body : Body := .empty

/-- No request body may be longer. -/
def maxBody : Nat := 2 * 1024 * 1024

/-- What follows the scheme and the slashes of a full URL. -/
def afterScheme? : List Char → Option (List Char)
  | ':' :: '/' :: '/' :: rest => some rest
  | c :: rest => if c.isAlphanum || "+-.".contains c then afterScheme? rest else none
  | [] => none

/-- The path without query and fragment. The target may also be a full URL. -/
def Request.path (r : Request) : List Char :=
  let target := r.target.toList
  let path (cs : List Char) := cs.takeWhile (fun c => c ≠ '?' && c ≠ '#')
  match afterScheme? target with
  | none => path target
  | some rest =>
    match path (rest.dropWhile (fun c => c ≠ '/' && c ≠ '?' && c ≠ '#')) with
    | [] => ['/']
    | found => found

namespace Response

def ok (v : Json) : Response := ⟨200, .json v⟩

def notFound : Response := { code := 404 }

def methodNotAllowed : Response := { code := 405 }

def withoutBody (r : Response) : Response := { r with body := .empty }

end Response

/-- Characters that names in a media type are made of. -/
def isTokenChar (c : Char) : Bool := c.isAlphanum || "!#$%&'*+-.^_`|~".toList.contains c

inductive ParameterPart
  | before | name | valueStart | value | quoteStart | quoted | afterQuote

/-- Reads parameters, each a name and a value that may be quoted. -/
def validParameters : ParameterPart → List Char → Bool
  | .before, [] | .valueStart, [] | .value, [] | .afterQuote, [] => true
  | .name, [] | .quoteStart, [] | .quoted, [] => false
  | .before, c :: rest =>
    if c = ' ' then validParameters .before rest
    else isTokenChar c && validParameters .name rest
  | .name, c :: rest =>
    if c = '=' then validParameters .valueStart rest
    else isTokenChar c && validParameters .name rest
  | .valueStart, c :: rest =>
    if c = '"' then validParameters .quoteStart rest
    else isTokenChar c && validParameters .value rest
  | .value, c :: rest =>
    if c = ';' then validParameters .before rest
    else isTokenChar c && validParameters .value rest
  | .quoteStart, c :: rest => ' ' ≤ c && c ≠ '\x7f' && validParameters .quoted rest
  | .quoted, c :: rest =>
    if c = '"' then validParameters .afterQuote rest
    else ' ' ≤ c && c ≠ '\x7f' && validParameters .quoted rest
  | .afterQuote, c :: rest =>
    if c = ';' then validParameters .before rest
    else c = ' ' && validParameters .afterQuote rest

/-- Whether a character may stand in a header that is read as text. -/
def isHeaderChar (c : Char) : Bool := c = '\t' || (' ' ≤ c && c < '\x7f')

/-- Whether a media type says JSON, by its subtype or by its suffix. -/
def isJsonType (mediaType : String) : Bool :=
  let cs := mediaType.toList.map Char.toLower
  let kind := cs.takeWhile (· ≠ '/')
  let rest := (cs.dropWhile (· ≠ '/')).drop 1
  let subtype := rest.takeWhile (· ≠ ';')
  let parameters := (rest.dropWhile (· ≠ ';')).drop 1
  let suffix := (subtype.reverse.takeWhile (· ≠ '+')).reverse
  let stem := subtype.take (subtype.length - suffix.length - 1)
  cs.all isHeaderChar && kind = "application".toList &&
    !subtype.isEmpty && subtype.all isTokenChar && validParameters .before parameters &&
    (subtype = "json".toList ||
      (!stem.isEmpty && (stem = "json".toList || suffix = "json".toList)))

/-- Reads a request's body as JSON: the media type is looked at first, then the length, then the
text. -/
def Request.read (α : Type) [Wire α] (r : Request) : Except Response α :=
  if !(r.contentType.map isJsonType).getD false then .error { code := 415 }
  else if maxBody < r.body.length then .error { code := 413 }
  else
    match Wire.parse (α := α) r.body with
    | .ok a => .ok a
    | .error .syntaxFault => .error { code := 400 }
    | .error .shapeFault => .error { code := 422 }

end BlockTier.Http
