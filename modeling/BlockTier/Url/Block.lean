import BlockTier.Node
import BlockTier.Url.Host
/-!
The URLs that storage nodes and the controller are reached at. A node's address may bring user
information, a path, a query and a fragment along; the path of a block is appended to its path.
-/
namespace BlockTier

namespace Url

structure Http where
  userinfo : List Char := []
  host : List Char
  port : Option Nat
  /-- The segments of the path; there is always one. -/
  path : List (List Char)
  /-- The query and the fragment with the signs in front of them. -/
  suffix : List Char := []

def Http.text (u : Http) : String :=
  String.ofList
    ("http://".toList ++ u.userinfo ++ u.host ++
      (match u.port with
        | some p => s!":{p}".toList
        | none => []) ++
      u.path.flatMap ('/' :: ·) ++ u.suffix)

/-- Tabs and line ends count as absent wherever they stand. -/
def isIgnored (c : Char) : Bool := c = '\t' || c = '\n' || c = '\r'

def isSlash (c : Char) : Bool := c = '/' || c = '\\'

/-- Whether the character ends the part of a URL that names the server. -/
def endsAuthority (c : Char) : Bool := isSlash c || c = '?' || c = '#'

/-- User information in its written form. -/
def userinfo (cs : List Char) : List Char :=
  let name := cs.takeWhile (· ≠ ':')
  let password := (cs.dropWhile (· ≠ ':')).drop 1
  let written := encode inUserinfo name ++
    (if password.isEmpty then [] else ':' :: encode inUserinfo password)
  if written.isEmpty then [] else written ++ ['@']

/-- Splits a list behind the last of the elements that the test holds for. -/
def cutAfterLast (test : Char → Bool) (cs : List Char) : List Char × List Char :=
  let back := cs.reverse.takeWhile (fun c => !test c)
  (cs.take (cs.length - back.length), back.reverse)

/-- The characters of a host; a colon inside brackets belongs to it. -/
def hostLength (inBrackets : Bool) : List Char → Nat
  | [] => 0
  | c :: rest =>
    if c = ':' && !inBrackets then 0
    else hostLength (if c = '[' then true else if c = ']' then false else inBrackets) rest + 1

/-- The port after a colon. The default port is left out. -/
def port (cs : List Char) : Except Error (Option Nat) :=
  match cs with
  | ':' :: digits =>
    if !digits.all Char.isDigit || 65535 < number 10 digits then .error .invalidPort
    else if digits.isEmpty || number 10 digits = 80 then .ok none
    else .ok (some (number 10 digits))
  | _ => .ok none

/-- Whether a segment stands for the one that it is in. -/
def isDot (s : List Char) : Bool := [".", "%2e"].contains ((String.ofList s).toLower)

/-- Whether a segment stands for the one above. -/
def isDoubleDot (s : List Char) : Bool :=
  ["..", "%2e%2e", "%2e.", ".%2e"].contains ((String.ofList s).toLower)

/-- Whether a segment is the letter of a drive. -/
def isDrive (s : List Char) : Bool :=
  match s with
  | [letter, mark] => letter.isAlpha && (mark = ':' || mark = '|')
  | _ => false

/-- The segments, latest first, above the last one. A drive is not left. -/
def goUp (done : List (List Char)) : List (List Char) :=
  if (done.head?.map isDrive).getD false then done else done.drop 1

/-- The segments of a path, latest first, with the dots in them followed. -/
def followDots (done : List (List Char)) : List (List Char) → List (List Char)
  | [] => done
  | [last] =>
    if isDoubleDot last then [] :: goUp done
    else if isDot last then [] :: done
    else last :: done
  | s :: rest =>
    if isDoubleDot s then followDots (goUp done) rest
    else if isDot s then followDots done rest
    else followDots (s :: done) rest

def path (cs : List Char) : List (List Char) :=
  let cs := if (cs.head?.map isSlash).getD false then cs.drop 1 else cs
  (followDots [] ((splitAt isSlash cs).map (encode inPath))).reverse

def suffix (cs : List Char) : List Char :=
  let query := cs.takeWhile (· ≠ '#')
  let fragment := cs.dropWhile (· ≠ '#')
  (match query with
    | [] => []
    | c :: rest => c :: encode inQuery rest) ++
  (match fragment with
    | [] => []
    | c :: rest => c :: encode inFragment rest)

/-- Reads what follows the scheme and its slashes. -/
def read (cs : List Char) : Except Error Http := do
  let cs := (cs.filter (fun c => !isIgnored c)).dropWhile isSlash
  let authority := cs.takeWhile (fun c => !endsAuthority c)
  let rest := cs.dropWhile (fun c => !endsAuthority c)
  let (user, server) := cutAfterLast (· = '@') authority
  if !user.isEmpty && server.isEmpty then throw .emptyHost
  let length := hostLength false server
  return {
    userinfo := userinfo user.dropLast
    host := ← host (server.take length)
    port := ← port (server.drop length)
    path := path (rest.takeWhile (fun c => c ≠ '?' && c ≠ '#'))
    suffix := suffix (rest.dropWhile (fun c => c ≠ '?' && c ≠ '#')) }

/-- The path without an empty segment at its end, unless it is the only one. -/
def popIfEmpty (path : List (List Char)) : List (List Char) :=
  if 1 < path.length && path.getLast? = some [] then path.dropLast else path

/-- Appends a text as one segment. A single or double dot adds nothing; with ignored characters in
it, it is followed. -/
def appendSegment (path : List (List Char)) (s : List Char) : List (List Char) :=
  if s = ['.'] || s = ['.', '.'] then path
  else
    let path := if path = [[]] then [] else path
    let s := s.filter (fun c => !isIgnored c)
    if s = ['.'] then path ++ [[]]
    else if s = ['.', '.'] then path.dropLast ++ [[]]
    else path ++ [encode inSegment s]

end Url

open Url in
/-- The URL of a block on a node. -/
def Node.blockUrl (n : Node) (key : String) : Except Url.Error Url.Http := do
  let u ← read (n.address.toList ++ ['/'])
  return { u with
    path := ["v1", "blocks", key].foldl (fun p s => appendSegment p s.toList) (popIfEmpty u.path) }

/-- The URL that requests to a controller start with, from its address or URL. -/
def Url.base (address : String) : String :=
  if address.startsWith "http://" || address.startsWith "https://" then
    String.ofList (address.toList.reverse.dropWhile (· = '/')).reverse
  else "http://" ++ address

end BlockTier
