import BlockTier.Http.Message
import BlockTier.L2.Store
import BlockTier.Url.Percent
import BlockTier.Wire.Report
/-!
A storage node's HTTP surface: blocks are put, got and looked for under their percent-encoded
keys.
-/
namespace BlockTier.Http.StorageApi

def blockRoot : List Char := "/v1/blocks/".toList

/-- The encoded key in the path of a block: one segment that is not empty. -/
def encodedKey? (path : List Char) : Option (List Char) :=
  let key := path.drop blockRoot.length
  if path.take blockRoot.length = blockRoot && !key.isEmpty && !key.contains '/' then some key
  else none

/-- The key that an encoded one stands for, if it is a text. -/
def key? (encoded : List Char) : Option String :=
  Bytes.toString? (Url.decode (Bytes.ofString (String.ofList encoded)))

def put (s : L2.Store) (key : String) (body : Bytes) : L2.Store × Response :=
  if maxBody < body.length then (s, { code := 413 })
  else
    match s.put key body with
    | .ok s => (s, { code := 204 })
    | .error _ => (s, { code := 507 })

def get (s : L2.Store) (key : String) : Response :=
  match s.get? key with
  | some data => ⟨200, .bytes data⟩
  | none => .notFound

def head (s : L2.Store) (key : String) : Response :=
  if s.contains key then { code := 200 } else .notFound

def health (nodeId : String) (s : L2.Store) : Response :=
  .ok (.obj ([("status", .str "ok"), ("node_id", .str nodeId)] ++ s.members))

def handleBlock (s : L2.Store) (r : Request) (encoded : List Char) : L2.Store × Response :=
  match r.method with
  | .other _ | .post => (s, .methodNotAllowed)
  | method =>
    match key? encoded with
    | none => (s, { code := 400 })
    | some key =>
      match method with
      | .put => put s key r.body
      | .head => (s, head s key)
      | _ => (s, get s key)

def handle (nodeId : String) (s : L2.Store) (r : Request) : L2.Store × Response :=
  if r.path = "/health".toList then
    match r.method with
    | .get => (s, health nodeId s)
    | .head => (s, (health nodeId s).withoutBody)
    | _ => (s, .methodNotAllowed)
  else
    match encodedKey? r.path with
    | some encoded => handleBlock s r encoded
    | none => (s, .notFound)

end BlockTier.Http.StorageApi
