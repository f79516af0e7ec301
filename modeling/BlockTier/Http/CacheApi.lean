import BlockTier.Http.Message
import BlockTier.Sidecar.Call
import BlockTier.Wire.Message
import BlockTier.Wire.Report
/-!
The sidecar's HTTP surface. A request is answered at once or by a call; only a call that was
given invalid arguments is answered as a bad request.
-/
namespace BlockTier.Http.CacheApi

open Sidecar

inductive Reply
  | now (r : Response)
  | call (c : Call) (respond : Answer → Response)

def statusResponse (s : Status) : Response :=
  ⟨if s.code = .invalidArgument then 400 else 200, .json (Wire.toJson s)⟩

def respondStatus : Answer → Response
  | .status s => statusResponse s
  | _ => { code := 500 }

def respondQuery (key : String) : Answer → Response
  | .flag available => .ok (Wire.toJson (QueryReply.mk key available))
  | _ => { code := 500 }

def respondStats : Answer → Response
  | .stats s => .ok s.toJson
  | _ => { code := 500 }

def health (d : Deployment) : Response :=
  .ok (.obj [("status", .str "ok"), ("ring_nodes", .nat d.l2.ring.size)])

def post (α : Type) [Wire α] (r : Request) (reply : α → Reply) : Reply :=
  if r.method = .post then
    match r.read α with
    | .ok a => reply a
    | .error response => .now response
  else .now .methodNotAllowed

/-- The reply to a get, and to a head without its body. -/
def get (r : Request) (reply : (Response → Response) → Reply) : Reply :=
  match r.method with
  | .get => reply id
  | .head => reply Response.withoutBody
  | _ => .now .methodNotAllowed

def handle (d : Deployment) (r : Request) : Reply :=
  match String.ofList r.path with
  | "/v1/kv/offload" =>
    post OffloadRequest r (fun q => .call (.offload q.key q.block q.timeout) respondStatus)
  | "/v1/kv/fetch" =>
    post FetchRequest r (fun q => .call (.fetch q.key q.dest q.timeout) respondStatus)
  | "/v1/kv/query" => post Query r (fun q => .call (.check q.key) (respondQuery q.key))
  | "/v1/kv/l1-space" => post SpaceRequest r (fun q => .call (.makeRoom q.needed) respondStatus)
  | "/v1/cache/stats" => get r (fun f => .call .stats (fun a => f (respondStats a)))
  | "/health" => get r (fun f => .now (f (health d)))
  | _ => .now .notFound

end BlockTier.Http.CacheApi
