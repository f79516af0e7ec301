import BlockTier.Http.Message
import BlockTier.Wire.Message
import BlockTier.Wire.Report
/-!
The controller's HTTP surface. A stale heartbeat is acknowledged like any other.
-/
namespace BlockTier.Http.ControllerApi

def mapResponse (c : Controller) : Response := .ok (Wire.toJson (ClusterMap.mk c.clusterMap))

def nodesResponse (c : Controller) (now : Nat) : Response :=
  .ok (.obj [("nodes", .arr ((c.statuses now).map (fun (n, silentFor) => n.report silentFor)))])

def health (c : Controller) : Response :=
  .ok (.obj [("status", .str "ok"), ("active_nodes", .nat c.clusterMap.length)])

def heartbeat (c : Controller) (now : Nat) (h : Heartbeat) : Controller × Response :=
  match c.heartbeat now h.nodeId h.timestamp with
  | (c, .ok _) => (c, .ok (Wire.toJson (HeartbeatReply.mk "ACK")))
  | (c, .error _) => (c, .notFound)

def register (c : Controller) (now : Nat) (q : Registration) : Controller × Response :=
  let (c, isNew) := c.register now { id := q.nodeId, host := q.host, port := q.port }
  (c, .ok (.obj [("status", .str "REGISTERED"), ("new_node", .bool isNew)]))

def post (α : Type) [Wire α] (c : Controller) (r : Request)
    (reply : α → Controller × Response) : Controller × Response :=
  if r.method = .post then
    match r.read α with
    | .ok a => reply a
    | .error response => (c, response)
  else (c, .methodNotAllowed)

def get (r : Request) (response : Response) : Response :=
  match r.method with
  | .get => response
  | .head => response.withoutBody
  | _ => .methodNotAllowed

def handle (c : Controller) (now : Nat) (r : Request) : Controller × Response :=
  match String.ofList r.path with
  | "/v1/cluster/map" => (c, get r (mapResponse c))
  | "/v1/cluster/nodes" => (c, get r (nodesResponse c now))
  | "/v1/cluster/heartbeat" => post Heartbeat c r (heartbeat c now)
  | "/v1/cluster/register" => post Registration c r (register c now)
  | "/health" => (c, get r (health c))
  | _ => (c, .notFound)

end BlockTier.Http.ControllerApi
