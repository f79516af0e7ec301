import BlockTier.Http.Message
import BlockTier.L2.Connector
import BlockTier.Url.Block
import BlockTier.Wire.Message
/-!
The HTTP side of those who ask: of a controller's clients, of a storage node's clients, and of a
node that announces itself. What a response means is said here; what a network brings back for a
request is left to the network.
-/
namespace BlockTier.Http

/-- What comes back for a request sent to a URL; nothing if there is no connection. -/
abbrev Network := (url : String) → Request → Option Response

/-- The network in which nobody can be reached. -/
def Network.dark : Network := fun _ _ => none

def Response.isSuccess (r : Response) : Bool := 200 ≤ r.code && r.code < 300

def Body.content : Body → Bytes
  | empty => []
  | json v => v.bytes
  | bytes b => b

def Request.posting (target : String) (v : Json) : Request :=
  { method := .post, target, contentType := some "application/json", body := v.bytes }

structure ControllerClient where
  network : Network
  base : String

namespace ControllerClient

def of (network : Network) (address : String) : ControllerClient := ⟨network, Url.base address⟩

def send (c : ControllerClient) (r : Request) : Except TopologyError Response :=
  match c.network (c.base ++ r.target) r with
  | some response => .ok response
  | none => .error .request

def registration (n : Node) : Request :=
  .posting "/v1/cluster/register" (Wire.toJson n.registration)

def heartbeat (id : String) (timestamp : Nat) : Request :=
  .posting "/v1/cluster/heartbeat" (Wire.toJson (Heartbeat.mk id timestamp))

def register (c : ControllerClient) (n : Node) : Except TopologyError Unit := do
  let response ← c.send (registration n)
  if response.isSuccess then .ok () else .error (.status response.code)

/-- A controller that does not know the node says so. -/
def beat (c : ControllerClient) (id : String) (timestamp : Nat) : Except TopologyError Unit := do
  let response ← c.send (heartbeat id timestamp)
  if response.code = 200 then .ok ()
  else if response.code = 404 then .error (.unknownNode id)
  else .error (.status response.code)

def clusterMap (c : ControllerClient) : Except TopologyError (List Node) := do
  let response ← c.send { method := .get, target := "/v1/cluster/map" }
  if !response.isSuccess then .error (.status response.code)
  else
    match Wire.parse (α := ClusterMap) response.body.content with
    | .ok map => .ok map.nodes
    | .error _ => .error .request

end ControllerClient

structure StorageClient where
  network : Network
  /-- The addresses that connections have been opened to. -/
  pools : List String := []

namespace StorageClient

/-- Sends a request for a block. The connections to an address are kept for the next one; user
information goes into a header and not into the URL. -/
def send (c : StorageClient) (n : Node) (key : String) (method : Method) (body : Bytes) :
    StorageClient × Except L2.TransportError Response :=
  match n.blockUrl key with
  | .error e => (c, .error (.invalidRequest e.message))
  | .ok url =>
    let url := { url with userinfo := [] }
    ({ c with pools := c.pools.insert n.address },
      match c.network url.text { method, target := url.text, body } with
      | some response => .ok response
      | none =>
        .error (.unreachable n.id s!"error sending request for url ({url.text})"))

/-- Reads a response in which a block may be missing. -/
def found? {α : Type} (n : Node) (present : Response → α) (absent : α) (r : Response) :
    Except L2.TransportError α :=
  if r.code = 404 then .ok absent
  else if r.isSuccess then .ok (present r)
  else .error (.protocol n.id r.code)

def put (c : StorageClient) (n : Node) (key : String) (data : Bytes) :
    StorageClient × Except L2.TransportError Unit :=
  let (c, r) := c.send n key .put data
  (c, r.bind fun response =>
    if response.isSuccess then .ok ()
    else if response.code = 507 then .error (.nodeFull n.id)
    else .error (.protocol n.id response.code))

def get (c : StorageClient) (n : Node) (key : String) :
    StorageClient × Except L2.TransportError (Option Bytes) :=
  let (c, r) := c.send n key .get []
  (c, r.bind (found? n (fun response => some response.body.content) none))

def holds (c : StorageClient) (n : Node) (key : String) :
    StorageClient × Except L2.TransportError Bool :=
  let (c, r) := c.send n key .head []
  (c, r.bind (found? n (fun _ => true) false))

def close (c : StorageClient) : StorageClient := { c with pools := [] }

end StorageClient

/-- A connector with the storage nodes behind it. -/
structure RemoteTier where
  connector : L2.Connector
  client : StorageClient

namespace RemoteTier

def refresh (t : RemoteTier) (controller : ControllerClient) :
    RemoteTier × Except TopologyError Nat :=
  let (connector, count) := t.connector.refresh controller.clusterMap
  ({ t with connector }, count)

def put (t : RemoteTier) (key : String) (data : Bytes) : RemoteTier × Status :=
  match t.connector.beginPut key data with
  | (connector, .error s) => ({ t with connector }, s)
  | (connector, .ok (node, frame)) =>
    let (client, r) := t.client.put node key frame
    let (connector, s) := connector.finishPut node r
    (⟨connector, client⟩, s)

def get (t : RemoteTier) (key : String) : RemoteTier × Status :=
  match t.connector.beginGet key with
  | (connector, .error s) => ({ t with connector }, s)
  | (connector, .ok node) =>
    let (client, r) := t.client.get node key
    let (connector, s) := connector.finishGet node r
    (⟨connector, client⟩, s)

def holds (t : RemoteTier) (key : String) : RemoteTier × Status :=
  match t.connector.route key with
  | (connector, .error s) => ({ t with connector }, s)
  | (connector, .ok node) =>
    let (client, r) := t.client.holds node key
    let (connector, s) := connector.finishExists node r
    (⟨connector, client⟩, s)

end RemoteTier

/-- What a node last heard from its controller. -/
inductive Standing
  | unknown
  /-- Registered a moment ago; the first heartbeat follows at once. -/
  | fresh
  | known

/-- The requests with which a node announces itself to a controller that answers with these codes.
It registers until that succeeds and again when the controller has forgotten it. -/
def announcements (n : Node) (timestamp : Nat) : Standing → List Nat → List Request
  | .unknown, [] | .known, [] => []
  | .fresh, [] => [ControllerClient.heartbeat n.id timestamp]
  | .unknown, code :: rest =>
    ControllerClient.registration n ::
      announcements n timestamp (if 200 ≤ code ∧ code < 300 then .fresh else .unknown) rest
  | .fresh, code :: rest | .known, code :: rest =>
    ControllerClient.heartbeat n.id timestamp ::
      announcements n timestamp (if code = 404 then .unknown else .known) rest

end BlockTier.Http
