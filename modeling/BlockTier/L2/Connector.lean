import BlockTier.Controller
import BlockTier.L2.Codec
import BlockTier.L2.Fleet
import BlockTier.L2.Ring
import BlockTier.Status
/-!
The fleet behind put, get and exists. Keys are placed by a ring that is rebuilt from the cluster
map; a refresh that fails keeps the ring. An operation begins by routing its key, waits for the
node and then reads its answer.
-/
namespace BlockTier.L2

structure ConnectorCounters where
  puts : Nat := 0
  gets : Nat := 0
  hits : Nat := 0
  misses : Nat := 0
  unavailable : Nat := 0
  refreshes : Nat := 0
  refreshFailures : Nat := 0
  deriving DecidableEq

structure ConnectorStats where
  ringNodes : Nat
  virtualNodes : Nat
  counters : ConnectorCounters
  compression : Bool

structure Connector where
  ring : Ring
  codec : Codec := {}
  hash : Hash := stableHash
  counters : ConnectorCounters := {}

namespace Connector

def noNodes : String := "No storage nodes available."

def miss : String := "Key not found (cache miss)"

/-- Rebuilds the ring from a cluster map and tells how many nodes it has. -/
def refresh (c : Connector) (map : Except TopologyError (List Node)) :
    Connector × Except TopologyError Nat :=
  match map with
  | .error e =>
    ({ c with
        counters := { c.counters with refreshFailures := c.counters.refreshFailures + 1 } },
      .error e)
  | .ok nodes =>
    let ring := Ring.withNodes c.hash c.ring.virtualNodes nodes
    ({ c with
        ring
        counters := { c.counters with refreshes := c.counters.refreshes + 1 } },
      .ok ring.size)

def owner? (c : Connector) (key : String) : Option Node := c.ring.owner? c.hash key

def countUnavailable (c : Connector) : Connector :=
  { c with counters := { c.counters with unavailable := c.counters.unavailable + 1 } }

def route (c : Connector) (key : String) : Connector × Except Status Node :=
  match c.owner? key with
  | some node => (c, .ok node)
  | none => (c.countUnavailable, .error (.unavailable noNodes))

/-- A full node is not an unavailable one. -/
def transportFailure (c : Connector) (e : TransportError) : Connector × Status :=
  match e with
  | .nodeFull _ => (c, .failure .capacityExhausted e.message)
  | _ => (c.countUnavailable, .unavailable e.message)

/-- The node to send a block to, and the frame to send. -/
def beginPut (c : Connector) (key : String) (data : Bytes) :
    Connector × Except Status (Node × Bytes) :=
  match c.route key with
  | (c, .error status) => (c, .error status)
  | (c, .ok node) =>
    ({ c with counters := { c.counters with puts := c.counters.puts + 1 } },
      .ok (node, c.codec.encode data))

def finishPut (c : Connector) (node : Node) : Except TransportError Unit → Connector × Status
  | .ok () => (c, .ok s!"Stored on {node.id}")
  | .error e => c.transportFailure e

def beginGet (c : Connector) (key : String) : Connector × Except Status Node :=
  match c.route key with
  | (c, .error status) => (c, .error status)
  | (c, .ok node) =>
    ({ c with counters := { c.counters with gets := c.counters.gets + 1 } }, .ok node)

/-- A hit carries the block's bytes. -/
def finishGet (c : Connector) (node : Node) :
    Except TransportError (Option Bytes) → Connector × Status
  | .error e => c.transportFailure e
  | .ok none =>
    ({ c with counters := { c.counters with misses := c.counters.misses + 1 } }, .notFound miss)
  | .ok (some frame) =>
    match c.codec.decode frame with
    | .ok data =>
      ({ c with counters := { c.counters with hits := c.counters.hits + 1 } },
        .okWithPayload s!"Loaded from {node.id}" data)
    | .error e => (c, .failure .transferFailed s!"decode failed: {e.message}")

def finishExists (c : Connector) (node : Node) : Except TransportError Bool → Connector × Status
  | .error e => c.transportFailure e
  | .ok true => (c, .ok s!"Present on {node.id}")
  | .ok false => (c, .notFound miss)

def stats (c : Connector) : ConnectorStats where
  ringNodes := c.ring.size
  virtualNodes := c.ring.virtualNodes
  counters := c.counters
  compression := c.codec.compress

end Connector

end BlockTier.L2
