import BlockTier.Node
import BlockTier.Table
/-!
Membership of the fleet. A node is up from a registration or an accepted heartbeat until a sweep
finds it silent for longer than the timeout; only another such event brings it back.
-/
namespace BlockTier

inductive TopologyError
  | request
  | status (code : Nat)
  | unknownNode (id : String)
  deriving DecidableEq

def TopologyError.message : TopologyError → String
  | request => "Controller request failed"
  | status code => s!"Controller returned HTTP {code}"
  | unknownNode id => s!"Unknown storage node: {id}"

inductive HeartbeatAck
  | accepted (readmitted : Bool)
  /-- Older than the last heartbeat of a node that is up; nothing changes. -/
  | stale
  deriving DecidableEq

structure Member where
  node : Node
  lastSeen : Nat
  lastTimestamp : Nat
  deriving DecidableEq

def Member.takeDown (m : Member) : Member := { m with node := { m.node with health := .down } }

structure Controller where
  /-- Milliseconds of silence after which a node is down. -/
  timeout : Nat
  members : Table Member := []
  deriving DecidableEq

namespace Controller

/-- Enters a node or a node's new address. The node is up either way, and its next heartbeat may
carry any timestamp. The flag tells whether it is new. -/
def register (c : Controller) (now : Nat) (node : Node) : Controller × Bool :=
  let node := { node with health := .up }
  ({ c with members := c.members.insert node.id ⟨node, now, 0⟩ }, !c.members.contains node.id)

def withSeeds (timeout now : Nat) (seeds : List Node) : Controller :=
  seeds.foldl (fun c n => (c.register now n).1) { timeout }

/-- A node that is down is readmitted whatever the timestamp, so a clock that was set back cannot
keep it out. -/
def heartbeat (c : Controller) (now : Nat) (id : String) (timestamp : Nat) :
    Controller × Except TopologyError HeartbeatAck :=
  match c.members.find? id with
  | none => (c, .error (.unknownNode id))
  | some m =>
    if m.node.isUp && timestamp < m.lastTimestamp then (c, .ok .stale)
    else
      ({ c with
          members := c.members.insert id ⟨{ m.node with health := .up }, now, timestamp⟩ },
        .ok (.accepted !m.node.isUp))

/-- Whether a sweep at `now` takes the node down. -/
def isOverdue (c : Controller) (now : Nat) (m : Member) : Bool :=
  m.node.isUp && m.lastSeen + c.timeout < now

/-- Takes the silent nodes down and lists their ids in order. -/
def sweep (c : Controller) (now : Nat) : Controller × List String :=
  ({ c with
      members := c.members.map
        (fun e => if c.isOverdue now e.2 then (e.1, e.2.takeDown) else e) },
    Table.keys (c.members.filter (fun e => c.isOverdue now e.2)))

/-- The nodes that blocks may be placed on, in order of id. -/
def clusterMap (c : Controller) : List Node :=
  (c.members.values.map (·.node)).filter Node.isUp

/-- Every known node with the time since its last sign of life, in order of id. -/
def statuses (c : Controller) (now : Nat) : List (Node × Nat) :=
  c.members.values.map (fun m => (m.node, now - m.lastSeen))

end Controller

end BlockTier
