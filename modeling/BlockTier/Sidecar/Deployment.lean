import BlockTier.L1.Tier
import BlockTier.L2.Connector
/-!
A sidecar with its two tiers, the controller that it asks for the cluster map and the fleet that
it stores blocks on.
-/
namespace BlockTier.Sidecar

/-- Whether a block that went to the first tier is written to the second one too. -/
inductive Tiering
  | exclusive | writeThrough
  deriving DecidableEq

namespace Tiering

def all : List Tiering := [exclusive, writeThrough]

def name : Tiering → String
  | exclusive => "exclusive"
  | writeThrough => "write_through"

def ofName? (s : String) : Option Tiering := all.find? (·.name = s)

theorem ofName?_name (p : Tiering) : ofName? p.name = some p := by cases p <;> decide

end Tiering

structure Tally where
  offloadsL1 : Nat := 0
  offloadsL2 : Nat := 0
  offloadFailures : Nat := 0
  l1Hits : Nat := 0
  l2Hits : Nat := 0
  misses : Nat := 0
  timeouts : Nat := 0
  deriving DecidableEq

structure Stats where
  policy : Tiering
  tally : Tally
  l1 : L1.Stats
  l2 : L2.ConnectorStats
  transfer : TransferStats

inductive Topology
  | controller
  | fixed (nodes : List Node)
  | failing (e : TopologyError)

/-- The lock of the first tier. Calls that wait for it get it in the order in which they came. -/
structure Lock where
  holder : Option Nat := none
  waiting : List Nat := []
  deriving DecidableEq

namespace Lock

/-- Takes the lock, or a place behind those that wait. -/
def request (l : Lock) (call : Nat) : Lock :=
  match l.holder with
  | none => { l with holder := some call }
  | some _ => { l with waiting := l.waiting ++ [call] }

def release (l : Lock) : Lock :=
  match l.waiting with
  | [] => {}
  | next :: rest => ⟨some next, rest⟩

/-- Gives up the lock, or the place behind it. -/
def withdraw (l : Lock) (call : Nat) : Lock :=
  if l.holder = some call then l.release else { l with waiting := l.waiting.erase call }

end Lock

structure Deployment where
  /-- Milliseconds since the start. -/
  now : Nat := 0
  tier : L1.Tier
  lock : Lock := {}
  l2 : L2.Connector
  fleet : L2.Fleet := {}
  controller : Controller
  topology : Topology := .controller
  policy : Tiering := .exclusive
  /-- The deadline in milliseconds of calls that bring none. -/
  defaultTimeout : Option Nat := none
  tally : Tally := {}

namespace Deployment

def clusterMap (d : Deployment) : Except TopologyError (List Node) :=
  match d.topology with
  | .controller => .ok d.controller.clusterMap
  | .fixed nodes => .ok nodes
  | .failing e => .error e

def refresh (d : Deployment) : Deployment × Except TopologyError Nat :=
  let (l2, count) := d.l2.refresh d.clusterMap
  ({ d with l2 }, count)

def register (d : Deployment) (node : Node) : Deployment × Bool :=
  let (controller, isNew) := d.controller.register d.now node
  ({ d with controller }, isNew)

def heartbeat (d : Deployment) (id : String) (timestamp : Nat) :
    Deployment × Except TopologyError HeartbeatAck :=
  let (controller, ack) := d.controller.heartbeat d.now id timestamp
  ({ d with controller }, ack)

def sweep (d : Deployment) : Deployment × List String :=
  let (controller, ids) := d.controller.sweep d.now
  ({ d with controller }, ids)

def statuses (d : Deployment) : List (Node × Nat) := d.controller.statuses d.now

/-- No wait is longer than thirty years of 365 days, in milliseconds. -/
def longestWait : Nat := 30 * 365 * 86400 * 1000

def after (d : Deployment) (ms : Nat) : Nat := d.now + min ms longestWait

def close (d : Deployment) : Deployment := { d with fleet := d.fleet.close }

/-- The statistics, with the tally as it was when they were asked for. -/
def stats (d : Deployment) (tally : Tally) : Stats where
  policy := d.policy
  tally
  l1 := d.tier.cache.stats
  l2 := d.l2.stats
  transfer := d.tier.copier.stats

end Deployment

end BlockTier.Sidecar
