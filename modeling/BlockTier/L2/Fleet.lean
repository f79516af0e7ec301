import BlockTier.L2.Store
import BlockTier.Node
/-!
The storage fleet in memory: one store a node, made when a block is first written to it. A node
that is cut off answers nothing.
-/
namespace BlockTier.L2

inductive TransportError
  | unreachable (node reason : String)
  | nodeFull (node : String)
  | protocol (node : String) (status : Nat)
  | invalidRequest (reason : String)
  deriving DecidableEq

def TransportError.message : TransportError → String
  | unreachable node reason => s!"Node {node} unreachable: {reason}"
  | nodeFull node => s!"Node {node} is out of space"
  | protocol node status => s!"Node {node} answered HTTP {status}"
  | invalidRequest reason => s!"Invalid request: {reason}"

structure Fleet where
  stores : Table Store := []
  cutOff : List String := []
  /-- The ceiling of every node's store. -/
  nodeCapacity : Nat := 0
  /-- Milliseconds before a request reaches its node. -/
  latency : Nat := 0
  closed : Bool := false

namespace Fleet

def setReachable (f : Fleet) (id : String) (up : Bool) : Fleet :=
  { f with cutOff := if up then f.cutOff.filter (· ≠ id) else id :: f.cutOff }

def store? (f : Fleet) (id : String) : Option Store := f.stores.find? id

def totalBlocks (f : Fleet) : Nat := @List.sum Nat _ ⟨0⟩ (f.stores.values.map (·.size))

def reach (f : Fleet) (node : Node) : Except TransportError Unit :=
  if f.cutOff.contains node.id then .error (.unreachable node.id "connection refused")
  else .ok ()

/-- A store is made even for a block that it then refuses. -/
def put (f : Fleet) (node : Node) (key : String) (data : Bytes) :
    Fleet × Except TransportError Unit :=
  match f.reach node with
  | .error e => (f, .error e)
  | .ok () =>
    let store := (f.store? node.id).getD (.new f.nodeCapacity)
    match store.put key data with
    | .ok store => ({ f with stores := f.stores.insert node.id store }, .ok ())
    | .error _ => ({ f with stores := f.stores.insert node.id store }, .error (.nodeFull node.id))

/-- Nothing is an answer too: the node is there and does not hold the key. -/
def get (f : Fleet) (node : Node) (key : String) : Except TransportError (Option Bytes) := do
  f.reach node
  return (f.store? node.id).bind (·.get? key)

def holds (f : Fleet) (node : Node) (key : String) : Except TransportError Bool := do
  f.reach node
  return (f.store? node.id).any (·.contains key)

def remove (f : Fleet) (id key : String) : Fleet × Option Bool :=
  match f.store? id with
  | none => (f, none)
  | some store =>
    let (store, old) := store.remove key
    ({ f with stores := f.stores.insert id store }, some old.isSome)

def close (f : Fleet) : Fleet := { f with closed := true }

end Fleet

end BlockTier.L2
