import BlockTier.L2.Connector
import BlockTier.Proofs.L2.Placement
/-!
What a connector keeps. Its operations only count; a refresh that succeeds rebuilds its ring, and
nothing else moves a key.
-/
namespace BlockTier.L2.Connector

/-- The connector without its counters. -/
def uncounted (c : Connector) : Connector := { c with counters := {} }

section

variable (c : Connector)

theorem uncounted_route (key : String) : (c.route key).1.uncounted = c.uncounted := by
  unfold route
  split <;> rfl

theorem uncounted_beginPut (key : String) (data : Bytes) :
    (c.beginPut key data).1.uncounted = c.uncounted := by
  unfold beginPut route
  cases c.owner? key <;> rfl

theorem uncounted_beginGet (key : String) : (c.beginGet key).1.uncounted = c.uncounted := by
  unfold beginGet route
  cases c.owner? key <;> rfl

theorem uncounted_transportFailure (e : TransportError) :
    (c.transportFailure e).1.uncounted = c.uncounted := by
  unfold transportFailure
  split <;> rfl

theorem uncounted_finishPut (node : Node) (r : Except TransportError Unit) :
    (c.finishPut node r).1.uncounted = c.uncounted := by
  cases r with
  | ok => rfl
  | error e => exact c.uncounted_transportFailure e

theorem uncounted_finishGet (node : Node) (r : Except TransportError (Option Bytes)) :
    (c.finishGet node r).1.uncounted = c.uncounted := by
  cases r with
  | error e => exact c.uncounted_transportFailure e
  | ok frame =>
    cases frame with
    | none => rfl
    | some frame =>
      simp only [finishGet]
      split <;> rfl

theorem uncounted_finishExists (node : Node) (r : Except TransportError Bool) :
    (c.finishExists node r).1.uncounted = c.uncounted := by
  cases r with
  | error e => exact c.uncounted_transportFailure e
  | ok there => cases there <;> rfl

theorem uncounted_refresh_error (e : TopologyError) :
    (c.refresh (.error e)).1.uncounted = c.uncounted := rfl

theorem owner?_eq_none_iff (key : String) : c.owner? key = none ↔ c.ring.isEmpty = true := by
  rw [owner?, Ring.owner?, Ring.ownerAt?_eq_none_iff, Ring.isEmpty, List.isEmpty_iff]

end

/-- A put, a get or a check of the key that begins now goes to the node. -/
def RoutesTo (c : Connector) (key : String) (node : Node) : Prop :=
  (∃ data frame, (c.beginPut key data).2 = .ok (node, frame)) ∨ (c.beginGet key).2 = .ok node ∨
    (c.route key).2 = .ok node

theorem routesTo_iff (c : Connector) (key : String) (node : Node) :
    c.RoutesTo key node ↔ c.owner? key = some node := by
  unfold RoutesTo beginPut beginGet route
  cases c.owner? key <;> simp

/-- The ring is the one of a cluster map, or the empty one as long as there is no map. -/
structure Follows (virtualNodes : Nat) (hash : Hash) (map : Option (List Node)) (c : Connector) :
    Prop where
  hash_eq : c.hash = hash
  ring_eq : c.ring =
    match map with
    | none => .new virtualNodes
    | some nodes => .withNodes hash virtualNodes nodes

variable {virtualNodes : Nat} {hash : Hash} {map : Option (List Node)} {c c' : Connector}

theorem Follows.of_uncounted (follows : c.Follows virtualNodes hash map)
    (same : c'.uncounted = c.uncounted) : c'.Follows virtualNodes hash map :=
  ⟨(congrArg (fun c => c.hash) same).trans follows.hash_eq,
    (congrArg (fun c => c.ring) same).trans follows.ring_eq⟩

theorem Follows.virtualNodes_eq (follows : c.Follows virtualNodes hash map) :
    c.ring.virtualNodes = max virtualNodes 1 := by
  rw [follows.ring_eq]
  cases map <;> rfl

theorem Follows.refresh (follows : c.Follows virtualNodes hash map) (nodes : List Node) :
    (c.refresh (.ok nodes)).1.Follows virtualNodes hash (some nodes) := by
  refine ⟨follows.hash_eq, ?_⟩
  simp only [Connector.refresh, follows.hash_eq, follows.virtualNodes_eq, Ring.withNodes_max]

theorem Follows.owner?_eq {nodes : List Node} (follows : c.Follows virtualNodes hash (some nodes))
    (key : String) :
    c.owner? key = (Ring.withNodes hash virtualNodes nodes).owner? hash key := by
  rw [owner?, follows.hash_eq, follows.ring_eq]

theorem Follows.mem_of_owner? (follows : c.Follows virtualNodes hash map) {key : String}
    {node : Node} (owned : c.owner? key = some node) :
    ∃ nodes, map = some nodes ∧ node ∈ nodes ∧ node.isUp = true := by
  cases map with
  | none =>
    rw [owner?, follows.ring_eq, Ring.owner?_new] at owned
    cases owned
  | some nodes =>
    rw [follows.owner?_eq] at owned
    exact ⟨nodes, rfl, Ring.mem_of_owner?_withNodes owned⟩

theorem Follows.owner?_eq_none_iff (follows : c.Follows virtualNodes hash map) (key : String) :
    c.owner? key = none ↔
      map = none ∨ ∃ nodes, map = some nodes ∧ ∀ node ∈ nodes, node.isUp = false := by
  cases map with
  | none =>
    rw [owner?, follows.ring_eq, Ring.owner?_new]
    simp
  | some nodes =>
    rw [follows.owner?_eq, Ring.owner?_withNodes_eq_none_iff]
    simp

end BlockTier.L2.Connector
