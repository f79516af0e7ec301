import BlockTier.Proofs.L2.Requests
import Mathlib.Logic.Function.Basic
/-!
Connectors that share a fleet, and the map of the latest puts that their answers are measured by.
Each connector has a ring and a codec of its own; requests cross each other, rings are rebuilt and
nodes are cut off and come back in between.
-/
namespace BlockTier.L2

variable {ι : Type} [DecidableEq ι]

/-- A request on its way, with the owner that its key had when it was sent. -/
structure Waiting (ι : Type) where
  sender : ι
  owner : Option Node
  request : Request

structure Cluster (ι : Type) where
  connectors : ι → Connector
  fleet : Fleet
  waiting : List (Waiting ι) := []

/-- What has become of a query, with the owner that its key had when it was asked. -/
structure Answer where
  query : Query
  owner : Option Node
  status : Status

/-- The data that a node has for a key since the answer. -/
def Answer.stored? (id key : String) (a : Answer) : Option Bytes :=
  match a.query with
  | .put k data =>
    if a.status.success = true ∧ k = key ∧ a.owner.map Node.id = some id then some data else none
  | _ => none

/-- The data of the latest put of the key that succeeded with the node as owner, in a log that
begins with the latest answer. -/
def lastPut (log : List Answer) (id key : String) : Option Bytes :=
  log.findSome? (·.stored? id key)

def Cluster.withConnector (s : Cluster ι) (i : ι) (c : Connector) : Cluster ι :=
  { s with connectors := Function.update s.connectors i c }

/-- A connector is asked, a request that waits is answered, a connector refreshes its ring or fails
to, or a node is cut off or comes back. -/
inductive Step : Cluster ι → Option Answer → Cluster ι → Prop
  | refused (s : Cluster ι) (i : ι) (q : Query) (status : Status)
    (refused : ((s.connectors i).ask q).2 = .error status) :
    Step s (some ⟨q, (s.connectors i).owner? q.key, status⟩)
      (s.withConnector i ((s.connectors i).ask q).1)
  | sent (s : Cluster ι) (i : ι) (q : Query) (r : Request)
    (asked : ((s.connectors i).ask q).2 = .ok r) :
    Step s none
      { s.withConnector i ((s.connectors i).ask q).1 with
        waiting := ⟨i, (s.connectors i).owner? q.key, r⟩ :: s.waiting }
  | answered (s : Cluster ι) (before after : List (Waiting ι)) (w : Waiting ι)
    (waits : s.waiting = before ++ w :: after) :
    Step s
      (some ⟨w.request.query, w.owner,
        ((s.connectors w.sender).answer s.fleet w.request).2.2⟩)
      { s.withConnector w.sender ((s.connectors w.sender).answer s.fleet w.request).1 with
        fleet := ((s.connectors w.sender).answer s.fleet w.request).2.1
        waiting := before ++ after }
  | refreshed (s : Cluster ι) (i : ι) (map : Except TopologyError (List Node)) :
    Step s none (s.withConnector i ((s.connectors i).refresh map).1)
  | reached (s : Cluster ι) (id : String) (up : Bool) :
    Step s none { s with fleet := s.fleet.setReachable id up }

/-- Connectors of one scheme and a fleet that began without blocks, with the log of the run. -/
inductive Run (scheme : Scheme) : Cluster ι → List Answer → Prop
  | start (connectors : ι → Connector) (fleet : Fleet)
    (same : ∀ i, (connectors i).codec.scheme = scheme) (empty : fleet.stores = []) :
    Run scheme ⟨connectors, fleet, []⟩ []
  | step {s s' : Cluster ι} {a : Option Answer} {log : List Answer} (before : Run scheme s log)
    (step : Step s a s') : Run scheme s' (a.toList ++ log)

variable {log : List Answer} {a : Answer} {id key : String}

/-! ### What a log says -/

theorem lastPut_cons_of_none (unstored : a.stored? id key = none) :
    lastPut (a :: log) id key = lastPut log id key := by
  rw [lastPut, List.findSome?_cons, unstored, lastPut]

theorem Answer.stored?_of_failed (failed : a.status.success = false) (id key : String) :
    a.stored? id key = none := by
  unfold stored?
  split
  · exact if_neg (fun all => Bool.false_ne_true (failed.symm.trans all.1))
  · rfl

theorem Answer.stored?_of_read (reads : ∀ key data, a.query ≠ .put key data) (id key : String) :
    a.stored? id key = none := by
  unfold stored?
  split
  · rename_i k data query
    exact absurd query (reads k data)
  · rfl

theorem lastPut_of_failed (failed : a.status.success = false) (id key : String) :
    lastPut (a :: log) id key = lastPut log id key :=
  lastPut_cons_of_none (Answer.stored?_of_failed failed id key)

/-! ### What an answer says -/

/-- What there is to say of a key: its data, that the owner has none, or that no owner answers. -/
inductive Found
  | held (data : Bytes)
  | missing
  | unreached

/-- The key in the map of the latest puts, for an owner that may be cut off. -/
def lookUp (f : Fleet) (log : List Answer) (owner : Option Node) (key : String) : Found :=
  match owner with
  | none => .unreached
  | some node =>
    if node.id ∈ f.cutOff then .unreached
    else
      match lastPut log node.id key with
      | some data => .held data
      | none => .missing

namespace Found

/-- What is found and the status of a read tell each other. A read of data that is held succeeds,
and what its status carries is a matter of the read; no other read succeeds. -/
structure ToldByRead (payload : Bytes → Option Bytes) (found : Found) (status : Status) : Prop where
  held : ∀ data, found = .held data → status.success = true ∧ status.payload = payload data
  success : status.success = true → ∃ data, found = .held data
  missing : status.code = .notFound ↔ found = .missing
  unreached : status.code = .unavailable ↔ found = .unreached

/-- An owner that is reached may be full. -/
structure ToldByPut (found : Found) (status : Status) : Prop where
  unreached : status.code = .unavailable ↔ found = .unreached
  reached : found ≠ .unreached → status.success = true ∨ status.code = .capacityExhausted

variable (message : String)

theorem toldByRead_held (payload : Bytes → Option Bytes) (data : Bytes) :
    (held data).ToldByRead payload ⟨true, .ok, message, payload data⟩ := by
  constructor <;> simp

theorem toldByRead_missing (payload : Bytes → Option Bytes) :
    missing.ToldByRead payload (.notFound message) := by
  constructor <;> simp [Status.notFound, Status.failure]

theorem toldByRead_unreached (payload : Bytes → Option Bytes) :
    unreached.ToldByRead payload (.unavailable message) := by
  constructor <;> simp [Status.unavailable, Status.failure]

theorem toldByPut_unreached : unreached.ToldByPut (.unavailable message) :=
  ⟨⟨fun _ => rfl, fun _ => rfl⟩, fun reached => absurd rfl reached⟩

theorem toldByPut_ok {found : Found} (reached : found ≠ unreached) :
    found.ToldByPut (.ok message) :=
  ⟨⟨nofun, fun same => absurd same reached⟩, fun _ => Or.inl rfl⟩

theorem toldByPut_full {found : Found} (reached : found ≠ unreached) :
    found.ToldByPut (.failure .capacityExhausted message) :=
  ⟨⟨nofun, fun same => absurd same reached⟩, fun _ => Or.inr rfl⟩

end Found

/-- The answer is the one that the map of the latest puts gives. One that is not a success leaves
the map and every frame as they were. -/
structure Answer.Refines (a : Answer) (f f' : Fleet) (log : List Answer) : Prop where
  get : ∀ key, a.query = .get key → (lookUp f log a.owner key).ToldByRead some a.status
  check : ∀ key, a.query = .holds key →
    (lookUp f log a.owner key).ToldByRead (fun _ => none) a.status
  put : ∀ key data, a.query = .put key data → (lookUp f log a.owner key).ToldByPut a.status
  failed : a.status.code ≠ .ok →
    ∀ id key, lastPut (a :: log) id key = lastPut log id key ∧ f'.frame? id key = f.frame? id key

theorem Answer.refines_of_unreached {f : Fleet} {q : Query} {owner : Option Node} {message : String}
    (unreached : ∀ key, lookUp f log owner key = .unreached) :
    Answer.Refines ⟨q, owner, .unavailable message⟩ f f log where
  get := fun key _ => unreached key ▸ Found.toldByRead_unreached message some
  check := fun key _ => unreached key ▸ Found.toldByRead_unreached message _
  put := fun key _ _ => unreached key ▸ Found.toldByPut_unreached message
  failed := fun _ id key => ⟨lastPut_of_failed rfl id key, rfl⟩

end BlockTier.L2
