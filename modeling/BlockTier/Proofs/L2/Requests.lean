import BlockTier.Proofs.L2.Connection
import BlockTier.Proofs.L2.Storage
/-!
What becomes of a put, a get or a check of a key: it is refused when no node owns the key, and goes
to the owner otherwise, which may be cut off by then.
-/
namespace BlockTier.L2

inductive Query
  | put (key : String) (data : Bytes)
  | get (key : String)
  | holds (key : String)

namespace Query

def key : Query → String
  | put key _ | get key | holds key => key

/-- What is sent along. -/
def frame (codec : Codec) : Query → Bytes
  | put _ data => codec.encode data
  | _ => []

end Query

/-- A query on its way to a node. -/
structure Request where
  query : Query
  node : Node
  frame : Bytes

namespace Fleet

variable {f : Fleet} {node : Node} {key : String} {data : Bytes}

theorem reach_cases (f : Fleet) (node : Node) :
    node.id ∈ f.cutOff ∧ f.reach node = .error (.unreachable node.id "connection refused") ∨
      node.id ∉ f.cutOff ∧ f.reach node = .ok () := by
  unfold reach
  split
  · rename_i gone
    exact Or.inl ⟨List.contains_iff_mem.mp gone, rfl⟩
  · rename_i here
    exact Or.inr ⟨fun gone => here (List.contains_iff_mem.mpr gone), rfl⟩

theorem put_of_unreached {e : TransportError} (unreached : f.reach node = .error e) :
    f.put node key data = (f, .error e) := by
  rw [put, unreached]

theorem put_cases (reached : f.reach node = .ok ()) (key : String) (data : Bytes) :
    (f.put node key data).2 = .ok () ∨ (f.put node key data).2 = .error (.nodeFull node.id) := by
  rw [put, reached]
  dsimp only
  split
  · exact Or.inl rfl
  · exact Or.inr rfl

end Fleet

namespace Connector

def ask (c : Connector) (q : Query) : Connector × Except Status Request :=
  match q with
  | .put key data =>
    let (c, asked) := c.beginPut key data
    (c, asked.map fun (node, frame) => ⟨q, node, frame⟩)
  | .get key =>
    let (c, asked) := c.beginGet key
    (c, asked.map (⟨q, ·, []⟩))
  | .holds key =>
    let (c, asked) := c.route key
    (c, asked.map (⟨q, ·, []⟩))

def answer (c : Connector) (f : Fleet) (r : Request) : Connector × Fleet × Status :=
  match r.query with
  | .put key _ =>
    let (f, stored) := f.put r.node key r.frame
    let (c, status) := c.finishPut r.node stored
    (c, f, status)
  | .get key =>
    let (c, status) := c.finishGet r.node (f.get r.node key)
    (c, f, status)
  | .holds key =>
    let (c, status) := c.finishExists r.node (f.holds r.node key)
    (c, f, status)

/-- A query is refused only when no node owns its key. -/
theorem ask_eq (c : Connector) (q : Query) :
    (c.ask q).2 =
      match c.owner? q.key with
      | none => .error (.unavailable noNodes)
      | some node => .ok ⟨q, node, q.frame c.codec⟩ := by
  cases q with
  | put key data =>
    simp only [ask, beginPut, route, Query.key]
    cases c.owner? key <;> rfl
  | get key =>
    simp only [ask, beginGet, route, Query.key]
    cases c.owner? key <;> rfl
  | holds key =>
    simp only [ask, route, Query.key]
    cases c.owner? key <;> rfl

theorem owner_of_ask {c : Connector} {q : Query} {r : Request} (asked : (c.ask q).2 = .ok r) :
    c.owner? q.key = some r.node ∧ r = ⟨q, r.node, q.frame c.codec⟩ := by
  rw [c.ask_eq q] at asked
  cases owned : c.owner? q.key with
  | none =>
    rw [owned] at asked
    cases asked
  | some node =>
    rw [owned] at asked
    cases asked
    exact ⟨rfl, rfl⟩

theorem unowned_of_ask {c : Connector} {q : Query} {status : Status}
    (refused : (c.ask q).2 = .error status) :
    c.owner? q.key = none ∧ status = .unavailable noNodes := by
  rw [c.ask_eq q] at refused
  cases owned : c.owner? q.key with
  | none =>
    rw [owned] at refused
    cases refused
    exact ⟨rfl, rfl⟩
  | some node =>
    rw [owned] at refused
    cases refused

theorem uncounted_ask (c : Connector) (q : Query) : (c.ask q).1.uncounted = c.uncounted := by
  cases q with
  | put key data => exact c.uncounted_beginPut key data
  | get key => exact c.uncounted_beginGet key
  | holds key => exact c.uncounted_route key

theorem uncounted_answer (c : Connector) (f : Fleet) (r : Request) :
    (c.answer f r).1.uncounted = c.uncounted := by
  unfold answer
  split
  · exact c.uncounted_finishPut r.node _
  · exact c.uncounted_finishGet r.node _
  · exact c.uncounted_finishExists r.node _

theorem codec_of_uncounted {c c' : Connector} (same : c'.uncounted = c.uncounted) :
    c'.codec = c.codec :=
  congrArg (fun c => c.codec) same

theorem codec_refresh (c : Connector) (map : Except TopologyError (List Node)) :
    (c.refresh map).1.codec = c.codec := by
  cases map <;> rfl

/-- How a request ends: its node is cut off, enters the frame, has no room for it, lacks the key, or
answers with what it holds. -/
inductive Answers (c : Connector) (f : Fleet) (r : Request) : Fleet × Status → Prop
  | cutOff (message : String) (gone : r.node.id ∈ f.cutOff) :
    Answers c f r (f, .unavailable message)
  | stored (key : String) (data : Bytes) (message : String) (f' : Fleet)
    (query : r.query = .put key data) (here : r.node.id ∉ f.cutOff)
    (frames : ∀ i k, f'.frame? i k =
      if i = r.node.id ∧ k = key then some r.frame else f.frame? i k) :
    Answers c f r (f', .ok message)
  | full (key : String) (data : Bytes) (message : String) (f' : Fleet)
    (query : r.query = .put key data) (here : r.node.id ∉ f.cutOff)
    (frames : ∀ i k, f'.frame? i k = f.frame? i k) :
    Answers c f r (f', .failure .capacityExhausted message)
  | missed (message : String) (reads : ∀ key data, r.query ≠ .put key data)
    (here : r.node.id ∉ f.cutOff) (absent : f.frame? r.node.id r.query.key = none) :
    Answers c f r (f, .notFound message)
  | present (key : String) (frame : Bytes) (message : String) (query : r.query = .holds key)
    (here : r.node.id ∉ f.cutOff) (held : f.frame? r.node.id key = some frame) :
    Answers c f r (f, .ok message)
  | loaded (key : String) (frame data : Bytes) (message : String) (query : r.query = .get key)
    (here : r.node.id ∉ f.cutOff) (held : f.frame? r.node.id key = some frame)
    (decoded : c.codec.decode frame = .ok data) :
    Answers c f r (f, .okWithPayload message data)
  | corrupt (key : String) (frame : Bytes) (e : CodecError) (message : String)
    (query : r.query = .get key) (here : r.node.id ∉ f.cutOff)
    (held : f.frame? r.node.id key = some frame) (undecoded : c.codec.decode frame = .error e) :
    Answers c f r (f, .failure .transferFailed message)

theorem answer_answers (c : Connector) (f : Fleet) (r : Request) :
    c.Answers f r (c.answer f r).2 := by
  obtain ⟨query, node, frame⟩ := r
  rcases f.reach_cases node with ⟨gone, unreached⟩ | ⟨here, reached⟩
  · cases query with
    | put key data =>
      simp only [answer, Fleet.put_of_unreached unreached]
      exact .cutOff _ gone
    | get key =>
      simp only [answer, Fleet.get_eq, unreached]
      exact .cutOff _ gone
    | holds key =>
      simp only [answer, Fleet.holds_eq, unreached]
      exact .cutOff _ gone
  · cases query with
    | put key data =>
      rcases Fleet.put_cases reached key frame with stored | refused
      · simp only [answer, stored]
        exact .stored key data _ _ rfl here (Fleet.frame?_put stored)
      · simp only [answer, refused]
        exact .full key data _ _ rfl here (Fleet.frame?_put_of_error refused)
    | get key =>
      simp only [answer, Fleet.get_eq, reached]
      cases held : f.frame? node.id key with
      | none => exact .missed _ (fun _ _ put => by cases put) here held
      | some stored =>
        simp only [Except.map, finishGet]
        cases decoded : c.codec.decode stored with
        | ok data => exact .loaded key stored data _ rfl here held decoded
        | error e => exact .corrupt key stored e _ rfl here held decoded
    | holds key =>
      simp only [answer, Fleet.holds_eq, reached]
      cases held : f.frame? node.id key with
      | none => exact .missed _ (fun _ _ put => by cases put) here held
      | some stored => exact .present key stored _ rfl here held

end Connector

end BlockTier.L2
