import BlockTier.Proofs.Json.Reading
import BlockTier.Wire.Message
/-!
What is written of a value is read as the value again, also after others have put the members in
another order, added members of their own or left out what goes without saying.
-/
namespace BlockTier

/-- What is kept of a status on its way. -/
def Status.withoutPayload (s : Status) : Status := { s with payload := none }

/-- All numbers of a block are 64-bit words. -/
def BlockRef.InRange (b : BlockRef) : Prop :=
  b.device < 2 ^ 64 ∧ b.address < 2 ^ 64 ∧ b.size < 2 ^ 64

def Node.InRange (n : Node) : Prop := n.port < 2 ^ 16

def ClusterMap.InRange (m : ClusterMap) : Prop := ∀ n ∈ m.nodes, n.InRange

def Heartbeat.InRange (h : Heartbeat) : Prop := h.timestamp < 2 ^ 64

def Registration.InRange (r : Registration) : Prop := r.port < 2 ^ 16

def OffloadRequest.InRange (r : OffloadRequest) : Prop :=
  r.block.InRange ∧ ∀ ms ∈ r.timeout, ms < 2 ^ 64

def FetchRequest.InRange (r : FetchRequest) : Prop :=
  r.dest.InRange ∧ ∀ ms ∈ r.timeout, ms < 2 ^ 64

def SpaceRequest.InRange (r : SpaceRequest) : Prop := r.needed < 2 ^ 64

namespace Wire

open Json Json.Format

/-- The members that may be left out: a node is up, and a request has no time limit. -/
def unsaid : List (String × Json) := [("health", .str Health.up.name), ("timeout_ms", .null)]

/-- From the text of a value, and from every other text that spells it, the value is read. -/
def Survives (α : Type) [Wire α] (inRange : α → Prop) (kept : α → α) : Prop :=
  ∀ v, inRange v → parse (encode v) = .ok (kept v) ∧
    ∀ text, (toJson v).Spells unsaid text → parse text = .ok (kept v)

theorem survives_of_takes {α : Type} [Wire α] {inRange : α → Prop} {kept : α → α}
    (takes : ∀ v, inRange v → Takes unsaid (format α) (toJson v))
    (back : ∀ v : α, ofJson? (toJson v) = some (kept v)) : Survives α inRange kept := by
  intro v fits
  have every (text : Bytes) (spells : (toJson v).Spells unsaid text) :
      parse text = .ok (kept v) := by
    rw [parse, (takes v fits).parse spells]
    dsimp only
    rw [back]
  exact ⟨every _ (spells_bytes unsaid (toJson v)), every⟩

/-! ### The members of records -/

theorem holds_said {key : String} {f : Format} {v : Json} (takes : Takes unsaid f v)
    (said : key ∉ unsaid.map Prod.fst) :
    Field.Holds unsaid { name := key, format := f } (key, v) :=
  ⟨rfl, takes, fun member => absurd (List.mem_map_of_mem member) said⟩

theorem holds_health (h : Health) : Field.Holds unsaid
    { name := "health", format := choice (Health.all.map Health.name),
      ifAbsent := some (.str Health.up.name) } ("health", .str h.name) := by
  refine ⟨rfl, takes_choice (List.mem_map_of_mem (by cases h <;> decide)), fun member => ?_⟩
  cases h with
  | up => rfl
  | down => simp [unsaid, Health.name] at member

theorem holds_timeout {timeout : Option Nat} (inRange : ∀ ms ∈ timeout, ms < 2 ^ 64) :
    Field.Holds unsaid timeoutField ("timeout_ms", timeoutJson timeout) := by
  cases timeout with
  | none => exact ⟨rfl, takes_null, fun _ => rfl⟩
  | some ms =>
    have noNull (ts : List Token) (read : Json × List Token) :
        word 64 (.null :: ts) ≠ .ok read := by
      rintro ⟨⟩
    refine ⟨rfl, takes_some (takes_word (by decide) (inRange ms rfl)) noNull, fun member => ?_⟩
    simp [unsaid, timeoutJson, nat] at member

/-! ### Records -/

theorem takes_blockRef {b : BlockRef} (inRange : b.InRange) :
    Takes unsaid (format BlockRef) (toJson b) := by
  obtain ⟨device, address, size⟩ := inRange
  exact takes_record
    (.cons (holds_said (takes_word (by decide) device) (by decide))
      (.cons (holds_said (takes_word (by decide) address) (by decide))
        (.cons (holds_said (takes_word (by decide) size) (by decide)) .nil)))
    (by decide)

theorem takes_node {n : Node} (inRange : n.InRange) : Takes unsaid (format Node) (toJson n) :=
  takes_record
    (.cons (holds_said (takes_text n.id) (by decide))
      (.cons (holds_said (takes_text n.host) (by decide))
        (.cons (holds_said (takes_word (by decide) inRange) (by decide))
          (.cons (holds_health n.health) .nil))))
    (by decide)

theorem takes_status (s : Status) : Takes unsaid (format Status) (toJson s) :=
  takes_record
    (.cons (holds_said (takes_flag s.success) (by decide))
      (.cons (holds_said (takes_choice (List.mem_map_of_mem (by cases s.code <;> decide)))
          (by decide))
        (.cons (holds_said (takes_text s.message) (by decide)) .nil)))
    (by decide)

theorem takes_clusterMap {m : ClusterMap} (inRange : m.InRange) :
    Takes unsaid (format ClusterMap) (toJson m) := by
  have nodes : Takes unsaid (format (List Node)) (toJson m.nodes) := by
    refine takes_list fun v member => ?_
    obtain ⟨n, inside, rfl⟩ := List.mem_map.mp member
    exact takes_node (inRange n inside)
  exact takes_record (.cons (holds_said nodes (by decide)) .nil) (by decide)

theorem takes_heartbeat {h : Heartbeat} (inRange : h.InRange) :
    Takes unsaid (format Heartbeat) (toJson h) :=
  takes_record
    (.cons (holds_said (takes_text h.nodeId) (by decide))
      (.cons (holds_said (takes_word (by decide) inRange) (by decide)) .nil))
    (by decide)

theorem takes_registration {r : Registration} (inRange : r.InRange) :
    Takes unsaid (format Registration) (toJson r) :=
  takes_record
    (.cons (holds_said (takes_text r.nodeId) (by decide))
      (.cons (holds_said (takes_text r.host) (by decide))
        (.cons (holds_said (takes_word (by decide) inRange) (by decide)) .nil)))
    (by decide)

/-- Offloads and fetches differ in the names for the block only. -/
theorem takes_request {device address size : String}
    (said : ∀ name ∈ [device, address, size], name ∉ unsaid.map Prod.fst)
    (distinct : ["key", device, address, size, "timeout_ms"].Nodup) (key : String) {b : BlockRef}
    (inRange : b.InRange) {timeout : Option Nat} (limit : ∀ ms ∈ timeout, ms < 2 ^ 64) :
    Takes unsaid
      (record [{ name := "key", format := text }, { name := device, format := word 64 },
        { name := address, format := word 64 }, { name := size, format := word 64 }, timeoutField])
      (.obj [("key", .str key), (device, .nat b.device), (address, .nat b.address),
        (size, .nat b.size), ("timeout_ms", timeoutJson timeout)]) := by
  obtain ⟨narrowDevice, narrowAddress, narrowSize⟩ := inRange
  exact takes_record
    (.cons (holds_said (takes_text key) (by decide))
      (.cons (holds_said (takes_word (by decide) narrowDevice) (said device (by simp)))
        (.cons (holds_said (takes_word (by decide) narrowAddress) (said address (by simp)))
          (.cons (holds_said (takes_word (by decide) narrowSize) (said size (by simp)))
            (.cons (holds_timeout limit) .nil)))))
    distinct

theorem takes_queryReply (r : QueryReply) : Takes unsaid (format QueryReply) (toJson r) :=
  takes_record
    (.cons (holds_said (takes_text r.key) (by decide))
      (.cons (holds_said (takes_flag r.available) (by decide)) .nil))
    (by decide)

/-! ### Values of JSON values -/

theorem ofJson?_node (n : Node) : ofJson? (toJson n) = some n := by
  change (Health.ofName? n.health.name).map _ = some n
  rw [Health.ofName?_name]
  rfl

theorem timeoutOf?_timeoutJson (timeout : Option Nat) :
    timeoutOf? (timeoutJson timeout) = some timeout := by
  cases timeout <;> rfl

theorem ofJson?_list {α : Type} [Wire α] (as : List α)
    (each : ∀ a ∈ as, ofJson? (toJson a) = some a) : ofJson? (toJson as) = some as := by
  change (as.map toJson).mapM ofJson? = some as
  induction as with
  | nil => rfl
  | cons a as ih =>
    rw [List.map_cons, List.mapM_cons, each a List.mem_cons_self,
      ih fun b member => each b (List.mem_cons_of_mem a member)]
    rfl

/-- Every value of every type goes over the wire and comes out as it was, a status without its
payload. -/
theorem wire_types_survive :
    Survives Status (fun _ => True) Status.withoutPayload ∧
    Survives String (fun _ => True) id ∧
    Survives BlockRef BlockRef.InRange id ∧
    Survives Node Node.InRange id ∧
    Survives Sidecar.Tiering (fun _ => True) id ∧
    Survives ClusterMap ClusterMap.InRange id ∧
    Survives Heartbeat Heartbeat.InRange id ∧
    Survives HeartbeatReply (fun _ => True) id ∧
    Survives Registration Registration.InRange id ∧
    Survives OffloadRequest OffloadRequest.InRange id ∧
    Survives FetchRequest FetchRequest.InRange id ∧
    Survives Query (fun _ => True) id ∧
    Survives QueryReply (fun _ => True) id ∧
    Survives SpaceRequest SpaceRequest.InRange id := by
  refine ⟨?status, ?key, ?blockRef, ?node, ?tiering, ?clusterMap, ?heartbeat, ?heartbeatReply,
    ?registration, ?offloadRequest, ?fetchRequest, ?query, ?queryReply, ?spaceRequest⟩
  case status =>
    refine survives_of_takes (fun s _ => takes_status s) fun s => ?_
    change (Code.ofName? s.code.name).map _ = _
    rw [Code.ofName?_name]
    rfl
  case key => exact survives_of_takes (fun s _ => takes_text s) fun _ => rfl
  case blockRef => exact survives_of_takes (fun _ => takes_blockRef) fun _ => rfl
  case node => exact survives_of_takes (fun _ => takes_node) ofJson?_node
  case tiering =>
    refine survives_of_takes (fun p _ => ?_) Sidecar.Tiering.ofName?_name
    exact takes_choice (List.mem_map_of_mem (by cases p <;> decide))
  case clusterMap =>
    refine survives_of_takes (fun _ => takes_clusterMap) fun m => ?_
    change (ofJson? (toJson m.nodes)).map _ = _
    rw [ofJson?_list m.nodes fun n _ => ofJson?_node n]
    rfl
  case heartbeat => exact survives_of_takes (fun _ => takes_heartbeat) fun _ => rfl
  case heartbeatReply =>
    refine survives_of_takes (fun r _ => ?_) fun _ => rfl
    exact takes_record (.cons (holds_said (takes_text r.status) (by decide)) .nil) (by decide)
  case registration => exact survives_of_takes (fun _ => takes_registration) fun _ => rfl
  case offloadRequest =>
    refine survives_of_takes (fun r inRange => ?_) fun r => ?_
    · exact takes_request (by decide) (by decide) r.key inRange.1 inRange.2
    change (timeoutOf? (timeoutJson r.timeout)).map _ = _
    rw [timeoutOf?_timeoutJson]
    rfl
  case fetchRequest =>
    refine survives_of_takes (fun r inRange => ?_) fun r => ?_
    · exact takes_request (by decide) (by decide) r.key inRange.1 inRange.2
    change (timeoutOf? (timeoutJson r.timeout)).map _ = _
    rw [timeoutOf?_timeoutJson]
    rfl
  case query =>
    refine survives_of_takes (fun q _ => ?_) fun _ => rfl
    exact takes_record (.cons (holds_said (takes_text q.key) (by decide)) .nil) (by decide)
  case queryReply => exact survives_of_takes (fun r _ => takes_queryReply r) fun _ => rfl
  case spaceRequest =>
    refine survives_of_takes (fun r inRange => ?_) fun _ => rfl
    exact takes_record (.cons (holds_said (takes_word (by decide) inRange) (by decide)) .nil)
      (by decide)

/-- A node that is up, in other words: from the port to the name, without its health and with a
member of someone else. -/
theorem node_survives_in_other_words :
    (⟨"n\n1", "::1", 9000, .up⟩ : Node).InRange ∧
      parse (Bytes.ofString
          "\x7b\"port\":9000,\"tags\":[ ],\"host\":\"::1\",\"node_id\":\"n\\n1\"\x7d") =
        .ok (⟨"n\n1", "::1", 9000, .up⟩ : Node) := by
  have inRange : (⟨"n\n1", "::1", 9000, .up⟩ : Node).InRange := by
    rw [Node.InRange]
    decide
  let said : List Entry :=
    [⟨"port", some (.nat 9000), (nat 9000).bytes⟩, ⟨"tags", none, Bytes.ofString "[ ]"⟩,
      ⟨"host", some (.str "::1"), quote "::1"⟩, ⟨"node_id", some (.str "n\n1"), quote "n\n1"⟩]
  let others : List (String × Json) :=
    [("port", .nat 9000), ("host", .str "::1"), ("node_id", .str "n\n1")]
  let health : List (String × Json) := [("health", .str Health.up.name)]
  have all : (others.reverse ++ health).Perm (said.filterMap Entry.member? ++ health) :=
    (List.reverse_perm others).append_right health
  have omitted : ∀ m ∈ health, m ∈ unsaid := fun m member =>
    List.mem_singleton.mp member ▸ List.mem_cons_self
  have known : ∀ e ∈ said, ∀ v, e.value = some v → Spells unsaid v e.text := by
    intro e member v value
    simp only [said, List.mem_cons, List.not_mem_nil, or_false] at member
    rcases member with rfl | rfl | rfl | rfl <;> cases value <;> exact .flat rfl
  have unknown : ∀ e ∈ said, e.value = none →
      Grammar.Value e.text ∧ e.key ∉ (others.reverse ++ health).map Prod.fst := by
    intro e member foreign
    simp only [said, List.mem_cons, List.not_mem_nil, or_false] at member
    rcases member with rfl | rfl | rfl | rfl <;> cases foreign
    exact ⟨.emptyList (show Grammar.Blank [0x20] by simp [Grammar.Blank]), by
      simp [others, health]⟩
  have spells := Spells.object said all omitted known unknown
  have read := (wire_types_survive.2.2.2.1 _ inRange).2 _ spells
  exact ⟨inRange, read⟩

end Wire

end BlockTier
