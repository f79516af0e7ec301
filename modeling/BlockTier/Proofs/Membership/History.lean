import BlockTier.Proofs.Membership.Records
/-!
What the records of the controller say about its history. A node is in the cluster map as long as no
sweep has brought a reading of the clock past the timeout since the node's last sign of life. The
log of a run begins with its latest event, so the first entry of a kind is the latest one.
-/
namespace BlockTier.Controller

inductive Event
  | registered (now : Nat) (node : Node)
  | heard (now : Nat) (id : String) (timestamp : Nat) (answer : Except TopologyError HeartbeatAck)
  /-- The reading of the clock may be older than the events before the sweep. -/
  | swept (reading : Nat)

namespace Event

def registers (id : String) : Event → Bool
  | registered _ node => node.id = id
  | _ => false

/-- Whether the event is a heartbeat of the node that was accepted. -/
def accepts (id : String) : Event → Bool
  | heard _ i _ (.ok (.accepted _)) => i = id
  | _ => false

/-- Whether the event is a sign of life of the node. -/
def revives (id : String) (e : Event) : Bool := e.registers id || e.accepts id

def time : Event → Nat
  | registered now _ | heard now _ _ _ | swept now => now

def timestamp : Event → Nat
  | heard _ _ timestamp _ => timestamp
  | _ => 0

end Event

inductive Step : Controller → Event → Controller → Prop
  | register (c : Controller) (now : Nat) (node : Node) :
    Step c (.registered now node) (c.register now node).1
  | heartbeat (c : Controller) (now : Nat) (id : String) (timestamp : Nat) :
    Step c (.heard now id timestamp (c.heartbeat now id timestamp).2)
      (c.heartbeat now id timestamp).1
  | sweep (c : Controller) (reading : Nat) : Step c (.swept reading) (c.sweep reading).1

/-- A controller with the log of its run. Nothing is assumed of the times. -/
inductive Run (timeout : Nat) : Controller → List Event → Prop
  | new : Run timeout { timeout } []
  | step {c c' : Controller} {log : List Event} {e : Event} (before : Run timeout c log)
    (step : Step c e c') : Run timeout c' (e :: log)

/-- The last heartbeat of the node that was accepted since its latest registration. -/
def lastAccepted? (log : List Event) (id : String) : Option Event :=
  (log.takeWhile (fun e => !e.registers id)).find? (·.accepts id)

/-- No sweep since the node's last sign of life had a reading past `limit`. -/
def Unswept (log : List Event) (id : String) (limit : Nat) : Prop :=
  ∀ reading, .swept reading ∈ log.takeWhile (fun e => !e.revives id) → reading ≤ limit

/-- The record of a node says what the log says. -/
structure Recorded (timeout : Nat) (log : List Event) (id : String) (m : Member) : Prop where
  registered : ∃ now node, log.find? (·.registers id) = some (.registered now node) ∧
    m.node = { node with health := m.node.health }
  accepted : m.lastTimestamp = ((lastAccepted? log id).map Event.timestamp).getD 0
  revived : (log.find? (·.revives id)).map Event.time = some m.lastSeen
  up : m.node.isUp = true ↔ Unswept log id (m.lastSeen + timeout)

variable {timeout : Nat} {log : List Event} {id : String} {m : Member} {e : Event}

theorem Event.not_registers (dead : e.revives id = false) : e.registers id = false := by
  rw [revives, Bool.or_eq_false_iff] at dead
  exact dead.1

theorem Event.not_accepts (dead : e.revives id = false) : e.accepts id = false := by
  rw [revives, Bool.or_eq_false_iff] at dead
  exact dead.2

theorem Event.not_registers_of_accepts (accepts : e.accepts id = true) :
    e.registers id = false := by
  cases e with
  | registered | swept => cases accepts
  | heard => rfl

theorem lastAccepted?_cons (dead : e.revives id = false) :
    lastAccepted? (e :: log) id = lastAccepted? log id := by
  simp only [lastAccepted?, List.takeWhile_cons, List.find?_cons, e.not_registers dead,
    e.not_accepts dead, Bool.not_false, ↓reduceIte]

theorem unswept_cons (dead : e.revives id = false) {limit : Nat} :
    Unswept (e :: log) id limit ↔
      (∀ reading, e = .swept reading → reading ≤ limit) ∧ Unswept log id limit := by
  simp only [Unswept, List.takeWhile_cons, dead, Bool.not_false, ↓reduceIte, List.mem_cons]
  constructor
  · intro below
    exact ⟨fun reading same => below reading (Or.inl same.symm),
      fun reading member => below reading (Or.inr member)⟩
  · rintro ⟨first, rest⟩ reading (same | member)
    · exact first reading same.symm
    · exact rest reading member

theorem unswept_of_revives (alive : e.revives id = true) (limit : Nat) :
    Unswept (e :: log) id limit := by
  intro reading member
  simp only [List.takeWhile_cons, alive, Bool.not_true, Bool.false_eq_true, ↓reduceIte] at member
  cases member

/-! ### One event -/

theorem recorded_register (now : Nat) (node : Node) :
    Recorded timeout (.registered now node :: log) node.id
      ⟨{ node with health := .up }, now, 0⟩ := by
  have registers : Event.registers node.id (.registered now node) = true := by
    simp [Event.registers]
  have revives : Event.revives node.id (.registered now node) = true := by
    rw [Event.revives, registers, Bool.true_or]
  refine ⟨⟨now, node, by rw [List.find?_cons_of_pos registers], rfl⟩, ?_, ?_, ?_⟩
  · simp only [lastAccepted?, List.takeWhile_cons, registers, Bool.not_true, Bool.false_eq_true,
      ↓reduceIte]
    rfl
  · rw [List.find?_cons_of_pos revives]
    rfl
  · exact ⟨fun _ => unswept_of_revives revives _, fun _ => rfl⟩

theorem Recorded.accept (h : Recorded timeout log id m) (accepts : e.accepts id = true) :
    Recorded timeout (e :: log) id ⟨{ m.node with health := .up }, e.time, e.timestamp⟩ := by
  have registers := e.not_registers_of_accepts accepts
  have revives : e.revives id = true := by rw [Event.revives, accepts, Bool.or_true]
  obtain ⟨seen, node, latest, same⟩ := h.registered
  refine ⟨⟨seen, node, ?_, ?_⟩, ?_, ?_, ?_⟩
  · rw [List.find?_cons_of_neg (by simp [registers]), latest]
  · rw [same]
  · simp only [lastAccepted?, List.takeWhile_cons, registers, Bool.not_false, ↓reduceIte]
    rw [List.find?_cons_of_pos accepts]
    rfl
  · rw [List.find?_cons_of_pos revives]
    rfl
  · exact ⟨fun _ => unswept_of_revives revives _, fun _ => rfl⟩

/-- An event that is no sign of life leaves the record as it is, its health perhaps apart. -/
theorem Recorded.skip (h : Recorded timeout log id m) (dead : e.revives id = false)
    {health : Health} (up : health = .up ↔ m.node.isUp = true ∧
      ∀ reading, e = .swept reading → reading ≤ m.lastSeen + timeout) :
    Recorded timeout (e :: log) id { m with node := { m.node with health } } := by
  obtain ⟨seen, node, latest, same⟩ := h.registered
  refine ⟨⟨seen, node, ?_, ?_⟩, ?_, ?_, ?_⟩
  · rw [List.find?_cons_of_neg (by simp [e.not_registers dead]), latest]
  · rw [same]
  · rw [lastAccepted?_cons dead]
    exact h.accepted
  · rw [List.find?_cons_of_neg (by simp [dead])]
    exact h.revived
  · rw [unswept_cons dead, ← h.up, and_comm, ← up, Node.isUp, decide_eq_true_eq]

/-! ### Runs -/

/-- The controller has a record of every node of the log, and of no other. -/
structure Accounts (timeout : Nat) (log : List Event) (c : Controller) : Prop where
  orderly : c.Orderly
  timeout_eq : c.timeout = timeout
  recorded : ∀ id m, c.member? id = some m → Recorded timeout log id m
  unknown : ∀ id, c.member? id = none → ∀ e ∈ log, e.revives id = false

variable {c c' : Controller}

theorem accounts_empty (timeout : Nat) : Accounts timeout [] { timeout } :=
  ⟨orderly_empty timeout, rfl, nofun, fun _ _ => nofun⟩

/-- A record that no operation has touched. -/
theorem Accounts.keep (h : Accounts timeout log c) (dead : e.revives id = false)
    (unswept : ∀ reading, e ≠ .swept reading) (found : c.member? id = some m) :
    Recorded timeout (e :: log) id m := by
  have up : m.node.health = .up ↔ m.node.isUp = true ∧
      ∀ reading, e = .swept reading → reading ≤ m.lastSeen + timeout := by
    rw [Node.isUp, decide_eq_true_eq]
    exact ⟨fun up => ⟨up, fun reading same => absurd same (unswept reading)⟩, And.left⟩
  exact (h.recorded id m found).skip dead up

theorem Accounts.register (h : Accounts timeout log c) (now : Nat) (node : Node) :
    Accounts timeout (.registered now node :: log) (c.register now node).1 := by
  have dead (id : String) (other : id ≠ node.id) :
      Event.revives id (.registered now node) = false := by
    simp [Event.revives, Event.registers, Event.accepts, other.symm]
  refine ⟨h.orderly.register now node, h.timeout_eq, fun id m found => ?_, fun id absent => ?_⟩
  · rw [member?_register] at found
    split at found
    · rename_i here
      cases found
      subst here
      exact recorded_register now node
    · rename_i other
      exact h.keep (dead id other) nofun found
  · rw [member?_register] at absent
    split at absent
    · cases absent
    · rename_i other
      intro e member
      rcases List.mem_cons.mp member with rfl | member
      · exact dead id other
      · exact h.unknown id absent e member

/-- A heartbeat that is not accepted leaves no trace but in the log. -/
theorem Accounts.ignore (h : Accounts timeout log c) (dead : ∀ id, e.revives id = false)
    (unswept : ∀ reading, e ≠ .swept reading) : Accounts timeout (e :: log) c := by
  refine ⟨h.orderly, h.timeout_eq, fun id m found => h.keep (dead id) unswept found,
    fun id absent x member => ?_⟩
  rcases List.mem_cons.mp member with rfl | member
  · exact dead id
  · exact h.unknown id absent x member

theorem Accounts.heartbeat (h : Accounts timeout log c) (now : Nat) (id : String)
    (timestamp : Nat) :
    Accounts timeout (.heard now id timestamp (c.heartbeat now id timestamp).2 :: log)
      (c.heartbeat now id timestamp).1 := by
  have heard := heartbeat_heard c now id timestamp
  have orderly := heard.orderly h.orderly
  have unswept (answer : Except TopologyError HeartbeatAck) (reading : Nat) :
      Event.heard now id timestamp answer ≠ .swept reading := by
    intro same
    cases same
  generalize c.heartbeat now id timestamp = r at heard orderly ⊢
  cases heard with
  | unknown | stale => exact h.ignore (fun _ => rfl) (unswept _)
  | alive m found newer =>
    have dead (i : String) (other : i ≠ id) :
        Event.revives i (.heard now id timestamp (.ok (.accepted !m.node.isUp))) = false := by
      simp [Event.revives, Event.registers, Event.accepts, other.symm]
    refine ⟨orderly, h.timeout_eq, fun i m' found' => ?_, fun i absent => ?_⟩
    · rw [member?, Table.find?_insert] at found'
      split at found'
      · rename_i here
        cases found'
        subst here
        exact (h.recorded i m found).accept
          (e := .heard now i timestamp (.ok (.accepted !m.node.isUp)))
          (by simp [Event.accepts])
      · rename_i other
        exact h.keep (dead i other) (unswept _) found'
    · rw [member?, Table.find?_insert] at absent
      split at absent
      · cases absent
      · rename_i other
        intro e member
        rcases List.mem_cons.mp member with rfl | member
        · exact dead i other
        · exact h.unknown i absent e member

theorem sweptMember_eq (c : Controller) (reading : Nat) (m : Member) :
    ∃ health, c.sweptMember reading m = { m with node := { m.node with health } } ∧
      (health = .up ↔ m.node.isUp = true ∧ reading ≤ m.lastSeen + c.timeout) := by
  unfold sweptMember
  split
  · rename_i overdue
    rw [isOverdue, Bool.and_eq_true, decide_eq_true_eq] at overdue
    refine ⟨.down, rfl, nofun, fun ⟨_, below⟩ => ?_⟩
    omega
  · rename_i timely
    rw [isOverdue, Bool.and_eq_true, decide_eq_true_eq] at timely
    refine ⟨m.node.health, rfl, ?_⟩
    rw [Node.isUp, decide_eq_true_eq] at timely ⊢
    exact ⟨fun up => ⟨up, Nat.le_of_not_lt (fun late => timely ⟨up, late⟩)⟩, And.left⟩

theorem Accounts.sweep (h : Accounts timeout log c) (reading : Nat) :
    Accounts timeout (.swept reading :: log) (c.sweep reading).1 := by
  refine ⟨h.orderly.sweep reading, h.timeout_eq, fun id m found => ?_, fun id absent => ?_⟩
  · rw [member?_sweep] at found
    obtain ⟨before, there, rfl⟩ := Option.map_eq_some_iff.mp found
    obtain ⟨health, same, up⟩ := c.sweptMember_eq reading before
    rw [same]
    refine (h.recorded id before there).skip rfl ?_
    rw [up, h.timeout_eq]
    refine and_congr_right fun _ => ⟨fun below r same => ?_, fun below => below reading rfl⟩
    cases same
    exact below
  · rw [member?_sweep, Option.map_eq_none_iff] at absent
    intro e member
    rcases List.mem_cons.mp member with rfl | member
    · rfl
    · exact h.unknown id absent e member

theorem Step.accounts (step : Step c e c') (h : Accounts timeout log c) :
    Accounts timeout (e :: log) c' := by
  cases step with
  | register now node => exact h.register now node
  | heartbeat now id timestamp => exact h.heartbeat now id timestamp
  | sweep reading => exact h.sweep reading

theorem Run.accounts (run : Run timeout c log) : Accounts timeout log c := by
  induction run with
  | new => exact accounts_empty timeout
  | step _ step ih => exact step.accounts ih

theorem Accounts.known_iff (h : Accounts timeout log c) :
    (∃ m, c.member? id = some m) ↔ ∃ e ∈ log, e.registers id = true := by
  constructor
  · rintro ⟨m, found⟩
    obtain ⟨now, node, latest, _⟩ := (h.recorded id m found).registered
    exact ⟨_, List.mem_of_find?_eq_some latest, List.find?_some latest⟩
  · rintro ⟨e, member, registers⟩
    cases found : c.member? id with
    | some m => exact ⟨m, rfl⟩
    | none =>
      have dead := e.not_registers (h.unknown id found e member)
      rw [registers] at dead
      cases dead

theorem Accounts.address (h : Accounts timeout log c) {n : Node}
    (found : c.member? n.id = some m) (same : m.node = n) :
    ∃ now node, log.find? (·.registers n.id) = some (.registered now node) ∧
      n.host = node.host ∧ n.port = node.port := by
  obtain ⟨now, node, latest, registered⟩ := (h.recorded n.id m found).registered
  rw [same] at registered
  exact ⟨now, node, latest, by rw [registered], by rw [registered]⟩

end BlockTier.Controller
