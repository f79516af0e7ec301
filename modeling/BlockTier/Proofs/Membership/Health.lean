import BlockTier.Proofs.Membership.History
/-!
Health is history. Whom the controller lists and whose heartbeats it accepts is told by the log of
its run alone.
-/
namespace BlockTier.Controller

/-- The node is known and down. -/
def IsDown (c : Controller) (id : String) : Prop :=
  ∃ m, c.member? id = some m ∧ m.node.health = .down

/-- Whether the controller accepts a heartbeat. -/
def Accepts (c : Controller) (now : Nat) (id : String) (timestamp : Nat) (readmitted : Bool) :
    Prop :=
  (c.heartbeat now id timestamp).2 = .ok (.accepted readmitted)

/-- What the controller shows and how it takes the next heartbeat, in terms of its log. -/
structure Reflects (c : Controller) (timeout : Nat) (log : List Event) : Prop where
  mapped : ∀ id, id ∈ c.clusterMap.map Node.id ↔ (∃ e ∈ log, e.registers id = true) ∧
    ∃ e, log.find? (·.revives id) = some e ∧
      ∀ reading, .swept reading ∈ log.takeWhile (fun e => !e.revives id) →
        ¬ e.time + timeout < reading
  accepts : ∀ now id timestamp, (∃ readmitted, c.Accepts now id timestamp readmitted) ↔
    (∃ e ∈ log, e.registers id = true) ∧
      (c.IsDown id ∨ ∀ e, lastAccepted? log id = some e → e.timestamp ≤ timestamp)
  readmits : ∀ now id timestamp readmitted, c.Accepts now id timestamp readmitted →
    (readmitted = true ↔ c.IsDown id)
  ignores : ∀ now id timestamp, (¬ ∃ readmitted, c.Accepts now id timestamp readmitted) →
    (c.heartbeat now id timestamp).1 = c
  listed : ∀ now id, id ∈ (c.statuses now).map (·.1.id) ↔ ∃ e ∈ log, e.registers id = true
  map_increasing : (c.clusterMap.map Node.id).Pairwise (· < ·)
  statuses_increasing : ∀ now, ((c.statuses now).map (·.1.id)).Pairwise (· < ·)
  map_address : ∀ n ∈ c.clusterMap, ∃ now node,
    log.find? (·.registers n.id) = some (.registered now node) ∧
      n.host = node.host ∧ n.port = node.port
  statuses_address : ∀ now, ∀ s ∈ c.statuses now, ∃ seen node,
    log.find? (·.registers s.1.id) = some (.registered seen node) ∧
      s.1.host = node.host ∧ s.1.port = node.port

variable {c : Controller} {timeout : Nat} {log : List Event} {id : String} {m : Member}

theorem isDown_iff (found : c.member? id = some m) : c.IsDown id ↔ m.node.isUp = false := by
  have health : m.node.health = .down ↔ m.node.isUp = false := by
    unfold Node.isUp
    cases m.node.health <;> simp
  rw [← health]
  constructor
  · rintro ⟨m', found', down⟩
    rw [found] at found'
    cases found'
    exact down
  · exact fun down => ⟨m, found, down⟩

theorem Accounts.mapped (h : Accounts timeout log c) : id ∈ c.clusterMap.map Node.id ↔
    (∃ e ∈ log, e.registers id = true) ∧ ∃ e, log.find? (·.revives id) = some e ∧
      Unswept log id (e.time + timeout) := by
  rw [h.orderly.mem_ids_clusterMap_iff, ← h.known_iff]
  constructor
  · rintro ⟨m, found, up⟩
    have recorded := h.recorded id m found
    obtain ⟨e, latest, time⟩ := Option.map_eq_some_iff.mp recorded.revived
    exact ⟨⟨m, found⟩, e, latest, time.symm ▸ recorded.up.mp up⟩
  · rintro ⟨⟨m, found⟩, e, latest, unswept⟩
    have recorded := h.recorded id m found
    have time := recorded.revived
    rw [latest, Option.map_some, Option.some.injEq] at time
    exact ⟨m, found, recorded.up.mpr (time ▸ unswept)⟩

theorem Recorded.accepted_le_iff (h : Recorded timeout log id m) {timestamp : Nat} :
    m.lastTimestamp ≤ timestamp ↔ ∀ e, lastAccepted? log id = some e → e.timestamp ≤ timestamp := by
  rw [h.accepted]
  cases lastAccepted? log id <;> simp

theorem Accounts.accepts (h : Accounts timeout log c) (now : Nat) (id : String) (timestamp : Nat) :
    (∃ readmitted, c.Accepts now id timestamp readmitted) ↔
      (∃ e ∈ log, e.registers id = true) ∧
        (c.IsDown id ∨ ∀ e, lastAccepted? log id = some e → e.timestamp ≤ timestamp) := by
  have heard := heartbeat_heard c now id timestamp
  rw [← h.known_iff]
  unfold Accepts
  generalize c.heartbeat now id timestamp = r at heard
  cases heard with
  | unknown absent =>
    rw [absent]
    exact ⟨nofun, nofun⟩
  | stale m found up older =>
    refine ⟨nofun, fun ⟨_, timely⟩ => ?_⟩
    rw [isDown_iff found, up, ← (h.recorded id m found).accepted_le_iff] at timely
    rcases timely with down | newer
    · cases down
    · omega
  | alive m found newer =>
    refine ⟨fun _ => ⟨⟨m, found⟩, ?_⟩, fun _ => ⟨_, rfl⟩⟩
    rw [isDown_iff found, ← (h.recorded id m found).accepted_le_iff]
    cases up : m.node.isUp with
    | false => exact Or.inl rfl
    | true => exact Or.inr (newer up)

theorem readmits (c : Controller) {now : Nat} {timestamp : Nat} {readmitted : Bool}
    (accepts : c.Accepts now id timestamp readmitted) : readmitted = true ↔ c.IsDown id := by
  have heard := heartbeat_heard c now id timestamp
  unfold Accepts at accepts
  generalize c.heartbeat now id timestamp = r at heard accepts
  cases heard with
  | unknown | stale => cases accepts
  | alive m found newer =>
    cases accepts
    rw [isDown_iff found, Bool.not_eq_true']

theorem ignores (c : Controller) {now : Nat} {timestamp : Nat}
    (rejects : ¬ ∃ readmitted, c.Accepts now id timestamp readmitted) :
    (c.heartbeat now id timestamp).1 = c := by
  have heard := heartbeat_heard c now id timestamp
  unfold Accepts at rejects
  generalize c.heartbeat now id timestamp = r at heard rejects
  cases heard with
  | unknown | stale => rfl
  | alive m found newer => exact absurd ⟨_, rfl⟩ rejects

/-- After any run the controller is what its log says. -/
theorem reflects_of_run (run : Run timeout c log) : c.Reflects timeout log := by
  have accounts := run.accounts
  refine
    { mapped := fun id => ?_
      accepts := accounts.accepts
      readmits := fun _ _ _ _ => c.readmits
      ignores := fun _ _ _ => c.ignores
      listed := fun now id =>
        (accounts.orderly.mem_ids_statuses_iff now).trans accounts.known_iff
      map_increasing := accounts.orderly.clusterMap_increasing
      statuses_increasing := accounts.orderly.statuses_increasing
      map_address := fun n member => ?_
      statuses_address := fun now s member => ?_ }
  · simp only [accounts.mapped, Unswept, Nat.not_lt]
  · obtain ⟨m, found, same, _⟩ := accounts.orderly.mem_clusterMap_iff.mp member
    exact accounts.address found same
  · have listed : s.1 ∈ c.members.values.map (·.node) := by
      rw [← c.nodes_statuses now]
      exact List.mem_map_of_mem member
    obtain ⟨m, found, same⟩ := accounts.orderly.mem_nodes_iff.mp listed
    exact accounts.address found same

/-- A node that goes silent and comes back with its clock set back, and a sweep that was late. -/
theorem reflects_after_clock_set_back : ∃ c log, Run 10 c log ∧
    log.map Event.time = [11, 12, 12, 1, 0] ∧ log.map Event.timestamp = [0, 900, 0, 1000, 0] ∧
    c.clusterMap = [⟨"n", "h", 1, .up⟩] ∧ c.Reflects 10 log := by
  let node : Node := ⟨"n", "h", 1, .down⟩
  have silent : Run 10 _ _ :=
    ((Run.new.step (.register _ 0 node)).step (.heartbeat _ 1 "n" 1000)).step (.sweep _ 12)
  have back := (silent.step (.heartbeat _ 12 "n" 900)).step (.sweep _ 11)
  exact ⟨_, _, back, rfl, rfl, rfl, reflects_of_run back⟩

end BlockTier.Controller
