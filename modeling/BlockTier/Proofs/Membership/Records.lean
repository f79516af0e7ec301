import BlockTier.Controller
import BlockTier.Proofs.SortedTable
/-!
The records of the controller: one a node, under its id and in order of id. A registration or an
accepted heartbeat renews one record, a sweep changes the health of those that it finds silent.
-/
namespace BlockTier.Controller

variable {c : Controller} {id : String} {m : Member} {node : Node}

/-- The record of a node. -/
def member? (c : Controller) (id : String) : Option Member := c.members.find? id

/-- The records are in order of id, each under the id of its node. -/
structure Orderly (c : Controller) : Prop where
  sorted : c.members.Sorted
  keyed : ∀ e ∈ c.members, e.2.node.id = e.1

theorem orderly_empty (timeout : Nat) : Orderly { timeout } := ⟨List.Pairwise.nil, nofun⟩

theorem Orderly.member?_eq_some_iff (h : c.Orderly) : c.member? id = some m ↔ (id, m) ∈ c.members :=
  h.sorted.find?_eq_some_iff

theorem Orderly.id_of_member? (h : c.Orderly) (found : c.member? id = some m) : m.node.id = id :=
  h.keyed _ (h.member?_eq_some_iff.mp found)

theorem Orderly.insert (h : c.Orderly) (same : m.node.id = id) :
    Orderly { c with members := c.members.insert id m } := by
  refine ⟨h.sorted.insert id m, fun e member => ?_⟩
  rcases Table.mem_insert member with rfl | member
  · exact same
  · exact h.keyed e member

/-! ### Operations -/

theorem member?_register (c : Controller) (now : Nat) (node : Node) (id : String) :
    (c.register now node).1.member? id =
      if id = node.id then some ⟨{ node with health := .up }, now, 0⟩ else c.member? id :=
  Table.find?_insert ..

theorem Orderly.register (h : c.Orderly) (now : Nat) (node : Node) :
    (c.register now node).1.Orderly :=
  h.insert rfl

/-- How a heartbeat ends: its node is unknown, or up and told something newer before, or it is
alive. -/
inductive Heard (c : Controller) (now : Nat) (id : String) (timestamp : Nat) :
    Controller × Except TopologyError HeartbeatAck → Prop
  | unknown (absent : c.member? id = none) : Heard c now id timestamp (c, .error (.unknownNode id))
  | stale (m : Member) (found : c.member? id = some m) (up : m.node.isUp = true)
    (older : timestamp < m.lastTimestamp) : Heard c now id timestamp (c, .ok .stale)
  | alive (m : Member) (found : c.member? id = some m)
    (newer : m.node.isUp = true → m.lastTimestamp ≤ timestamp) :
    Heard c now id timestamp
      ({ c with members := c.members.insert id ⟨{ m.node with health := .up }, now, timestamp⟩ },
        .ok (.accepted !m.node.isUp))

theorem heartbeat_heard (c : Controller) (now : Nat) (id : String) (timestamp : Nat) :
    c.Heard now id timestamp (c.heartbeat now id timestamp) := by
  unfold heartbeat
  cases found : c.members.find? id with
  | none => exact .unknown found
  | some m =>
    dsimp only
    split
    · rename_i late
      rw [Bool.and_eq_true, decide_eq_true_eq] at late
      exact .stale m found late.1 late.2
    · rename_i timely
      rw [Bool.and_eq_true, decide_eq_true_eq] at timely
      exact .alive m found (fun up => Nat.le_of_not_lt (fun older => timely ⟨up, older⟩))

theorem Heard.orderly {now timestamp : Nat} {r : Controller × Except TopologyError HeartbeatAck}
    (heard : c.Heard now id timestamp r) (h : c.Orderly) : r.1.Orderly := by
  cases heard with
  | unknown | stale => exact h
  | alive m found newer =>
    have same := h.id_of_member? found
    exact h.insert same

/-- A record after a sweep. -/
def sweptMember (c : Controller) (reading : Nat) (m : Member) : Member :=
  if c.isOverdue reading m then m.takeDown else m

theorem members_sweep (c : Controller) (reading : Nat) :
    (c.sweep reading).1.members = c.members.map (fun e => (e.1, c.sweptMember reading e.2)) := by
  apply List.map_congr_left
  intro e _
  unfold sweptMember
  split <;> rfl

theorem member?_sweep (c : Controller) (reading : Nat) (id : String) :
    (c.sweep reading).1.member? id = (c.member? id).map (c.sweptMember reading) := by
  rw [member?, members_sweep, Table.find?_map, member?]

theorem id_sweptMember (c : Controller) (reading : Nat) (m : Member) :
    (c.sweptMember reading m).node.id = m.node.id := by
  unfold sweptMember
  split <;> rfl

theorem Orderly.sweep (h : c.Orderly) (reading : Nat) : (c.sweep reading).1.Orderly := by
  refine ⟨?_, ?_⟩
  · rw [members_sweep]
    exact h.sorted.map _
  · rw [members_sweep]
    intro e member
    obtain ⟨before, entry, rfl⟩ := List.mem_map.mp member
    exact (c.id_sweptMember reading before.2).trans (h.keyed before entry)

/-! ### Listings -/

theorem Orderly.mem_nodes_iff (h : c.Orderly) :
    node ∈ c.members.values.map (·.node) ↔ ∃ m, c.member? node.id = some m ∧ m.node = node := by
  simp only [Table.values, List.mem_map]
  constructor
  · rintro ⟨m, ⟨⟨id, m⟩, entry, rfl⟩, rfl⟩
    refine ⟨m, ?_, rfl⟩
    have same : m.node.id = id := h.keyed _ entry
    rw [same]
    exact h.member?_eq_some_iff.mpr entry
  · rintro ⟨m, found, rfl⟩
    exact ⟨m, ⟨_, h.member?_eq_some_iff.mp found, rfl⟩, rfl⟩

theorem Orderly.mem_clusterMap_iff (h : c.Orderly) : node ∈ c.clusterMap ↔
    ∃ m, c.member? node.id = some m ∧ m.node = node ∧ node.isUp = true := by
  rw [clusterMap, List.mem_filter, h.mem_nodes_iff]
  exact ⟨fun ⟨⟨m, found, same⟩, up⟩ => ⟨m, found, same, up⟩,
    fun ⟨m, found, same, up⟩ => ⟨⟨m, found, same⟩, up⟩⟩

theorem nodes_statuses (c : Controller) (now : Nat) :
    (c.statuses now).map Prod.fst = c.members.values.map (·.node) := by
  rw [statuses, List.map_map]
  rfl

theorem Orderly.mem_ids_clusterMap_iff (h : c.Orderly) :
    id ∈ c.clusterMap.map Node.id ↔ ∃ m, c.member? id = some m ∧ m.node.isUp = true := by
  rw [List.mem_map]
  constructor
  · rintro ⟨node, member, rfl⟩
    obtain ⟨m, found, rfl, up⟩ := h.mem_clusterMap_iff.mp member
    exact ⟨m, found, up⟩
  · rintro ⟨m, found, up⟩
    have same := h.id_of_member? found
    exact ⟨m.node, h.mem_clusterMap_iff.mpr ⟨m, same.symm ▸ found, rfl, up⟩, same⟩

theorem Orderly.mem_ids_statuses_iff (h : c.Orderly) (now : Nat) :
    id ∈ (c.statuses now).map (·.1.id) ↔ ∃ m, c.member? id = some m := by
  have ids : (c.statuses now).map (·.1.id) = (c.members.values.map (·.node)).map Node.id := by
    rw [← c.nodes_statuses now, List.map_map]
    rfl
  rw [ids, List.mem_map]
  constructor
  · rintro ⟨node, member, rfl⟩
    obtain ⟨m, found, _⟩ := h.mem_nodes_iff.mp member
    exact ⟨m, found⟩
  · rintro ⟨m, found⟩
    have same := h.id_of_member? found
    exact ⟨m.node, h.mem_nodes_iff.mpr ⟨m, same.symm ▸ found, rfl⟩, same⟩

theorem Orderly.nodes_increasing (h : c.Orderly) :
    ((c.members.values.map (·.node)).map Node.id).Pairwise (· < ·) := by
  have ids : (c.members.values.map (·.node)).map Node.id = c.members.keys := by
    simp only [Table.values, Table.keys, List.map_map]
    exact List.map_congr_left (fun e member => h.keyed e member)
  rw [ids]
  exact List.pairwise_map.mpr h.sorted

theorem Orderly.clusterMap_increasing (h : c.Orderly) :
    (c.clusterMap.map Node.id).Pairwise (· < ·) :=
  h.nodes_increasing.sublist (List.filter_sublist.map Node.id)

theorem Orderly.statuses_increasing (h : c.Orderly) (now : Nat) :
    ((c.statuses now).map (·.1.id)).Pairwise (· < ·) := by
  have increasing := h.nodes_increasing
  rw [← c.nodes_statuses now, List.map_map] at increasing
  exact increasing

end BlockTier.Controller
