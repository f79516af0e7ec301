import BlockTier.Proofs.Sidecar.LoneReceive
/-!
A block on its way to the fleet, with no other call beside it.
-/
namespace BlockTier.Sidecar.Deployment

variable {d d' : Deployment} {key : String} {block : BlockRef} {data : Bytes} {s : Status}

/-- The core of a deployment without its clock and its lock. -/
def atRest (d : Deployment) : Deployment := { d.core with now := 0, lock := {} }

/-- Nothing has changed but the fleet, the clock, the lock and the counts. -/
def Steady (d d' : Deployment) : Prop := ∃ fleet, d'.atRest = atRest { d with fleet }

theorem Steady.of_core (same : d'.core = d.core) : d.Steady d' :=
  ⟨d.fleet, congrArg (fun d => { d with now := 0, lock := {} }) same⟩

theorem Steady.trans {d'' : Deployment} (first : d.Steady d') (second : d'.Steady d'') :
    d.Steady d'' := by
  obtain ⟨_, first⟩ := first
  obtain ⟨fleet, second⟩ := second
  exact ⟨fleet, second.trans (congrArg (fun d => { d with fleet }) first)⟩

theorem Steady.cache (steady : d.Steady d') : d'.tier.cache = d.tier.cache := by
  obtain ⟨_, same⟩ := steady
  exact congrArg (fun d => d.tier.cache) same

theorem Steady.devices (steady : d.Steady d') : d'.tier.copier.devices = d.tier.copier.devices := by
  obtain ⟨_, same⟩ := steady
  exact congrArg (fun d => d.tier.copier.devices) same

theorem Steady.pool (steady : d.Steady d') : d'.tier.copier.pool = d.tier.copier.pool := by
  obtain ⟨_, same⟩ := steady
  exact congrArg (fun d => d.tier.copier.pool) same

theorem Steady.defaultTimeout (steady : d.Steady d') : d'.defaultTimeout = d.defaultTimeout := by
  obtain ⟨_, same⟩ := steady
  exact congrArg (fun d => d.defaultTimeout) same

/-- What the fleet has made of a block, before the call is told. -/
structure Sent (d : Deployment) (key : String) (data : Bytes) (d' : Deployment) (s : Status) :
    Prop where
  steady : d.Steady d'
  brings : d.l2.codec.scheme.Lawful → s.success = true → d'.Brings key data

theorem sent_carry {node : Node} {frame : Bytes} (owner : d.l2.owner? key = some node)
    (encoded : d.l2.codec.encode data = frame) (use : SendUse) (due : Nat) :
    ∃ d' s, d.carry (.sending node key frame use due) = conclude (d'.afterSend use s) ∧
      d.Sent key data d' s := by
  have counted := d.l2.uncounted_finishPut node (d.fleet.put node key frame).2
  rw [carry_eq]
  refine ⟨{ d.wake (.sending node key frame use due) with
      fleet := (d.fleet.put node key frame).1
      l2 := (d.l2.finishPut node (d.fleet.put node key frame).2).1 },
    (d.l2.finishPut node (d.fleet.put node key frame).2).2, rfl, ?_, fun lawful success => ?_⟩
  · have steady := Steady.of_core
      (core_withL2 (d := { d with fleet := (d.fleet.put node key frame).1 }) counted)
    obtain ⟨fleet, same⟩ := steady
    exact ⟨fleet, same⟩
  · have stored : (d.fleet.put node key frame).2 = .ok () := by
      cases result : (d.fleet.put node key frame).2 with
      | ok => rfl
      | error e =>
        have failure := (code_transportFailure d.l2 e).1
        rw [result, L2.Connector.finishPut, failure] at success
        cases success
    refine ⟨node, frame, ?_, L2.Fleet.get_put stored, ?_⟩
    · rw [← owner]
      exact congrArg (fun l2 => l2.owner? key) counted
    · rw [← d.l2.codec.decode_encode lawful data, encoded]
      exact congrArg (fun l2 => l2.codec.decode frame) counted

theorem sent_sendFor (d : Deployment) (key : String) (data : Bytes) (use : SendUse) :
    ∃ d' s, conclude (d.sendFor key data use) = conclude (d'.afterSend use s) ∧
      d.Sent key data d' s := by
  unfold sendFor
  cases owner : d.l2.owner? key with
  | none =>
    simp only [L2.Connector.beginPut, L2.Connector.route, owner]
    exact ⟨_, _, rfl, ⟨d.fleet, rfl⟩, fun _ success => by cases success⟩
  | some node =>
    simp only [L2.Connector.beginPut, L2.Connector.route, owner, conclude, arrive]
    obtain ⟨d', s, carried, sent⟩ := sent_carry (d := { d with
      l2.counters.puts := d.l2.counters.puts + 1 }) owner rfl use d.fleetDue
    exact ⟨d', s, carried, sent.steady, sent.brings⟩

end BlockTier.Sidecar.Deployment
