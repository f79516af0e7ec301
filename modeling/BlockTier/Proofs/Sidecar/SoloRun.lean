import BlockTier.Proofs.Sidecar.LoneJob
/-!
A call with any deadline and no other call beside it. Between its steps the surroundings may move,
but they leave the pool and the blocks of the fleet alone.
-/
namespace BlockTier.Sidecar

/-- Whether a move leaves the bytes of the pool and the blocks of the fleet alone. -/
def Move.spares : Move → Bool
  | .writePool .. | .store .. | .remove .. => false
  | _ => true

namespace Deployment

/-- What a call has to do with is the same, but for the devices, the ring, the clock and whether
the nodes can be reached. -/
structure Spared (d d' : Deployment) : Prop where
  cache : d'.tier.cache = d.tier.cache
  pool : d'.tier.copier.pool = d.tier.copier.pool
  codec : d'.l2.codec = d.l2.codec
  stores : d'.fleet.stores = d.fleet.stores
  policy : d'.policy = d.policy

theorem spared_move (d : Deployment) {m : Move} (spares : m.spares = true) :
    d.Spared (d.move m) := by
  cases m with
  | writeDevice b data =>
    simp only [move]
    cases written : d.tier.copier.writeDevice b data with
    | ok copier => exact ⟨rfl, Copier.pool_writeDevice written, rfl, rfl, rfl⟩
    | error e => exact ⟨rfl, rfl, rfl, rfl, rfl⟩
  | refresh =>
    refine ⟨rfl, rfl, ?_, rfl, rfl⟩
    simp only [move, refresh]
    cases d.clusterMap <;> rfl
  | writePool | store | remove => cases spares
  | _ => exact ⟨rfl, rfl, rfl, rfl, rfl⟩

theorem spared_arrive (d : Deployment) (id : Nat) (s : Stage) : d.Spared (d.arrive id s) := by
  cases s <;> exact ⟨rfl, rfl, rfl, rfl, rfl⟩

end Deployment

namespace Traffic

/-- A run from a sidecar on which no call waits, with the states that it has come through, latest
first. One call makes it, and it has not been answered. -/
inductive SoloRun (id : Nat) (d : Deployment) : List Deployment → Traffic → Prop
  | idle : SoloRun id d [d] ⟨d, .none⟩
  | goOn {ds : List Deployment} {t t' : Traffic} (run : SoloRun id d ds t)
    (step : Step t (.waits id) t') : SoloRun id d (t'.deployment :: ds) t'
  | beside {ds : List Deployment} {d' : Deployment} {calls : Calls}
    (run : SoloRun id d ds ⟨d', calls⟩) (m : Move) (spares : m.spares = true) :
    SoloRun id d (d'.move m :: ds) ⟨d'.move m, calls⟩

/-- The answer of a call. Its deadline ends a call only when it has to wait. -/
structure SoloEnd (id : Nat) (call : Call) (a : Answer) (t t' : Traffic) : Prop where
  step : Step t (.answers id call a) t'
  prompt : ∀ o, t.calls id = some o → t.deployment.isReady id o.stage = true →
    t.deployment.resume o.stage = (t'.deployment, .done a)

variable {capacity id : Nat} {d : Deployment} {ds : List Deployment} {t t' : Traffic}

theorem SoloRun.mem (run : SoloRun id d ds t) : t.deployment ∈ ds := by
  cases run <;> exact List.mem_cons_self

theorem SoloRun.orderly (orderly : Orderly capacity ⟨d, .none⟩) (run : SoloRun id d ds t) :
    Orderly capacity t := by
  induction run with
  | idle => exact orderly
  | goOn run step ih => exact ih.step step
  | beside run m spares ih => exact ih.move m

theorem SoloRun.calls (run : SoloRun id d ds t) : ∃ o, t.calls = Calls.none.set id o := by
  induction run with
  | idle => exact ⟨none, (Calls.none_set id).symm⟩
  | goOn run step ih =>
    obtain ⟨o, only⟩ := ih
    cases step.comesToWait with
    | begun call d' s fresh begun => exact ⟨_, by rw [only, Calls.set_set]⟩
    | resumed o' d' s waits ready resumed => exact ⟨_, by rw [only, Calls.set_set]⟩
  | beside run m spares ih => exact ih

theorem SoloRun.alone (orderly : Orderly capacity ⟨d, .none⟩) (run : SoloRun id d ds t)
    {o : Ongoing} (waits : t.calls id = some o) :
    Orderly capacity ⟨t.deployment, Calls.none.set id (some o)⟩ := by
  obtain ⟨o', only⟩ := run.calls
  rw [only, Calls.set_self] at waits
  rw [← waits, ← only]
  exact run.orderly orderly

variable {first : Deployment} {c : Call} {limit : Option Limit} {s : Stage}

/-- The call waits, alone since the first state. -/
def SoloWait (first : Deployment) (c : Call) (limit : Option Limit) (d : Deployment) (s : Stage) :
    Prop :=
  ∃ ds, SoloRun 0 first ds ⟨d, Calls.none.set 0 (some ⟨c, limit, s⟩)⟩

/-- A run of the call alone ends so. -/
def SoloAnswer (first : Deployment) (c : Call) (r : Deployment × Answer) : Prop :=
  ∃ ds t, SoloRun 0 first ds t ∧ SoloEnd 0 c r.2 t ⟨r.1, .none⟩

theorem SoloWait.resume (run : SoloWait first c limit d s) (ready : d.isReady 0 s = true) :
    Comes (SoloWait first c limit) (SoloAnswer first c) (d.resume s) := by
  obtain ⟨ds, run⟩ := run
  have step := Step.resume d (Calls.none.set 0 (some ⟨c, limit, s⟩)) 0 ⟨c, limit, s⟩
    (Calls.set_self ..) ready
  cases resumed : d.resume s with
  | mk d' turn =>
    rw [resumed] at step
    cases turn with
    | wait s' =>
      rw [land, Calls.set_set] at step
      exact .waits d' s' ⟨_, run.goOn step⟩
    | done a =>
      rw [land, Calls.set_set, Calls.none_set] at step
      refine .answered d' a ⟨ds, _, run, step, fun o waits _ => ?_⟩
      dsimp only at waits
      rw [Calls.set_self] at waits
      cases waits
      exact resumed

theorem SoloWait.expire {l : Limit} (run : SoloWait first c (some l) d s)
    (unready : d.isReady 0 s = false) (late : l.expires ≤ d.now) :
    SoloAnswer first c (d.expire ⟨0, some l, s⟩ l) := by
  obtain ⟨ds, run⟩ := run
  have step := Step.expire d (Calls.none.set 0 (some ⟨c, some l, s⟩)) 0 ⟨c, some l, s⟩ l
    (Calls.set_self ..) rfl late
  rw [Calls.set_set, Calls.none_set] at step
  refine ⟨ds, _, run, step, fun o waits ready => ?_⟩
  dsimp only at waits ready
  rw [Calls.set_self] at waits
  cases waits
  rw [unready] at ready
  cases ready

end Traffic

end BlockTier.Sidecar
