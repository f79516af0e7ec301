import BlockTier.Sidecar.Flight
/-!
Calls under way on one sidecar, in any order. A step takes one call from one wait to the next or to
its answer, or drops it where it waits; between the calls the surroundings move.
-/
namespace BlockTier.Sidecar

/-- What happens to a sidecar beside its calls. -/
inductive Move
  | pass (ms : Nat)
  | refresh
  | register (node : Node)
  | heartbeat (id : String) (timestamp : Nat)
  | sweep
  | topology (t : Topology)
  | reach (id : String) (up : Bool)
  | writeDevice (b : BlockRef) (data : Bytes)
  | writePool (e : Extent) (data : Bytes)
  | store (node : Node) (key : String) (frame : Bytes)
  | remove (id key : String)
  | close

namespace Deployment

variable (d : Deployment)

/-- The deployment with the copier that a write gives, if it is within bounds. -/
def overwrite (r : Except TransferError Copier) : Deployment :=
  match r with
  | .ok copier => d.withTier { d.tier with copier }
  | .error _ => d

def move : Move → Deployment
  | .pass ms => { d with now := d.now + ms }
  | .refresh => d.refresh.1
  | .register node => (d.register node).1
  | .heartbeat id timestamp => (d.heartbeat id timestamp).1
  | .sweep => d.sweep.1
  | .topology topology => { d with topology }
  | .reach id up => { d with fleet := d.fleet.setReachable id up }
  | .writeDevice b data => d.overwrite (d.tier.copier.writeDevice b data)
  | .writePool e data => d.overwrite (d.tier.copier.writePool e data)
  | .store node key frame => { d with fleet := (d.fleet.put node key frame).1 }
  | .remove id key => { d with fleet := (d.fleet.remove id key).1 }
  | .close => d.close

end Deployment

/-- A call that waits. -/
structure Ongoing where
  call : Call
  limit : Option Limit
  stage : Stage

abbrev Calls := Nat → Option Ongoing

namespace Calls

def none : Calls := fun _ => Option.none

def set (calls : Calls) (id : Nat) (o : Option Ongoing) : Calls :=
  fun i => if i = id then o else calls i

theorem set_self (calls : Calls) (id : Nat) (o : Option Ongoing) : calls.set id o id = o :=
  if_pos rfl

theorem set_ne (calls : Calls) {id i : Nat} (o : Option Ongoing) (other : i ≠ id) :
    calls.set id o i = calls i :=
  if_neg other

theorem set_set (calls : Calls) (id : Nat) (o o' : Option Ongoing) :
    (calls.set id o).set id o' = calls.set id o' := by
  funext i
  simp only [set]
  split <;> rfl

theorem set_eq (calls : Calls) (id : Nat) : calls.set id (calls id) = calls := by
  funext i
  simp only [set]
  split
  · rename_i same
    rw [same]
  · rfl

theorem none_set (id : Nat) : none.set id Option.none = none := none.set_eq id

end Calls

structure Traffic where
  deployment : Deployment
  calls : Calls

inductive Event
  | waits (id : Nat)
  | answers (id : Nat) (call : Call) (answer : Answer)
  | drops (id : Nat)
  | moves (m : Move)

/-- The call that an event is about. -/
def Event.actor? : Event → Option Nat
  | waits id | answers id _ _ | drops id => some id
  | moves _ => none

namespace Traffic

def event (id : Nat) (call : Call) : Turn → Event
  | .done a => .answers id call a
  | .wait _ => .waits id

/-- What a call leaves that has come to a wait or to its answer. -/
def land (calls : Calls) (id : Nat) (call : Call) (limit : Option Limit) :
    Deployment × Turn → Traffic
  | (d, .done _) => ⟨d, calls.set id none⟩
  | (d, .wait stage) => ⟨d.arrive id stage, calls.set id (some ⟨call, limit, stage⟩)⟩

inductive Step : Traffic → Event → Traffic → Prop
  | start (d : Deployment) (calls : Calls) (id : Nat) (call : Call) (fresh : calls id = none) :
    Step ⟨d, calls⟩ (event id call (d.begin call).2)
      (land calls id call (d.limitOf call) (d.begin call))
  | resume (d : Deployment) (calls : Calls) (id : Nat) (o : Ongoing) (waits : calls id = some o)
    (ready : d.isReady id o.stage = true) :
    Step ⟨d, calls⟩ (event id o.call (d.resume o.stage).2)
      (land calls id o.call o.limit (d.resume o.stage))
  | expire (d : Deployment) (calls : Calls) (id : Nat) (o : Ongoing) (limit : Limit)
    (waits : calls id = some o) (limited : o.limit = some limit) (late : limit.expires ≤ d.now) :
    Step ⟨d, calls⟩ (.answers id o.call (d.expire ⟨id, o.limit, o.stage⟩ limit).2)
      ⟨(d.expire ⟨id, o.limit, o.stage⟩ limit).1, calls.set id none⟩
  | drop (d : Deployment) (calls : Calls) (id : Nat) (o : Ongoing) (waits : calls id = some o) :
    Step ⟨d, calls⟩ (.drops id) ⟨d.abandon id o.stage, calls.set id none⟩
  | move (d : Deployment) (calls : Calls) (m : Move) : Step ⟨d, calls⟩ (.moves m) ⟨d.move m, calls⟩

/-- Steps one after the other, each one allowed. -/
inductive Steps (allowed : Traffic → Event → Traffic → Prop) :
    Traffic → List Event → Traffic → Prop
  | refl (t : Traffic) : Steps allowed t [] t
  | step {t t' t'' : Traffic} {e : Event} {events : List Event} (first : Step t e t')
    (may : allowed t e t') (rest : Steps allowed t' events t'') : Steps allowed t (e :: events) t''

/-- Any step is allowed. -/
def Free (_ : Traffic) (_ : Event) (_ : Traffic) : Prop := True

/-- The traffic comes of a deployment on which no call waits. -/
def Reachable (start : Deployment) (t : Traffic) : Prop :=
  ∃ events, Steps Free ⟨start, .none⟩ events t

variable {allowed : Traffic → Event → Traffic → Prop} {t t' : Traffic} {events : List Event}

theorem Steps.preserve (Inv : Traffic → Prop) (steps : Steps allowed t events t')
    (preserved : ∀ {t e t'}, Step t e t' → allowed t e t' → Inv t → Inv t') (first : Inv t) :
    Inv t' := by
  induction steps with
  | refl => exact first
  | step step may _ ih => exact ih (preserved step may first)

theorem Steps.trans {t'' : Traffic} {later : List Event} (steps : Steps allowed t events t')
    (more : Steps allowed t' later t'') : Steps allowed t (events ++ later) t'' := by
  induction steps with
  | refl => exact more
  | step step may _ ih => exact .step step may (ih more)

theorem Reachable.steps {start : Deployment} (reachable : Reachable start t)
    (steps : Steps Free t events t') : Reachable start t' := by
  obtain ⟨before, reached⟩ := reachable
  exact ⟨before ++ events, reached.trans steps⟩

/-! ### The steps of one call -/

theorem actor?_event (id : Nat) (call : Call) (turn : Turn) :
    (event id call turn).actor? = some id := by
  cases turn <;> rfl

theorem calls_land_ne (calls : Calls) {id i : Nat} (call : Call) (limit : Option Limit)
    (r : Deployment × Turn) (other : i ≠ id) : (land calls id call limit r).calls i = calls i := by
  obtain ⟨d, turn⟩ := r
  cases turn <;> exact Calls.set_ne calls _ other

/-- A step of another call or of the surroundings leaves a call where it is. -/
theorem Step.calls_eq {e : Event} (step : Step t e t') {i : Nat} (other : e.actor? ≠ some i) :
    t'.calls i = t.calls i := by
  cases step with
  | start d calls id call fresh =>
    rw [actor?_event] at other
    exact calls_land_ne _ _ _ _ fun same => other (congrArg some same.symm)
  | resume d calls id o waits ready =>
    rw [actor?_event] at other
    exact calls_land_ne _ _ _ _ fun same => other (congrArg some same.symm)
  | expire d calls id o limit waits limited late =>
    exact Calls.set_ne calls _ fun same => other (congrArg some same.symm)
  | drop d calls id o waits =>
    exact Calls.set_ne calls _ fun same => other (congrArg some same.symm)
  | move d calls m => rfl

/-- How a call comes to a wait. -/
inductive ComesToWait (t : Traffic) (id : Nat) : Traffic → Prop
  | begun (call : Call) (d' : Deployment) (s : Stage) (fresh : t.calls id = none)
    (begun : t.deployment.begin call = (d', .wait s)) :
    ComesToWait t id ⟨d'.arrive id s,
      t.calls.set id (some ⟨call, t.deployment.limitOf call, s⟩)⟩
  | resumed (o : Ongoing) (d' : Deployment) (s : Stage) (waits : t.calls id = some o)
    (ready : t.deployment.isReady id o.stage = true)
    (resumed : t.deployment.resume o.stage = (d', .wait s)) :
    ComesToWait t id ⟨d'.arrive id s, t.calls.set id (some ⟨o.call, o.limit, s⟩)⟩

theorem Step.comesToWait {id : Nat} (step : Step t (.waits id) t') : ComesToWait t id t' := by
  generalize waiting : Event.waits id = e at step
  cases step with
  | start d calls i call fresh =>
    cases begun : d.begin call with
    | mk d' turn =>
      rw [begun] at waiting
      cases turn with
      | done a => cases waiting
      | wait s =>
        cases waiting
        exact .begun call d' s fresh begun
  | resume d calls i o waits ready =>
    cases resumed : d.resume o.stage with
    | mk d' turn =>
      rw [resumed] at waiting
      cases turn with
      | done a => cases waiting
      | wait s =>
        cases waiting
        exact .resumed o d' s waits ready resumed
  | expire | drop | move => cases waiting

/-- How a call comes to its answer. -/
inductive ComesToAnswer (t : Traffic) (id : Nat) (call : Call) (a : Answer) : Traffic → Prop
  | begun (d' : Deployment) (fresh : t.calls id = none)
    (begun : t.deployment.begin call = (d', .done a)) :
    ComesToAnswer t id call a ⟨d', t.calls.set id none⟩
  | resumed (limit : Option Limit) (s : Stage) (d' : Deployment)
    (waits : t.calls id = some ⟨call, limit, s⟩) (ready : t.deployment.isReady id s = true)
    (resumed : t.deployment.resume s = (d', .done a)) :
    ComesToAnswer t id call a ⟨d', t.calls.set id none⟩
  | expired (limit : Limit) (s : Stage) (waits : t.calls id = some ⟨call, some limit, s⟩)
    (late : limit.expires ≤ t.deployment.now)
    (answer : (t.deployment.expire ⟨id, some limit, s⟩ limit).2 = a) :
    ComesToAnswer t id call a
      ⟨(t.deployment.expire ⟨id, some limit, s⟩ limit).1, t.calls.set id none⟩

theorem Step.comesToAnswer {id : Nat} {call : Call} {a : Answer}
    (step : Step t (.answers id call a) t') : ComesToAnswer t id call a t' := by
  generalize answering : Event.answers id call a = e at step
  cases step with
  | start d calls i call fresh =>
    cases begun : d.begin call with
    | mk d' turn =>
      rw [begun] at answering
      cases turn with
      | wait s => cases answering
      | done a =>
        cases answering
        exact .begun d' fresh begun
  | resume d calls i o waits ready =>
    obtain ⟨call, limit, s⟩ := o
    cases resumed : d.resume s with
    | mk d' turn =>
      rw [resumed] at answering
      cases turn with
      | wait s => cases answering
      | done a =>
        cases answering
        exact .resumed limit s d' waits ready resumed
  | expire d calls i o limit waits limited late =>
    obtain ⟨call, _, s⟩ := o
    cases limited
    cases answering
    exact .expired limit s waits late rfl
  | drop | move => cases answering

theorem step_start_alone {d : Deployment} {id : Nat} (call : Call) (d' : Deployment) (turn : Turn)
    (begun : d.begin call = (d', turn)) :
    Step ⟨d, Calls.none.set id none⟩ (event id call turn)
      (land .none id call (d.limitOf call) (d', turn)) := by
  have step := Step.start d (Calls.none.set id none) id call (Calls.set_self ..)
  rw [begun] at step
  cases turn <;> simpa only [land, Calls.set_set] using step

theorem step_resume_alone {d : Deployment} (id : Nat) (o : Ongoing) (d' : Deployment) (turn : Turn)
    (ready : d.isReady id o.stage = true)
    (resumed : d.resume o.stage = (d', turn)) :
    Step ⟨d, Calls.none.set id (some o)⟩ (event id o.call turn)
      (land .none id o.call o.limit (d', turn)) := by
  have step := Step.resume d (Calls.none.set id (some o)) id o (Calls.set_self ..) ready
  rw [resumed] at step
  cases turn <;> simpa only [land, Calls.set_set] using step

end Traffic

/-- A sidecar whose only call has the lock. -/
def Deployment.locked (d : Deployment) : Deployment := { d with lock := ⟨some 0, []⟩ }

/-- A sidecar with one device and one storage node, which owns every key. -/
def Deployment.single (cache : L1.Cache) (memory pool : Bytes) : Deployment where
  tier := { cache, copier := { devices := [memory], pool } }
  l2 :=
    { ring := { virtualNodes := 1, positions := [⟨0, ⟨"n", "h", 1, .up⟩⟩] }
      codec := { scheme := ⟨fun _ data => data, .ok⟩ }
      hash := fun _ => 0 }
  controller := { timeout := 0 }

end BlockTier.Sidecar
