import BlockTier.Proofs.Sidecar.Discipline
import BlockTier.Sidecar.Batch
/-!
A call that runs alone. Nothing else takes the lock, so each of its waits ends when its time has
come, and what the board of jobs makes of it is one recursion over its stages.
-/
namespace BlockTier.Sidecar

namespace Deployment

def wake (d : Deployment) (s : Stage) : Deployment := { d with now := max d.now (s.due?.getD 0) }

/-- Goes on alone from a wait until the call is answered. -/
def carry (d : Deployment) (s : Stage) : Deployment × Answer :=
  match _h : (d.wake s).resume s with
  | (d', .done a) => (d', a)
  | (d', .wait next) => (d'.arrive 0 next).carry next
termination_by s.rank
decreasing_by exact rank_lt_of_resume _h

/-- What comes of a turn when nothing else happens. -/
def conclude : Deployment × Turn → Deployment × Answer
  | (d, .done a) => (d, a)
  | (d, .wait s) => (d.arrive 0 s).carry s

def complete (d : Deployment) (c : Call) : Deployment × Answer := conclude (d.begin c)

theorem carry_eq (d : Deployment) (s : Stage) : d.carry s = conclude ((d.wake s).resume s) := by
  rw [carry]
  split
  · rename_i resumed
    rw [resumed, conclude]
  · rename_i resumed
    rw [resumed, conclude]

variable {d d' : Deployment} {s : Stage}

theorem carry_of_resume {r : Deployment × Turn} (resumed : (d.wake s).resume s = r) :
    d.carry s = conclude r := by
  rw [carry_eq, resumed]

theorem wake_of_ready (ready : d.isReady 0 s = true) : d.wake s = d := by
  unfold isReady at ready
  unfold wake
  cases timed : s.due? with
  | none => simp only [Option.getD_none, Nat.zero_le, Nat.max_eq_left]
  | some due =>
    rw [timed] at ready
    have past : due ≤ d.now := by simpa using ready
    simp only [Option.getD_some, Nat.max_eq_left past]

theorem wake_wake (d : Deployment) (s : Stage) : (d.wake s).wake s = d.wake s := by
  simp only [wake, Nat.max_assoc, Nat.max_self]

theorem carry_wake (d : Deployment) (s : Stage) : (d.wake s).carry s = d.carry s := by
  rw [carry_eq, carry_eq, wake_wake]

theorem wake_eq_pass (d : Deployment) (s : Stage) :
    d.wake s = d.move (.pass (s.due?.getD 0 - d.now)) := by
  have later : max d.now (s.due?.getD 0) = d.now + (s.due?.getD 0 - d.now) := by omega
  simp only [wake, move, later]

theorem ready_wake {due : Nat} (timed : s.due? = some due) (id : Nat) :
    (d.wake s).isReady id s = true := by
  simp only [isReady, timed, wake, Option.getD_some, decide_eq_true_eq]
  exact Nat.le_max_right _ _

end Deployment

namespace Traffic

variable {capacity : Nat} {d : Deployment} {c : Call} {s : Stage} {o : Option Ongoing}

/-- A call waits, and no other one does. -/
abbrev Alone (capacity : Nat) (c : Call) (d : Deployment) (s : Stage) : Prop :=
  Orderly capacity ⟨d, Calls.none.set 0 (some ⟨c, none, s⟩)⟩

theorem queue_alone {id : Nat} (serves : d.lock.Serves (Calls.none.set id o)) :
    ∀ i ∈ d.lock.queue, i = id := by
  intro i member
  obtain ⟨o', waits, _⟩ := serves.queued i member
  by_cases here : i = id
  · exact here
  · rw [Calls.set_ne _ _ here] at waits
    cases waits

theorem holder_alone {id : Nat} (serves : d.lock.Serves (Calls.none.set id o)) :
    d.lock.holder = none ∨ d.lock.holder = some id := by
  cases held : d.lock.holder with
  | none => exact Or.inl rfl
  | some i =>
    have here := queue_alone serves i (Lock.Serves.mem_of_holder held)
    exact Or.inr (congrArg some here)

variable {id : Nat} {o : Ongoing}

theorem holder_of_alone (alone : Orderly capacity ⟨d, Calls.none.set id (some o)⟩)
    (uses : o.stage.usesLock = true) : d.lock.holder = some id := by
  have serves : d.lock.Serves (Calls.none.set id (some o)) := alone.lock
  have member := serves.asked id _ (Calls.set_self ..) uses
  cases held : d.lock.holder with
  | none =>
    rw [Lock.queue, held, alone.lock.free held] at member
    cases member
  | some i => rw [queue_alone alone.lock i (Lock.Serves.mem_of_holder held)]

/-- A lone call that waits for the lock has it. -/
theorem ready_of_untimed (alone : Orderly capacity ⟨d, Calls.none.set id (some o)⟩)
    (untimed : o.stage.due? = none) : d.isReady id o.stage = true := by
  have uses : o.stage.usesLock = true := by
    cases stage : o.stage with
    | entering errand => rfl
    | _ =>
      rw [stage] at untimed
      cases untimed
  rw [Deployment.isReady, untimed]
  simp only [holder_of_alone alone uses, decide_true]

theorem timed_of_unready (alone : Orderly capacity ⟨d, Calls.none.set id (some o)⟩)
    (unready : d.isReady id o.stage = false) : ∃ due, o.stage.due? = some due := by
  cases timed : o.stage.due? with
  | none =>
    rw [ready_of_untimed alone timed] at unready
    cases unready
  | some due => exact ⟨due, rfl⟩

theorem ready_wake_of_alone (alone : Orderly capacity ⟨d, Calls.none.set id (some o)⟩) :
    (d.wake o.stage).isReady id o.stage = true := by
  cases timed : o.stage.due? with
  | none =>
    have same : d.wake o.stage = d := by
      simp only [Deployment.wake, timed, Option.getD_none, Nat.zero_le, Nat.max_eq_left]
    rw [same]
    exact ready_of_untimed alone timed
  | some due => exact Deployment.ready_wake timed id

theorem steps_carry (alone : Alone capacity c d s) :
    ∃ events, Steps Free ⟨d, Calls.none.set 0 (some ⟨c, none, s⟩)⟩ events
      ⟨(d.carry s).1, .none⟩ := by
  induction hn : s.rank using Nat.strongRecOn generalizing d s with
  | ind n ih =>
    have passed := alone.move (.pass (s.due?.getD 0 - d.now))
    have pass := Step.move d (Calls.none.set 0 (some ⟨c, none, s⟩))
      (.pass (s.due?.getD 0 - d.now))
    rw [← Deployment.wake_eq_pass] at passed pass
    have ready := ready_wake_of_alone alone
    have resume := Step.resume (d.wake s) (Calls.none.set 0 (some ⟨c, none, s⟩)) 0 ⟨c, none, s⟩
      (Calls.set_self ..) ready
    have next := passed.resume (Calls.set_self ..) ready
    rw [Deployment.carry_eq]
    cases resumed : (d.wake s).resume s with
    | mk d' turn =>
      rw [resumed] at resume next
      cases turn with
      | done a =>
        simp only [land, Calls.set_set] at resume
        rw [Calls.none_set] at resume
        exact ⟨_, .step pass trivial (.step resume trivial (.refl _))⟩
      | wait s' =>
        simp only [land, Calls.set_set] at resume next
        obtain ⟨events, steps⟩ := ih s'.rank (hn ▸ Deployment.rank_lt_of_resume resumed) next rfl
        exact ⟨_, .step pass trivial (.step resume trivial steps)⟩

theorem steps_complete (orderly : Orderly capacity ⟨d, .none⟩) (unlimited : d.limitOf c = none) :
    ∃ events, Steps Free ⟨d, .none⟩ events ⟨(d.complete c).1, .none⟩ := by
  have step := Step.start d .none 0 c rfl
  have started := orderly.step step
  unfold Deployment.complete
  cases begun : d.begin c with
  | mk d' turn =>
    rw [begun] at step started
    cases turn with
    | done a =>
      rw [land, Calls.none_set] at step
      exact ⟨_, .step step trivial (.refl _)⟩
    | wait s =>
      rw [unlimited] at step started
      obtain ⟨events, steps⟩ := steps_carry started
      exact ⟨_, .step step trivial steps⟩

/-- What a lone call leaves is again a traffic in which no call waits. -/
theorem Reachable.complete {start : Deployment} (fresh : start.Fresh capacity)
    (reachable : Reachable start ⟨d, .none⟩) (unlimited : d.limitOf c = none) :
    Reachable start ⟨(d.complete c).1, .none⟩ := by
  obtain ⟨events, steps⟩ := steps_complete (reachable.orderly fresh) unlimited
  exact reachable.steps steps

end Traffic

namespace Deployment

/-- A sidecar whose first tier is full with a block of two bytes. -/
def stocked : Deployment :=
  { Deployment.single
      { allocator := ⟨2, 2, [], [], [⟨0, 2⟩]⟩
        entries := [("k", ⟨0, 2⟩)]
        recency := [⟨"k", 2⟩]
        counters := { insertions := 1 } }
      [1, 2, 3, 4, 0, 0, 0] [1, 2] with
    tier.copier.stats := { toHostBytes := 2, toHostCopies := 1 }
    tally := { offloadsL1 := 1 } }

theorem reachable_stocked :
    Traffic.Reachable (.single (.new 2) [1, 2, 3, 4, 0, 0, 0] [0, 0]) ⟨stocked, .none⟩ := by
  let new : Deployment := .single (.new 2) [1, 2, 3, 4, 0, 0, 0] [0, 0]
  let taken : Deployment :=
    .single { allocator := ⟨2, 2, [], [], [⟨0, 2⟩]⟩ } [1, 2, 3, 4, 0, 0, 0] [0, 0]
  let putting : Stage := .entering (.put "k" ⟨0, 0, 2⟩ .offload)
  let storing : Stage := .storing ⟨"k", ⟨0, 2⟩, .toPool [1, 2] ⟨0, 2⟩, 0⟩ ⟨0, 0, 2⟩ .offload 0
  have begun : new.tier.beginPut "k" ⟨0, 0, 2⟩ =
      (taken.tier, .inr ⟨"k", ⟨0, 2⟩, .toPool [1, 2] ⟨0, 2⟩, 0⟩) := by cbv
  have takes : (new.locked.wake putting).resume putting = (taken.locked, .wait storing) := by
    rw [resume, enter, show (new.locked.wake putting).tier = new.tier from rfl, begun]
    rfl
  have stores : (taken.locked.wake storing).resume storing =
      (stocked, .done (.status (.ok "stored in L1"))) := rfl
  have stored : new.complete (.offload "k" ⟨0, 0, 2⟩ none) =
      (stocked, .status (.ok "stored in L1")) :=
    calc
      _ = new.locked.carry putting := rfl
      _ = taken.locked.carry storing := carry_of_resume takes
      _ = _ := carry_of_resume stores
  have fresh : new.Fresh 2 := ⟨rfl, rfl⟩
  have quiet : Traffic.Reachable new ⟨new, .none⟩ := ⟨[], .refl _⟩
  have reached := quiet.complete fresh (c := .offload "k" ⟨0, 0, 2⟩ none) rfl
  rwa [stored] at reached

end Deployment

end BlockTier.Sidecar
