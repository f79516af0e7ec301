import BlockTier.Proofs.Sidecar.LoneCall
/-!
The board of jobs with one call on it. It takes the call from wait to wait to an answer, and nothing
else happens.
-/
namespace BlockTier.Sidecar

open Traffic

variable {α : Type} {capacity : Nat} {c : Call} {limit : Option Limit} {d : Deployment} {s : Stage}
  {Waits : Deployment → Stage → Prop} {Answers : Deployment × Answer → Prop}

/-- When a call can go on or its deadline passes, whichever is first. -/
def wakeAt (limit : Option Limit) (due : Nat) : Nat :=
  match limit with
  | none => due
  | some l => min due l.expires

/-- What a turn has come to. -/
inductive Comes (Waits : Deployment → Stage → Prop) (Answers : Deployment × Answer → Prop) :
    Deployment × Turn → Prop
  | answered (d : Deployment) (a : Answer) (answers : Answers (d, a)) :
    Comes Waits Answers (d, .done a)
  | waits (d : Deployment) (s : Stage) (waits : Waits (d.arrive 0 s) s) :
    Comes Waits Answers (d, .wait s)

/-- What is so where a call waits that nothing runs beside, and what is so of its answer. Whatever
can happen to the call leads from the one to the other. -/
structure Course (capacity : Nat) (c : Call) (limit : Option Limit)
    (Waits : Deployment → Stage → Prop) (Answers : Deployment × Answer → Prop) : Prop where
  resume : ∀ {d s}, Orderly capacity ⟨d, Calls.none.set 0 (some ⟨c, limit, s⟩)⟩ → Waits d s →
    d.isReady 0 s = true → Comes Waits Answers (d.resume s)
  pass : ∀ {d s due}, Waits d s → s.due? = some due →
    Waits (d.move (.pass (wakeAt limit due - d.now))) s
  expire : ∀ {d s l}, Waits d s → limit = some l → d.isReady 0 s = false → l.expires ≤ d.now →
    Answers (d.expire ⟨0, some l, s⟩ l)

namespace Course

/-- The call waits, alone. -/
structure Flying (capacity : Nat) (c : Call) (limit : Option Limit)
    (Waits : Deployment → Stage → Prop) (d : Deployment) (s : Stage) : Prop where
  orderly : Orderly capacity ⟨d, Calls.none.set 0 (some ⟨c, limit, s⟩)⟩
  waits : Waits d s

/-- The call has been answered. -/
structure Landed (capacity : Nat) (Answers : Deployment × Answer → Prop) (r : Deployment × Answer) :
    Prop where
  orderly : Orderly capacity ⟨r.1, .none⟩
  answers : Answers r

theorem Landed.holder {r : Deployment × Answer} (landed : Landed capacity Answers r) :
    r.1.lock.holder = none ∨ r.1.lock.holder = some 0 := by
  have orderly := landed.orderly
  rw [← Calls.none_set 0] at orderly
  exact holder_alone orderly.lock

theorem Flying.pass (course : Course capacity c limit Waits Answers)
    (flying : Flying capacity c limit Waits d s) {due : Nat} (timed : s.due? = some due) :
    Flying capacity c limit Waits (d.move (.pass (wakeAt limit due - d.now))) s :=
  ⟨flying.orderly.move _, course.pass flying.waits timed⟩

theorem comes_of_land {r : Deployment × Turn}
    (orderly : Orderly capacity (land .none 0 c limit r)) (comes : Comes Waits Answers r) :
    Comes (Flying capacity c limit Waits) (Landed capacity Answers) r := by
  cases comes with
  | answered d a answers =>
    rw [land, Calls.none_set] at orderly
    exact .answered d a ⟨orderly, answers⟩
  | waits d s waits => exact .waits d s ⟨orderly, waits⟩

theorem Flying.resume (course : Course capacity c limit Waits Answers)
    (flying : Flying capacity c limit Waits d s) (ready : d.isReady 0 s = true) :
    Comes (Flying capacity c limit Waits) (Landed capacity Answers) (d.resume s) := by
  refine comes_of_land ?_ (course.resume flying.orderly flying.waits ready)
  have next := flying.orderly.step (Step.resume _ _ 0 _ (Calls.set_self ..) ready)
  generalize d.resume s = r at next ⊢
  obtain ⟨d', turn⟩ := r
  cases turn <;> simpa only [land, Calls.set_set] using next

theorem Flying.expire (course : Course capacity c limit Waits Answers)
    (flying : Flying capacity c limit Waits d s) {l : Limit} (limited : limit = some l)
    (unready : d.isReady 0 s = false) (late : l.expires ≤ d.now) :
    Landed capacity Answers (d.expire ⟨0, some l, s⟩ l) := by
  refine ⟨?_, course.expire flying.waits limited unready late⟩
  subst limited
  have next := flying.orderly.step (Step.expire _ _ 0 _ l (Calls.set_self ..) rfl late)
  rwa [Calls.set_set, Calls.none_set] at next

/-- What going on as far as no waiting is needed comes to. -/
inductive Proceeds (capacity : Nat) (c : Call) (limit : Option Limit)
    (Waits : Deployment → Stage → Prop) (Answers : Deployment × Answer → Prop) (d : Deployment)
    (s : Stage) : Deployment × Turn → Prop
  | done (d' : Deployment) (a : Answer) (landed : Landed capacity Answers (d', a)) :
    Proceeds capacity c limit Waits Answers d s (d', .done a)
  | waits (d' : Deployment) (s' : Stage) (flying : Flying capacity c limit Waits d' s')
    (unready : d'.isReady 0 s' = false) (onward : s'.rank < s.rank ∨ d' = d ∧ s' = s) :
    Proceeds capacity c limit Waits Answers d s (d', .wait s')

theorem Flying.proceeds (course : Course capacity c limit Waits Answers)
    (flying : Flying capacity c limit Waits d s) :
    Proceeds capacity c limit Waits Answers d s (d.proceed 0 s) := by
  induction hn : s.rank using Nat.strongRecOn generalizing d s with
  | ind n ih =>
    rw [Deployment.proceed]
    cases ready : d.isReady 0 s with
    | false => exact .waits d s flying ready (Or.inr ⟨rfl, rfl⟩)
    | true =>
      have comes := flying.resume course ready
      rw [if_pos rfl]
      split
      · rename_i d' a resumed
        rw [resumed] at comes
        cases comes with
        | answered _ _ landed => exact .done d' a landed
      · rename_i d' next resumed
        have less := Deployment.rank_lt_of_resume resumed
        rw [resumed] at comes
        cases comes with
        | waits _ _ flying =>
          have onward := ih next.rank (hn ▸ less) flying rfl
          generalize (d'.arrive 0 next).proceed 0 next = r at onward ⊢
          cases onward with
          | done d'' a landed => exact .done d'' a landed
          | waits d'' s' flying unready lower =>
            refine .waits d'' s' flying unready (Or.inl ?_)
            rcases lower with lower | ⟨_, rfl⟩
            · exact Nat.lt_trans lower less
            · exact less

/-- What a look at the call comes to. -/
inductive Polls (capacity : Nat) (c : Call) (limit : Option Limit)
    (Waits : Deployment → Stage → Prop) (Answers : Deployment × Answer → Prop) (d : Deployment)
    (s : Stage) : Deployment × (Answer ⊕ Flight) → Prop
  | done (d' : Deployment) (a : Answer) (landed : Landed capacity Answers (d', a)) :
    Polls capacity c limit Waits Answers d s (d', .inl a)
  | waits (d' : Deployment) (s' : Stage) (flying : Flying capacity c limit Waits d' s')
    (unready : d'.isReady 0 s' = false) (early : ∀ l, limit = some l → d'.now < l.expires)
    (onward : s'.rank < s.rank ∨ d' = d ∧ s' = s) :
    Polls capacity c limit Waits Answers d s (d', .inr ⟨0, limit, s'⟩)

theorem Flying.polls (course : Course capacity c limit Waits Answers)
    (flying : Flying capacity c limit Waits d s) :
    Polls capacity c limit Waits Answers d s (d.poll ⟨0, limit, s⟩) := by
  have proceeds := flying.proceeds course
  simp only [Deployment.poll]
  generalize d.proceed 0 s = r at proceeds ⊢
  cases proceeds with
  | done d' a landed => exact .done d' a landed
  | waits d' s' flying unready onward =>
    simp only [Deployment.settle]
    cases limited : limit with
    | none =>
      exact .waits d' s' (limited ▸ flying) unready (fun _ absent => by cases absent) onward
    | some l =>
      dsimp only
      split
      · rename_i late
        exact .done _ _ (flying.expire course limited unready late)
      · rename_i early
        refine .waits d' s' (limited ▸ flying) unready (fun l' same => ?_) onward
        cases same
        exact Nat.lt_of_not_le early

end Course

namespace Board

/-- A board with one job, over a sidecar without loops. -/
def lone (d : Deployment) (slot : Slot α) (woken : List Nat) (looks : Nat) : Board α :=
  ⟨⟨d, []⟩, [slot], woken, looks⟩

def afterLook (fuel : Nat) (b : Board α) : Board α :=
  if b.slots.all Slot.isLanded then b
  else
    let b := b.giveWay
    if b.woken.isEmpty then
      match b.skip? with
      | none => b
      | some b => advance fuel (.one 0) b
    else advance fuel (.one 0) b

theorem advance_succ (fuel : Nat) (b : Board α) :
    advance (fuel + 1) (.one 0) b = afterLook fuel (b.pollJob 0) := rfl

/-- The job is done, with the deployment and the answer that it came to. -/
def Ends (b : Board α) (r : Deployment × Answer) : Prop :=
  b.world = ⟨r.1, []⟩ ∧ b.slots = [.landed (.inl r.2)]

theorem pollJob_lone {d' : Deployment} {slot slot' : Slot α} {woken : List Nat} {looks : Nat}
    (polled : slot.poll looks 0 ⟨d, []⟩ = (⟨d', []⟩, slot'))
    (holder : d'.lock.holder = none ∨ d'.lock.holder = some 0)
    (only : ∀ id ∈ woken, id = 0) :
    (lone d slot woken looks).pollJob 0 = lone d' slot' [] (looks + 1) := by
  have others : woken.filter (· ≠ 0) = [] := by
    apply List.filter_eq_nil_iff.mpr
    intro id member
    simp [only id member]
  simp only [pollJob, lone, List.getElem?_cons_zero, polled, List.set_cons_zero, others]
  rcases holder with free | held
  · rw [free]
  · rw [held]
    simp

theorem wake_lone (d : Deployment) (slot : Slot α) (looks : Nat) (look? : Slot α → Option Nat) :
    (lone d slot [] looks).wake look? =
      lone d slot (if (look? slot).isSome then [0] else []) looks := by
  simp only [wake, lone]
  cases found : look? slot <;> simp [found]

theorem giveWay_lone (d : Deployment) (slot : Slot α) (looks : Nat) :
    (lone d slot [] looks).giveWay =
      lone d slot (if slot.givesWaySince?.isSome then [0] else []) looks := by
  have still : World.runLoops ⟨d, []⟩ d.now = ⟨d, []⟩ := by
    rw [World.runLoops]
    rfl
  have woken : Board.wake ⟨World.runLoops ⟨d, []⟩ d.now, [slot], [], looks⟩ Slot.givesWaySince? =
      (lone d slot [] looks).wake Slot.givesWaySince? := by
    rw [still]
    rfl
  exact woken.trans (wake_lone d slot looks Slot.givesWaySince?)

/-- An answer ends the job; a sleep gives way once before. -/
theorem ends_of_answer (d : Deployment) (a : Answer) (started since look looks fuel : Nat)
    (holder : d.lock.holder = none ∨ d.lock.holder = some 0) :
    Ends (afterLook (fuel + 1)
      (lone (α := α) d (.ofPoll started since look (.inl a)) [] looks)) (d, a) := by
  cases a with
  | rested =>
    have woken : (lone (α := α) d (.givingWay (.inl .rested) look) [] looks).giveWay =
        lone d (.givingWay (.inl .rested) look) [0] looks := giveWay_lone d _ looks
    have landed : (lone (α := α) d (.givingWay (.inl .rested) look) [0] looks).pollJob 0 =
        lone d (.landed (.inl .rested)) [] (looks + 1) := pollJob_lone rfl holder (by simp)
    rw [Slot.ofPoll, afterLook, if_neg (by simp [lone, Slot.isLanded, Slot.result?])]
    dsimp only
    rw [woken, if_neg (by simp [lone]), advance_succ, landed]
    exact ⟨rfl, rfl⟩
  | _ => exact ⟨rfl, rfl⟩

theorem skip?_flying {due : Nat} (timed : s.due? = some due) (started since looks : Nat) :
    (lone (α := α) d (.flying ⟨0, limit, s⟩ started since) [] looks).skip? =
      some (lone (d.move (.pass (wakeAt limit due - d.now))) (.flying ⟨0, limit, s⟩ started since)
        [0] looks) := by
  have wakes : Slot.wakeTime? (.flying ⟨0, limit, s⟩ started since : Slot α) =
      some (wakeAt limit due) := by
    cases limit <;> simp only [Slot.wakeTime?, timed, Option.map_none, Option.map_some, wakeAt]
  have still : World.runLoops ⟨d, []⟩ (wakeAt limit due - 1) = ⟨d, []⟩ := by
    rw [World.runLoops]
    rfl
  have rings : (Slot.alarm? (wakeAt limit due)
      (.flying ⟨0, limit, s⟩ started since : Slot α)).isSome = true := by
    cases limit with
    | none => simp [Slot.alarm?, timed, wakeAt]
    | some l =>
      rcases Nat.le_total due l.expires with sooner | later
      · by_cases at_once : l.expires ≤ due <;>
          simp [Slot.alarm?, timed, wakeAt, Nat.min_eq_left sooner, at_once]
      · simp [Slot.alarm?, wakeAt, Nat.min_eq_right later]
  have awake : World.setNow ⟨d, []⟩ (wakeAt limit due) =
      ⟨d.move (.pass (wakeAt limit due - d.now)), []⟩ := by
    have later : max d.now (wakeAt limit due) = d.now + (wakeAt limit due - d.now) := by omega
    simp only [World.setNow, Deployment.move, later]
  simp only [skip?, lone, List.filterMap_cons, wakes, List.filterMap_nil, List.min?_singleton,
    Option.map_some, still, awake]
  exact congrArg some ((wake_lone _ _ _ _).trans (by rw [if_pos rings]; rfl))

theorem poll_eq (d : Deployment) (f : Flight) (started since looks : Nat) :
    ∃ started' since', Slot.poll looks 0 ⟨d, []⟩ (.flying f started since : Slot α) =
      (⟨(d.poll f).1, []⟩, .ofPoll started' since' looks (d.poll f).2) :=
  ⟨_, _, rfl⟩

theorem rank_begin {d' : Deployment} (begun : d.begin c = (d', .wait s)) :
    s.rank < Slot.rank (α := α) (.pending (.call c)) := by
  have rank : (d.begin c).2.rank = s.rank := by rw [begun]; rfl
  rw [← rank]
  cases c with
  | residency keys => cases keys <;> simp [Deployment.begin, Turn.rank, Stage.rank, Slot.rank]
  | l2Put key data =>
    have := d.rank_sendFor key data .direct
    simp only [Deployment.begin, Slot.rank]
    omega
  | l2Exists key =>
    have := d.rank_probe key .direct (Deployment.probeAnswer .direct)
    simp only [Deployment.begin, Slot.rank]
    omega
  | _ =>
    simp only [Deployment.begin, Slot.rank]
    first
    | (split <;> simp [Turn.rank, Stage.rank])
    | simp [Turn.rank, Stage.rank]

/-- When the time has come, the wait is over or the deadline has passed. -/
theorem not_stuck {due : Nat} (timed : s.due? = some due)
    (unready : (d.move (.pass (wakeAt limit due - d.now))).isReady 0 s = false)
    (early : ∀ l, limit = some l →
      (d.move (.pass (wakeAt limit due - d.now))).now < l.expires) : False := by
  rw [Deployment.isReady, timed] at unready
  have later : d.now + (wakeAt limit due - d.now) < due :=
    Nat.lt_of_not_le (of_decide_eq_false unready)
  cases limit with
  | none =>
    rw [wakeAt] at later
    omega
  | some l =>
    have sooner : d.now + (wakeAt (some l) due - d.now) < l.expires := early l rfl
    rw [wakeAt] at later sooner
    omega

/-- The board comes to an answer of the call. -/
def EndsWith (capacity : Nat) (Answers : Deployment × Answer → Prop) (b : Board α) : Prop :=
  ∃ r, Course.Landed capacity Answers r ∧ Ends b r

theorem endsWith_of_flying (course : Course capacity c limit Waits Answers)
    (flying : Course.Flying capacity c limit Waits d s) (unready : d.isReady 0 s = false)
    {fuel : Nat} (enough : s.rank < fuel) (started since looks : Nat) :
    EndsWith capacity Answers
      (afterLook fuel (lone (α := α) d (.flying ⟨0, limit, s⟩ started since) [] looks)) := by
  -- time goes straight to the end of the wait or of the call, so each look lowers the rank
  induction hn : s.rank using Nat.strongRecOn
    generalizing d s fuel started since looks with
  | ind n ih =>
    obtain ⟨due, timed⟩ := timed_of_unready flying.orderly unready
    have still : (lone (α := α) d (.flying ⟨0, limit, s⟩ started since) [] looks).giveWay =
        lone d (.flying ⟨0, limit, s⟩ started since) [] looks := giveWay_lone d _ looks
    rw [afterLook, if_neg (by simp [lone, Slot.isLanded, Slot.result?])]
    dsimp only
    rw [still, if_pos (by simp [lone]), skip?_flying timed]
    obtain ⟨fuel, rfl⟩ : ∃ n, fuel = n + 1 := ⟨fuel - 1, by omega⟩
    have polls := (flying.pass course timed).polls course
    obtain ⟨started', since', polled⟩ := poll_eq (α := α)
      (d.move (.pass (wakeAt limit due - d.now))) ⟨0, limit, s⟩ started since looks
    dsimp only
    rw [advance_succ]
    generalize (d.move (.pass (wakeAt limit due - d.now))).poll ⟨0, limit, s⟩ = r at polls polled
    cases polls with
    | done d' a landed =>
      have positive := Stage.rank_pos s
      obtain ⟨fuel, rfl⟩ : ∃ n, fuel = n + 1 := ⟨fuel - 1, by omega⟩
      rw [pollJob_lone polled landed.holder (by simp)]
      exact ⟨_, landed, ends_of_answer d' a _ _ _ _ fuel landed.holder⟩
    | waits d' s' flying' unready' early onward =>
      rw [pollJob_lone polled (holder_alone flying'.orderly.lock) (by simp)]
      rcases onward with less | ⟨rfl, rfl⟩
      · exact ih s'.rank (hn ▸ less) flying' unready' (by omega) _ _ _ rfl
      · exact (not_stuck timed unready' early).elim

theorem endsWith_of_call (orderly : Orderly capacity ⟨d, .none⟩)
    (course : Course capacity c (d.limitOf c) Waits Answers)
    (begins : Comes Waits Answers (d.begin c)) :
    EndsWith capacity Answers (advance (Slot.rank (.pending (.call c) : Slot α) + 1) (.one 0)
      (lone d (.pending (.call c) : Slot α) [0] 0)) := by
  have comes := Course.comes_of_land (orderly.step (Step.start d .none 0 c rfl)) begins
  have ends_of_landed {d' : Deployment} {a : Answer}
      (landed : Course.Landed capacity Answers (d', a))
      (polled : Slot.poll 0 0 ⟨d, []⟩ (.pending (.call c) : Slot α) =
        (⟨d', []⟩, .ofPoll 0 0 0 (.inl a))) :
      EndsWith capacity Answers (afterLook (Slot.rank (.pending (.call c) : Slot α))
        ((lone d (.pending (.call c) : Slot α) [0] 0).pollJob 0)) := by
    obtain ⟨fuel, positive⟩ : ∃ n, Slot.rank (.pending (.call c) : Slot α) = n + 1 := by
      cases c <;> exact ⟨_, rfl⟩
    rw [pollJob_lone polled landed.holder (by simp), positive]
    exact ⟨_, landed, ends_of_answer d' a 0 0 0 1 fuel landed.holder⟩
  rw [advance_succ]
  cases begun : d.begin c with
  | mk d' turn =>
    rw [begun] at comes
    cases comes with
    | answered _ a landed =>
      refine ends_of_landed landed ?_
      simp only [Slot.poll, Deployment.start, begun]
    | waits _ s flying =>
      have polls := flying.polls course
      have enough := rank_begin (α := α) begun
      have polled : Slot.poll 0 0 ⟨d, []⟩ (.pending (.call c) : Slot α) =
          (⟨((d'.arrive 0 s).poll ⟨0, d.limitOf c, s⟩).1, []⟩,
            .ofPoll 0 0 0 ((d'.arrive 0 s).poll ⟨0, d.limitOf c, s⟩).2) := by
        simp only [Slot.poll, Deployment.start, begun]
      generalize (d'.arrive 0 s).poll ⟨0, d.limitOf c, s⟩ = r at polls polled
      cases polls with
      | done d'' a landed => exact ends_of_landed landed polled
      | waits d'' s' flying' unready early onward =>
        have lower : s'.rank ≤ s.rank := by
          rcases onward with less | ⟨_, rfl⟩
          · exact Nat.le_of_lt less
          · exact Nat.le_refl _
        rw [pollJob_lone polled (holder_alone flying'.orderly.lock) (by simp)]
        exact endsWith_of_flying course flying' unready (Nat.lt_of_le_of_lt lower enough) 0 0 1

end Board

/-- A call that is made alone runs its course: it is answered, and nothing else has happened. -/
theorem World.run_course (orderly : Orderly capacity ⟨d, .none⟩)
    (course : Course capacity c (d.limitOf c) Waits Answers)
    (begins : Comes Waits Answers (d.begin c)) : ∃ r, Orderly capacity ⟨r.1, .none⟩ ∧ Answers r ∧
      World.run ⟨d, []⟩ (.one (.call c : Job α)) = (⟨r.1, []⟩, [.inl r.2]) := by
  obtain ⟨r, landed, world, slots⟩ := Board.endsWith_of_call (α := α) orderly course begins
  rw [Board.lone] at world slots
  refine ⟨r, landed.orderly, landed.answers, ?_⟩
  show ((Board.advance _ _ _).world, (Board.advance _ _ _).slots.filterMap Slot.result?) = _
  refine Prod.ext world ?_
  exact congrArg (List.filterMap Slot.result?) slots

/-- Without a deadline it is carried to its answer from wait to wait. -/
theorem World.run_alone (orderly : Orderly capacity ⟨d, .none⟩) (unlimited : d.limitOf c = none) :
    World.run ⟨d, []⟩ (.one (.call c : Job α)) =
      (⟨(d.complete c).1, []⟩, [.inl (d.complete c).2]) := by
  have comes (r : Deployment × Turn) : Comes (fun d' s => d'.carry s = Deployment.conclude r)
      (· = Deployment.conclude r) r := by
    obtain ⟨d', turn⟩ := r
    cases turn with
    | done a => exact .answered d' a rfl
    | wait s => exact .waits d' s rfl
  have course : Course capacity c (d.limitOf c) (fun d' s => d'.carry s = d.complete c)
      (· = d.complete c) := by
    refine ⟨fun _ waits ready => ?_, fun waits timed => ?_, fun _ limited => ?_⟩
    · rw [Deployment.carry_eq, Deployment.wake_of_ready ready] at waits
      rw [← waits]
      exact comes _
    · rename_i d' s due
      have woken : d'.move (.pass (wakeAt none due - d'.now)) = d'.wake s := by
        rw [Deployment.wake_eq_pass, timed]
        rfl
      rw [unlimited, woken, Deployment.carry_wake]
      exact waits
    · rw [unlimited] at limited
      cases limited
  obtain ⟨r, _, rfl, ran⟩ := World.run_course (α := α) orderly course (comes _)
  exact ran

end BlockTier.Sidecar
