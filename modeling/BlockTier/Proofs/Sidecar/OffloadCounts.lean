import BlockTier.Proofs.Sidecar.Discipline
/-!
The counts that offloads end in. An offload is counted in the step that settles what it answers: in
its last one, or in the one from which on it only mirrors a block that is stored. Nothing else
touches these counts.
-/
namespace BlockTier.Sidecar

inductive Counter
  | l1
  | l2
  | failures
  deriving DecidableEq

namespace Tally

def count (t : Tally) : Counter → Nat
  | .l1 => t.offloadsL1
  | .l2 => t.offloadsL2
  | .failures => t.offloadFailures

/-- The counts with one more offload. -/
def counted (t : Tally) (c : Counter) : Counter → Nat :=
  fun c' => t.count c' + if c' = c then 1 else 0

variable {t : Tally}

theorem count_stored : count { t with offloadsL1 := t.offloadsL1 + 1 } = t.counted .l1 := by
  funext c
  cases c <;> rfl

theorem count_sent : count { t with offloadsL2 := t.offloadsL2 + 1 } = t.counted .l2 := by
  funext c
  cases c <;> rfl

theorem count_failed :
    count { t with offloadFailures := t.offloadFailures + 1 } = t.counted .failures := by
  funext c
  cases c <;> rfl

end Tally

/-- An offload that is not refused before it touches a tier. -/
def Call.isAccepted : Call → Bool
  | offload key block _ => !key.isEmpty && block.size ≠ 0
  | _ => false

/-- The stages of an offload that has not been counted. -/
def Stage.isOpen : Stage → Bool
  | entering (.put _ _ .offload) | storing _ _ .offload _ | copying _ (.fallback ..) _
  | sending _ _ _ (.fallback _) _ => true
  | _ => false

theorem Stage.isWriteThrough_of_isOpen {s : Stage} (here : s.isOpen = true) :
    s.isWriteThrough = false := by
  unfold isOpen at here
  split at here
  · rfl
  · rfl
  · rfl
  · rfl
  · cases here

/-- How an offload goes on that has not been counted, when the counts are these: it is not counted
yet, it is counted as stored and goes on to mirror its block, or it is counted and answered. -/
inductive Opens (t : Tally) : Deployment × Turn → Prop
  | waits (d : Deployment) (s : Stage) (same : d.tally.count = t.count) (here : s.isOpen = true) :
    Opens t (d, .wait s)
  | mirrors (d : Deployment) (s : Stage) (counted : d.tally.count = t.counted .l1)
    (here : s.isWriteThrough = true) : Opens t (d, .wait s)
  | ends (d : Deployment) (s : Status) (c : Counter) (counted : d.tally.count = t.counted c)
    (told : c = .failures ↔ s.success = false) : Opens t (d, .done (.status s))

/-- How an offload goes on that mirrors its block. -/
inductive Trails (t : Tally) : Deployment × Turn → Prop
  | waits (d : Deployment) (s : Stage) (same : d.tally.count = t.count)
    (here : s.isWriteThrough = true) : Trails t (d, .wait s)
  | ends (d : Deployment) (s : Status) (same : d.tally.count = t.count)
    (success : s.success = true) : Trails t (d, .done (.status s))

/-- How any other call goes on. -/
structure Uncharged (t : Tally) (r : Deployment × Turn) : Prop where
  same : r.1.tally.count = t.count
  next : ∀ s, r.2 = .wait s → s.isOpen = false ∧ s.isWriteThrough = false

namespace Deployment

variable {d : Deployment} {t : Tally} {s : Status} {stage : Stage} {key rejection : String}
  {data : Bytes} {block dest : BlockRef} {a : Answer}

/-! ### Offloads -/

theorem opens_endOffload (same : d.tally = t) (failure : s.success = false) :
    Opens t (d.endOffload s) := by
  subst same
  simp only [endOffload, failure, Bool.false_eq_true, ↓reduceIte]
  exact .ends _ s .failures Tally.count_failed (by simp only [failure])

theorem opens_afterSend (same : d.tally = t) :
    Opens t (d.afterSend (.fallback rejection) s) := by
  simp only [afterSend]
  cases success : s.success with
  | true =>
    subst same
    have sent : (s.annotate "promoted to L2").success = true := success
    simp only [↓reduceIte, endOffload, sent]
    exact .ends _ _ .l2 Tally.count_sent (by simp only [sent, reduceCtorEq])
  | false => exact opens_endOffload same success

theorem opens_sendFor (same : d.tally = t) :
    Opens t (d.sendFor key data (.fallback rejection)) := by
  unfold sendFor
  split
  · exact opens_afterSend same
  · exact .waits _ _ (congrArg Tally.count same) rfl

theorem opens_afterPut (same : d.tally = t) :
    Opens t (d.afterPut key block .offload s) := by
  simp only [afterPut]
  cases success : s.success with
  | true =>
    subst same
    simp only [↓reduceIte]
    split
    · exact .ends _ _ .l1 Tally.count_stored (by simp only [Status.ok, reduceCtorEq])
    · exact .mirrors _ _ Tally.count_stored rfl
  | false =>
    simp only [Bool.false_eq_true, ↓reduceIte]
    have started : (d.startCopy (.read block)).1.tally = t := same
    generalize d.startCopy (.read block) = r at started
    obtain ⟨d', e | copying⟩ := r
    · exact opens_endOffload started rfl
    · exact .waits _ _ (congrArg Tally.count started) rfl

theorem opens_resume (d : Deployment) (here : stage.isOpen = true) :
    Opens d.tally (d.resume stage) := by
  cases stage with
  | entering errand =>
    cases errand with
    | put key block use =>
      cases use with
      | offload =>
        simp only [resume, enter]
        split
        · exact opens_afterPut rfl
        · exact .waits _ _ rfl rfl
      | direct | promotion => cases here
    | _ => cases here
  | storing storing block use due =>
    cases use with
    | offload =>
      simp only [resume]
      exact opens_afterPut rfl
    | direct | promotion => cases here
  | copying c use due =>
    cases use with
    | fallback key rejection =>
      simp only [resume, afterCopy]
      split
      · exact opens_endOffload rfl rfl
      · exact opens_sendFor rfl
    | _ => cases here
  | sending node key frame use due =>
    cases use with
    | fallback rejection =>
      simp only [resume]
      exact opens_afterSend rfl
    | direct | writeThrough => cases here
  | _ => cases here

theorem trails_resume (d : Deployment) (here : stage.isWriteThrough = true) :
    Trails d.tally (d.resume stage) := by
  cases stage with
  | entering errand =>
    cases errand with
    | read key use =>
      cases use with
      | writeThrough =>
        simp only [resume, enter]
        cases d.tier.read? key with
        | none => exact .ends _ _ rfl rfl
        | some data =>
          simp only [afterRead, sendFor]
          split
          · exact .ends _ _ rfl rfl
          · exact .waits _ _ rfl rfl
      | direct => cases here
    | _ => cases here
  | sending node key frame use due =>
    cases use with
    | writeThrough => exact .ends _ _ rfl rfl
    | direct | fallback => cases here
  | _ => cases here

/-! ### Other calls -/

theorem uncharged_done (same : d.tally.count = t.count) : Uncharged t (d, .done a) :=
  ⟨same, fun _ absent => nomatch absent⟩

theorem uncharged_wait (same : d.tally.count = t.count) (unopened : stage.isOpen = false)
    (unmirrored : stage.isWriteThrough = false) : Uncharged t (d, .wait stage) := by
  refine ⟨same, fun s next => ?_⟩
  cases next
  exact ⟨unopened, unmirrored⟩

theorem uncharged_sendFor (same : d.tally = t) :
    Uncharged t (d.sendFor key data .direct) := by
  have counts := congrArg Tally.count same
  unfold sendFor
  split
  · exact uncharged_done counts
  · exact uncharged_wait counts rfl rfl

theorem uncharged_afterPut {use : PutUse} (other : use ≠ .offload) (same : d.tally = t) :
    Uncharged t (d.afterPut key block use s) := by
  have counts := congrArg Tally.count same
  cases use with
  | offload => exact absurd rfl other
  | direct | promotion => exact uncharged_done counts

theorem uncharged_afterGet {use : GetUse} (same : d.tally = t) :
    Uncharged t (d.afterGet key dest use s) := by
  subst same
  cases use with
  | direct => exact uncharged_done rfl
  | fetch =>
    simp only [afterGet]
    split
    · exact uncharged_done rfl
    · split
      · exact uncharged_done rfl
      · exact uncharged_wait rfl rfl rfl

theorem uncharged_probe {use : ProbeUse} {refused : Status → Answer} (same : d.tally = t) :
    Uncharged t (d.probe key use refused) := by
  have counts := congrArg Tally.count same
  unfold probe
  split
  · exact uncharged_done counts
  · exact uncharged_wait counts rfl rfl

theorem uncharged_afterContains {use : ContainsUse} {found : Bool} (same : d.tally = t) :
    Uncharged t (d.afterContains key use found) := by
  have counts := congrArg Tally.count same
  cases use with
  | direct => exact uncharged_done counts
  | check =>
    simp only [afterContains]
    split
    · exact uncharged_done counts
    · exact uncharged_probe same
  | residency before rest =>
    cases rest with
    | nil => exact uncharged_done counts
    | cons next rest => exact uncharged_wait counts rfl rfl

theorem uncharged_afterReceive (same : d.tally = t) :
    Uncharged t (d.afterReceive key dest s) := by
  subst same
  unfold afterReceive
  split
  · exact uncharged_done rfl
  · split
    · exact uncharged_done rfl
    · dsimp only
      split
      · exact uncharged_done rfl
      · exact uncharged_wait rfl rfl rfl

theorem uncharged_enter (d : Deployment) {errand : Errand}
    (unopened : (Stage.entering errand).isOpen = false)
    (unmirrored : (Stage.entering errand).isWriteThrough = false) :
    Uncharged d.tally (d.enter errand) := by
  cases errand with
  | put key block use =>
    have other : use ≠ .offload := by
      intro same
      subst same
      cases unopened
    simp only [enter]
    split
    · exact uncharged_afterPut other rfl
    · cases use with
      | offload => exact absurd rfl other
      | direct | promotion => exact uncharged_wait rfl rfl rfl
  | get key dest use =>
    simp only [enter]
    split
    · exact uncharged_afterGet rfl
    · exact uncharged_wait rfl rfl rfl
  | read key use =>
    cases use with
    | direct => exact uncharged_done rfl
    | writeThrough => cases unmirrored
  | contains key use => exact uncharged_afterContains rfl
  | evict | makeRoom | l1Stats | stats => exact uncharged_done rfl

theorem uncharged_resume (d : Deployment) (unopened : stage.isOpen = false)
    (unmirrored : stage.isWriteThrough = false) : Uncharged d.tally (d.resume stage) := by
  cases stage with
  | entering errand => exact uncharged_enter d unopened unmirrored
  | storing storing block use due =>
    cases use with
    | offload => cases unopened
    | direct | promotion => exact uncharged_done rfl
  | loading l dest use due =>
    simp only [resume]
    exact uncharged_afterGet rfl
  | copying c use due =>
    cases use with
    | fallback => cases unopened
    | report | buffer => exact uncharged_done rfl
    | restore key dest =>
      simp only [resume, afterCopy]
      split
      · exact uncharged_done rfl
      · exact uncharged_wait rfl rfl rfl
  | sending node key frame use due =>
    cases use with
    | direct => exact uncharged_done rfl
    | fallback => cases unopened
    | writeThrough => cases unmirrored
  | receiving node key use due =>
    cases use with
    | direct => exact uncharged_done rfl
    | fetch dest =>
      simp only [resume]
      exact uncharged_afterReceive rfl
  | probing | resting => exact uncharged_done rfl

theorem begin_of_accepted {call : Call} (accepted : call.isAccepted = true) :
    ∃ key block timeout, call = .offload key block timeout ∧
      d.begin call = (d, .wait (.entering (.put key block .offload))) := by
  cases call with
  | offload key block timeout =>
    refine ⟨key, block, timeout, rfl, ?_⟩
    simp only [Call.isAccepted, Bool.and_eq_true, Bool.not_eq_true', decide_eq_true_eq] at accepted
    simp only [Deployment.begin, refusal?, accepted.1, accepted.2, Bool.false_eq_true, ↓reduceIte]
  | _ => cases accepted

/-- An offload that is refused is answered at once. -/
theorem begin_of_refused {timeout : Option Nat}
    (refused : (Call.offload key block timeout).isAccepted = false) :
    ∃ s, d.begin (.offload key block timeout) = (d, .done (.status s)) := by
  cases checked : refusal? key block.size with
  | some s => exact ⟨s, by simp only [Deployment.begin, checked]⟩
  | none =>
    exfalso
    simp only [Call.isAccepted, Bool.and_eq_false_iff, Bool.not_eq_false',
      decide_eq_false_iff_not, not_not] at refused
    unfold refusal? at checked
    rcases refused with empty | zero
    · simp only [empty, ↓reduceIte, reduceCtorEq] at checked
    · simp only [zero, ↓reduceIte] at checked
      split at checked <;> cases checked

theorem uncharged_begin {call : Call} (other : call.isAccepted = false) :
    Uncharged d.tally (d.begin call) := by
  cases call with
  | offload key block timeout =>
    obtain ⟨s, begun⟩ := begin_of_refused (d := d) other
    rw [begun]
    exact uncharged_done rfl
  | fetch key dest timeout =>
    simp only [Deployment.begin]
    split
    · exact uncharged_done rfl
    · exact uncharged_wait rfl rfl rfl
  | residency keys =>
    cases keys with
    | nil => exact uncharged_done rfl
    | cons key rest => exact uncharged_wait rfl rfl rfl
  | l2Put key data => exact uncharged_sendFor rfl
  | l2Get key =>
    simp only [Deployment.begin]
    split
    · exact uncharged_done rfl
    · exact uncharged_wait rfl rfl rfl
  | l2Exists key => exact uncharged_probe rfl
  | copy c =>
    have started : (d.startCopy c).1.tally = d.tally := rfl
    simp only [Deployment.begin]
    generalize d.startCopy c = r at started ⊢
    obtain ⟨d', e | copying⟩ := r
    · exact uncharged_done (congrArg Tally.count started)
    · exact uncharged_wait (congrArg Tally.count started) rfl rfl
  | readDevice src =>
    have started : (d.startCopy (.read src)).1.tally = d.tally := rfl
    simp only [Deployment.begin]
    generalize d.startCopy (.read src) = r at started ⊢
    obtain ⟨d', e | copying⟩ := r
    · exact uncharged_done (congrArg Tally.count started)
    · exact uncharged_wait (congrArg Tally.count started) rfl rfl
  | _ => exact uncharged_wait rfl rfl rfl

/-- How the counts are after a deadline. -/
theorem count_expire (d : Deployment) (f : Flight) (limit : Limit) :
    (d.expire f limit).1.tally.count =
      if f.stage.isWriteThrough = false ∧ limit.isOffload = true then d.tally.counted .failures
      else d.tally.count := by
  have abandoned : (d.abandon f.id f.stage).tally = d.tally := by
    cases f.stage <;> rfl
  unfold expire
  dsimp only
  cases mirrors : f.stage.isWriteThrough with
  | true =>
    simp only [↓reduceIte, Bool.true_eq_false, false_and]
    funext c
    cases c <;> simp only [countTally, abandoned, Tally.count]
  | false =>
    simp only [Bool.false_eq_true, ↓reduceIte, true_and]
    split <;> funext c <;> cases c <;>
      simp only [countTally, abandoned, Tally.count, Tally.counted, reduceCtorEq, ↓reduceIte,
        Nat.add_zero]

theorem tally_move (d : Deployment) (m : Move) : (d.move m).tally = d.tally := by
  cases m with
  | writeDevice b data =>
    simp only [move]
    cases d.tier.copier.writeDevice b data <;> rfl
  | writePool e data =>
    simp only [move]
    cases d.tier.copier.writePool e data <;> rfl
  | _ => rfl

end Deployment

end BlockTier.Sidecar
