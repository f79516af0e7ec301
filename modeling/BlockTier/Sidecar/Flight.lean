import BlockTier.Sidecar.Step
/-!
Calls under way. A call that is polled goes on until it waits again or is answered; one whose
deadline has passed while it waits is dropped where it stands, and gives back what it held.
-/
namespace BlockTier.Sidecar

structure Limit where
  isOffload : Bool
  ms : Nat
  expires : Nat
  deriving DecidableEq

structure Flight where
  id : Nat
  limit : Option Limit
  stage : Stage

theorem Stage.rank_pos (s : Stage) : 0 < s.rank := by
  unfold Stage.rank
  split <;> omega

/-- A bound on the waits still to come. -/
def Turn.rank : Turn → Nat
  | .done _ => 0
  | .wait s => s.rank

namespace Deployment

variable (d : Deployment)

theorem rank_endOffload (s : Status) : (d.endOffload s).2.rank = 0 := rfl

theorem rank_afterSend (use : SendUse) (s : Status) : (d.afterSend use s).2.rank = 0 := by
  cases use with
  | direct => rfl
  | fallback => simp only [afterSend]; split <;> rfl
  | writeThrough => rfl

theorem rank_sendFor (key : String) (data : Bytes) (use : SendUse) :
    (d.sendFor key data use).2.rank ≤ 1 := by
  unfold sendFor
  split
  · simp [rank_afterSend]
  · simp [Turn.rank, Stage.rank]

theorem rank_afterPut (key : String) (block : BlockRef) (s : Status) :
    (d.afterPut key block .offload s).2.rank ≤ 2 := by
  simp only [afterPut]
  split
  · split <;> simp [Turn.rank, Stage.rank]
  · split
    · simp [rank_endOffload]
    · simp [Turn.rank, Stage.rank]

theorem rank_afterGet (key : String) (dest : BlockRef) (s : Status) :
    (d.afterGet key dest .fetch s).2.rank ≤ 4 := by
  simp only [afterGet]
  split
  · simp [Turn.rank]
  · split <;> simp [Turn.rank, Stage.rank]

theorem rank_probe (key : String) (use : ProbeUse) (f : Status → Answer) :
    (d.probe key use f).2.rank ≤ 1 := by
  unfold probe
  split <;> simp [Turn.rank, Stage.rank]

theorem rank_afterReceive (key : String) (dest : BlockRef) (s : Status) :
    (d.afterReceive key dest s).2.rank ≤ 3 := by
  unfold afterReceive
  split
  · simp [Turn.rank]
  · split
    · simp [Turn.rank]
    · dsimp only
      split <;> simp [Turn.rank, Stage.rank]

theorem rank_enter (errand : Errand) :
    (d.enter errand).2.rank < (Stage.entering errand).rank := by
  cases errand with
  | put key block use =>
    simp only [enter]
    split
    · cases use with
      | direct | promotion => simp [afterPut, Turn.rank, Stage.rank]
      | offload => have := rank_afterPut; simp only [Stage.rank]; grind
    · cases use <;> simp [Turn.rank, Stage.rank]
  | get key dest use =>
    simp only [enter]
    split
    · cases use with
      | direct => simp [afterGet, Turn.rank, Stage.rank]
      | fetch => have := rank_afterGet; simp only [Stage.rank]; grind
    · cases use <;> simp [Turn.rank, Stage.rank]
  | read key use =>
    cases use with
    | direct => simp [enter, afterRead, Turn.rank, Stage.rank]
    | writeThrough =>
      simp only [enter, Stage.rank]
      cases d.tier.read? key with
      | none => simp [afterRead, Turn.rank]
      | some data => have := rank_sendFor; simp only [afterRead]; grind
  | contains key use =>
    cases use with
    | direct => simp [enter, afterContains, Turn.rank, Stage.rank]
    | check =>
      simp only [enter, afterContains, Stage.rank]
      split
      · simp [Turn.rank]
      · have := rank_probe; grind
    | residency before rest => cases rest <;> simp [enter, afterContains, Turn.rank, Stage.rank]
  | evict | makeRoom | l1Stats | stats => simp [enter, Turn.rank, Stage.rank]

/-- A wait that is over leads to one that is nearer to the answer. -/
theorem rank_resume (s : Stage) : (d.resume s).2.rank < s.rank := by
  cases s with
  | entering errand => exact rank_enter d errand
  | storing storing block use due =>
    simp only [resume]
    cases use with
    | direct | promotion => simp [afterPut, Turn.rank, Stage.rank]
    | offload => have := rank_afterPut; simp only [Stage.rank]; grind
  | loading loading dest use due =>
    simp only [resume]
    cases use with
    | direct => simp [afterGet, Turn.rank, Stage.rank]
    | fetch => have := rank_afterGet; simp only [Stage.rank]; grind
  | copying copying use due =>
    simp only [resume]
    cases use with
    | report | buffer => simp [afterCopy, Turn.rank, Stage.rank]
    | fallback =>
      simp only [afterCopy, Stage.rank]
      split
      · simp [rank_endOffload]
      · have := rank_sendFor; grind
    | restore =>
      simp only [afterCopy, Stage.rank]
      split <;> simp [Turn.rank, Stage.rank]
  | sending => simp [resume, rank_afterSend, Stage.rank]
  | receiving node key use due =>
    cases use with
    | direct => simp [resume, Turn.rank, Stage.rank]
    | fetch => have := rank_afterReceive; simp only [resume, Stage.rank]; grind
  | probing => simp [resume, Turn.rank, Stage.rank]
  | resting => simp [resume, Turn.rank, Stage.rank]

theorem rank_lt_of_resume {d d' : Deployment} {s next : Stage}
    (h : d.resume s = (d', .wait next)) : next.rank < s.rank := by
  have := rank_resume d s
  rw [h] at this
  exact this

def isReady (call : Nat) (s : Stage) : Bool :=
  match s.due? with
  | some due => due ≤ d.now
  | none => d.lock.holder = some call

/-- Comes to a wait. A wait for the lock asks for it. -/
def arrive (call : Nat) : Stage → Deployment
  | .entering _ => { d with lock := d.lock.request call }
  | _ => d

/-- Goes on as far as no waiting is needed. -/
def proceed (d : Deployment) (call : Nat) (s : Stage) : Deployment × Turn :=
  if d.isReady call s then
    match _h : d.resume s with
    | (d', .done a) => (d', .done a)
    | (d', .wait next) => proceed (d'.arrive call next) call next
  else (d, .wait s)
termination_by s.rank
decreasing_by exact rank_lt_of_resume _h

/-- Gives back what a dropped call held. -/
def abandon (call : Nat) : Stage → Deployment
  | .entering _ => { d with lock := d.lock.withdraw call }
  | .storing s _ _ _ => (d.withTier (d.tier.abandonPut s)).unlock
  | .loading .. => d.unlock
  | _ => d

/-- Drops a call at its deadline. A block that is in the first tier stays stored. -/
def expire (f : Flight) (limit : Limit) : Deployment × Answer :=
  let d := (d.abandon f.id f.stage).countTally (fun t => { t with timeouts := t.timeouts + 1 })
  if f.stage.isWriteThrough then (d, .status (.ok "stored in L1 (L2 mirror timed out)"))
  else
    let call := if limit.isOffload then "offload" else "fetch"
    let d :=
      if limit.isOffload then
        d.countTally (fun t => { t with offloadFailures := t.offloadFailures + 1 })
      else d
    (d, .status (.failure .timeout s!"{call} timed out after {limit.ms}ms"))

/-- What comes of a poll: the answer, or the call that still waits. -/
def settle (id : Nat) (limit : Option Limit) : Turn → Deployment × (Answer ⊕ Flight)
  | .done a => (d, .inl a)
  | .wait stage =>
    match limit with
    | some l =>
      if l.expires ≤ d.now then
        let (d, a) := d.expire ⟨id, limit, stage⟩ l
        (d, .inl a)
      else (d, .inr ⟨id, limit, stage⟩)
    | none => (d, .inr ⟨id, limit, stage⟩)

/-- Lets a call go on. What is ready at the deadline still counts. -/
def poll (f : Flight) : Deployment × (Answer ⊕ Flight) :=
  let (d, turn) := d.proceed f.id f.stage
  d.settle f.id f.limit turn

def limitOf : Call → Option Limit
  | .offload _ _ timeout => (timeout <|> d.defaultTimeout).map (fun ms => ⟨true, ms, d.after ms⟩)
  | .fetch _ _ timeout => (timeout <|> d.defaultTimeout).map (fun ms => ⟨false, ms, d.after ms⟩)
  | _ => none

/-- Starts a call and lets it go on as far as no waiting is needed. -/
def start (id : Nat) (c : Call) : Deployment × (Answer ⊕ Flight) :=
  let limit := d.limitOf c
  match d.begin c with
  | (d, .done a) => (d, .inl a)
  | (d, .wait stage) => (d.arrive id stage).poll ⟨id, limit, stage⟩

end Deployment

end BlockTier.Sidecar
