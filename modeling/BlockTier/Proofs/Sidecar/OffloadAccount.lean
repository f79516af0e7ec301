import BlockTier.Proofs.Sidecar.OffloadCounts
import Mathlib.Algebra.BigOperators.Pi
import Mathlib.Algebra.Ring.Int.Defs
/-!
The account of every call. Whatever a step adds to the counts of offloads is put down to its call,
and a call that is answered has its account closed: an offload with one, any other call with none.
-/
namespace BlockTier.Sidecar

/-- What a call has added to each count. -/
abbrev Books := Counter → Int

/-- A call that has been answered. -/
structure Entry where
  call : Call
  answer : Answer
  books : Books

/-- An offload is counted once, as a failure iff its status is one, and no other call is. -/
inductive Entry.Accounted : Entry → Prop
  | offload {call : Call} {s : Status} {c : Counter} (accepted : call.isAccepted = true)
    (told : c = .failures ↔ s.success = false) : Accounted ⟨call, .status s, Pi.single c 1⟩
  | other {call : Call} {a : Answer} (other : call.isAccepted = false) : Accounted ⟨call, a, 0⟩

/-- A call that waits, and what it has added so far. -/
inductive Billed : Ongoing → Books → Prop
  | offload {o : Ongoing} (accepted : o.call.isAccepted = true)
    (timed : ∀ l, o.limit = some l → l.isOffload = true) (here : o.stage.isOpen = true) :
    Billed o 0
  | mirrors {o : Ongoing} (accepted : o.call.isAccepted = true)
    (here : o.stage.isWriteThrough = true) : Billed o (Pi.single .l1 1)
  | other {o : Ongoing} (other : o.call.isAccepted = false)
    (timed : ∀ l, o.limit = some l → l.isOffload = false) (unopened : o.stage.isOpen = false)
    (unmirrored : o.stage.isWriteThrough = false) : Billed o 0

/-- What a turn makes of the call's books. -/
inductive Books.Goes (call : Call) (limit : Option Limit) (b : Books) : Turn → Prop
  | waits {s : Stage} (billed : Billed ⟨call, limit, s⟩ b) : Goes call limit b (.wait s)
  | ends {a : Answer} (accounted : Entry.Accounted ⟨call, a, b⟩) : Goes call limit b (.done a)

namespace Deployment

/-- What has been added to the counts. -/
def spent (d d' : Deployment) : Books := fun c => d'.tally.count c - d.tally.count c

variable {d d' : Deployment}

theorem spent_same (same : d'.tally.count = d.tally.count) : d.spent d' = 0 := by
  funext c
  rw [spent, same, Int.sub_self, Pi.zero_apply]

theorem spent_counted {c : Counter} (counted : d'.tally.count = d.tally.counted c) :
    d.spent d' = Pi.single c 1 := by
  funext c'
  rw [spent, counted, Tally.counted, Pi.single_apply]
  split <;> omega

theorem spent_add (d d' d'' : Deployment) : d.spent d' + d'.spent d'' = d.spent d'' := by
  funext c
  simp only [spent, Pi.add_apply]
  omega

theorem spent_arrive (d d' : Deployment) (id : Nat) (s : Stage) :
    d.spent (d'.arrive id s) = d.spent d' := by
  cases s <;> rfl

end Deployment

namespace Books

variable {d : Deployment} {call : Call} {limit : Option Limit} {r : Deployment × Turn} {b : Books}

theorem goes_of_opens (accepted : call.isAccepted = true)
    (timed : ∀ l, limit = some l → l.isOffload = true) (opens : Opens d.tally r) :
    Goes call limit (d.spent r.1) r.2 := by
  cases opens with
  | waits d' s same here =>
    rw [Deployment.spent_same same]
    exact .waits (.offload accepted timed here)
  | mirrors d' s counted here =>
    rw [Deployment.spent_counted counted]
    exact .waits (.mirrors accepted here)
  | ends d' s c counted told =>
    rw [Deployment.spent_counted counted]
    exact .ends (.offload accepted told)

theorem goes_of_trails (accepted : call.isAccepted = true) (trails : Trails d.tally r) :
    Goes call limit (Pi.single .l1 1 + d.spent r.1) r.2 := by
  cases trails with
  | waits d' s same here =>
    rw [Deployment.spent_same same, add_zero]
    exact .waits (.mirrors accepted here)
  | ends d' s same success =>
    rw [Deployment.spent_same same, add_zero]
    exact .ends (.offload accepted (by simp only [success, reduceCtorEq]))

theorem goes_of_uncharged (other : call.isAccepted = false)
    (timed : ∀ s, r.2 = .wait s → ∀ l, limit = some l → l.isOffload = false)
    (uncharged : Uncharged d.tally r) : Goes call limit (d.spent r.1) r.2 := by
  rw [Deployment.spent_same uncharged.same]
  obtain ⟨d', a | s⟩ := r
  · exact .ends (.other other)
  · obtain ⟨unopened, unmirrored⟩ := uncharged.next s rfl
    exact .waits (.other other (timed s rfl) unopened unmirrored)

end Books

theorem Billed.resume {o : Ongoing} {b : Books} (billed : Billed o b) (d : Deployment) :
    Books.Goes o.call o.limit (b + d.spent (d.resume o.stage).1) (d.resume o.stage).2 := by
  cases billed with
  | offload accepted timed here =>
    rw [zero_add]
    exact Books.goes_of_opens accepted timed (d.opens_resume here)
  | mirrors accepted here => exact Books.goes_of_trails accepted (d.trails_resume here)
  | other other timed unopened unmirrored =>
    rw [zero_add]
    exact Books.goes_of_uncharged other (fun _ _ => timed)
      (d.uncharged_resume unopened unmirrored)

theorem goes_begin (d : Deployment) (call : Call) :
    Books.Goes call (d.limitOf call) (d.spent (d.begin call).1) (d.begin call).2 := by
  cases accepted : call.isAccepted with
  | true =>
    obtain ⟨key, block, timeout, rfl, begun⟩ := Deployment.begin_of_accepted (d := d) accepted
    rw [begun, Deployment.spent_same rfl]
    apply Books.Goes.waits
    apply Billed.offload accepted _ rfl
    intro l limited
    obtain ⟨ms, _, rfl⟩ := Option.map_eq_some_iff.mp limited
    rfl
  | false =>
    apply Books.goes_of_uncharged accepted _ (Deployment.uncharged_begin accepted)
    intro s waits l limited
    cases call with
    | offload key block timeout =>
      obtain ⟨s', begun⟩ := Deployment.begin_of_refused (d := d) accepted
      rw [begun] at waits
      cases waits
    | fetch key dest timeout =>
      obtain ⟨ms, _, rfl⟩ := Option.map_eq_some_iff.mp limited
      rfl
    | _ => cases limited

/-- A deadline closes the account too. One that passes while the block is mirrored is no failure. -/
theorem Billed.expire {call : Call} {limit : Limit} {stage : Stage} {b : Books}
    (billed : Billed ⟨call, some limit, stage⟩ b) (d : Deployment) (id : Nat) :
    Entry.Accounted ⟨call, (d.expire ⟨id, some limit, stage⟩ limit).2,
      b + d.spent (d.expire ⟨id, some limit, stage⟩ limit).1⟩ := by
  have counts := d.count_expire ⟨id, some limit, stage⟩ limit
  dsimp only at counts
  cases billed with
  | offload accepted timed here =>
    have unmirrored := Stage.isWriteThrough_of_isOpen here
    obtain ⟨s, answered, failure, _⟩ := d.failed_of_expire ⟨id, some limit, stage⟩ limit unmirrored
    rw [if_pos ⟨unmirrored, timed limit rfl⟩] at counts
    rw [Deployment.spent_counted counts, answered, zero_add]
    exact .offload accepted (by simp only [failure])
  | mirrors accepted here =>
    dsimp only at here
    rw [if_neg (by simp only [here, Bool.true_eq_false, false_and, not_false_eq_true])] at counts
    rw [Deployment.spent_same counts, add_zero, Deployment.expire]
    simp only [here, ↓reduceIte]
    exact .offload accepted (by simp only [Status.ok, reduceCtorEq])
  | other other timed unopened unmirrored =>
    have untimed := timed limit rfl
    rw [if_neg (by simp only [untimed, Bool.false_eq_true, and_false, not_false_eq_true])] at counts
    rw [Deployment.spent_same counts, add_zero]
    exact .other other

/-- What each call that waits has added, and the calls that have been answered, the last one
first. -/
structure Ledger where
  pending : Nat → Books := 0
  closed : List Entry := []

namespace Ledger

/-- Puts down to its call what a step has added. -/
def post (l : Ledger) (spent : Books) : Event → Ledger
  | .waits id => { l with pending := Function.update l.pending id (l.pending id + spent) }
  | .answers id call a =>
    { pending := Function.update l.pending id 0
      closed := ⟨call, a, l.pending id + spent⟩ :: l.closed }
  | .drops _ | .moves _ => l

/-- Nobody has added anything that is not in the ledger. -/
def Totals (l : Ledger) (spent : Books) : Prop :=
  ∃ ids : Finset Nat, (∀ id ∉ ids, l.pending id = 0) ∧
    spent = (l.closed.map (·.books)).sum + ∑ id ∈ ids, l.pending id

theorem sum_update {ids : Finset Nat} {pending : Nat → Books}
    (outside : ∀ id ∉ ids, pending id = 0) (id : Nat) (b : Books) :
    pending id + ∑ i ∈ insert id ids, Function.update pending id b i =
      b + ∑ i ∈ ids, pending i := by
  have here := Finset.mem_insert_self id ids
  calc pending id + ∑ i ∈ insert id ids, Function.update pending id b i
      = b + (pending id + ∑ i ∈ insert id ids \ {id}, pending i) := by
        rw [Finset.sum_update_of_mem here, add_left_comm]
    _ = b + ∑ i ∈ insert id ids, pending i := by
        rw [← Finset.sum_eq_add_sum_sdiff_singleton_of_mem here]
    _ = b + ∑ i ∈ ids, pending i := by
        rw [Finset.sum_insert_of_eq_zero_if_notMem (outside id)]

theorem update_outside {ids : Finset Nat} {pending : Nat → Books}
    (outside : ∀ id ∉ ids, pending id = 0) (id : Nat) (b : Books) :
    ∀ i ∉ insert id ids, Function.update pending id b i = 0 := by
  intro i absent
  have other : i ≠ id := fun same => absent (same ▸ Finset.mem_insert_self id ids)
  rw [Function.update_of_ne other]
  exact outside i fun there => absent (Finset.mem_insert_of_mem there)

/-- What a step adds to its call's books, or closes them with, stays in the ledger. -/
theorem Totals.post {l : Ledger} {spent more : Books} (totals : l.Totals spent) (id : Nat)
    (b : Books) (entries : List Entry)
    (even : b + (entries.map (·.books)).sum = l.pending id + more) :
    Totals ⟨Function.update l.pending id b, entries ++ l.closed⟩ (spent + more) := by
  obtain ⟨ids, outside, rfl⟩ := totals
  refine ⟨insert id ids, update_outside outside id b, add_left_cancel (a := l.pending id) ?_⟩
  have sum := sum_update outside id b
  calc l.pending id + ((l.closed.map (·.books)).sum + ∑ i ∈ ids, l.pending i + more)
      = l.pending id + more + ((l.closed.map (·.books)).sum + ∑ i ∈ ids, l.pending i) := by
        ac_rfl
    _ = b + ∑ i ∈ ids, l.pending i + ((entries.map (·.books)).sum +
          (l.closed.map (·.books)).sum) := by
        rw [← even]
        ac_rfl
    _ = l.pending id + (((entries ++ l.closed).map (·.books)).sum +
          ∑ i ∈ insert id ids, Function.update l.pending id b i) := by
        rw [← sum, List.map_append, List.sum_append]
        ac_rfl

theorem Totals.settled {l : Ledger} {spent : Books} (totals : l.Totals spent)
    (none : ∀ id, l.pending id = 0) : spent = (l.closed.map (·.books)).sum := by
  obtain ⟨ids, _, rfl⟩ := totals
  rw [Finset.sum_eq_zero fun id _ => none id, add_zero]

end Ledger

namespace Traffic

/-- The ledger of a run in which no call is dropped. -/
inductive Booked (d : Deployment) : Traffic → Ledger → Prop
  | start : Booked d ⟨d, .none⟩ {}
  | step {t t' : Traffic} {e : Event} {l : Ledger} (before : Booked d t l) (step : Step t e t')
    (kept : ∀ id, e ≠ .drops id) : Booked d t' (l.post (t.deployment.spent t'.deployment) e)

/-- Each call is in the ledger with what it has added. -/
structure Bills (t : Traffic) (l : Ledger) : Prop where
  waits : ∀ id o, t.calls id = some o → Billed o (l.pending id)
  absent : ∀ id, t.calls id = none → l.pending id = 0
  closed : ∀ entry ∈ l.closed, entry.Accounted

variable {t t' : Traffic} {l : Ledger} {id : Nat} {d' : Deployment} {call : Call}
  {limit : Option Limit} {spent : Books}

theorem Bills.set {o? : Option Ongoing} {b : Books} {closed : List Entry} (bills : Bills t l)
    (waits : ∀ o, o? = some o → Billed o b) (absent : o? = none → b = 0)
    (accounted : ∀ entry ∈ closed, entry.Accounted) :
    Bills ⟨d', t.calls.set id o?⟩ ⟨Function.update l.pending id b, closed⟩ := by
  refine ⟨fun i o there => ?_, fun i gone => ?_, accounted⟩
  · dsimp only at there ⊢
    by_cases here : i = id
    · rw [here, Calls.set_self] at there
      rw [here, Function.update_self]
      exact waits o there
    · rw [Calls.set_ne _ _ here] at there
      rw [Function.update_of_ne here]
      exact bills.waits i o there
  · dsimp only at gone ⊢
    by_cases here : i = id
    · rw [here, Calls.set_self] at gone
      rw [here, Function.update_self]
      exact absent gone
    · rw [Calls.set_ne _ _ here] at gone
      rw [Function.update_of_ne here]
      exact bills.absent i gone

theorem Bills.waits_on {s : Stage} (bills : Bills t l)
    (goes : Books.Goes call limit (l.pending id + spent) (.wait s)) :
    Bills ⟨d', t.calls.set id (some ⟨call, limit, s⟩)⟩ (l.post spent (.waits id)) := by
  cases goes with
  | waits billed =>
    refine bills.set (fun o same => ?_) (fun absent => nomatch absent) bills.closed
    cases same
    exact billed

theorem Bills.answers {a : Answer} (bills : Bills t l)
    (accounted : Entry.Accounted ⟨call, a, l.pending id + spent⟩) :
    Bills ⟨d', t.calls.set id none⟩ (l.post spent (.answers id call a)) := by
  refine bills.set (fun o absent => nomatch absent) (fun _ => rfl) (fun entry member => ?_)
  rcases List.mem_cons.mp member with rfl | earlier
  · exact accounted
  · exact bills.closed entry earlier

theorem Bills.step {e : Event} (bills : Bills t l) (step : Step t e t')
    (kept : ∀ id, e ≠ .drops id) :
    Bills t' (l.post (t.deployment.spent t'.deployment) e) := by
  cases e with
  | waits id =>
    cases step.comesToWait with
    | begun call d' s fresh begun =>
      have goes := goes_begin t.deployment call
      rw [begun] at goes
      rw [Deployment.spent_arrive]
      apply bills.waits_on
      rw [bills.absent id fresh, zero_add]
      exact goes
    | resumed o d' s waits ready resumed =>
      have goes := (bills.waits id o waits).resume t.deployment
      rw [resumed] at goes
      rw [Deployment.spent_arrive]
      exact bills.waits_on goes
  | answers id call a =>
    cases step.comesToAnswer with
    | begun d' fresh begun =>
      have goes := goes_begin t.deployment call
      rw [begun] at goes
      cases goes with
      | ends accounted =>
        apply bills.answers
        rw [bills.absent id fresh, zero_add]
        exact accounted
    | resumed limit s d' waits ready resumed =>
      have goes := (bills.waits id _ waits).resume t.deployment
      rw [resumed] at goes
      cases goes with
      | ends accounted => exact bills.answers accounted
    | expired limit s waits late answer =>
      rw [← answer]
      exact bills.answers ((bills.waits id _ waits).expire t.deployment id)
  | drops id => exact absurd rfl (kept id)
  | moves m =>
    have same (i : Nat) : t'.calls i = t.calls i := step.calls_eq nofun
    exact ⟨fun i o there => bills.waits i o (same i ▸ there),
      fun i gone => bills.absent i (same i ▸ gone), bills.closed⟩

theorem Step.tally_of_moves {m : Move} (step : Step t (.moves m) t') :
    t'.deployment.tally = t.deployment.tally := by
  generalize moving : Event.moves m = e at step
  cases step with
  | move d calls m' => exact d.tally_move m'
  | start d calls id call fresh =>
    cases turn : (d.begin call).2 <;> rw [turn] at moving <;> cases moving
  | resume d calls id o waits ready =>
    cases turn : (d.resume o.stage).2 <;> rw [turn] at moving <;> cases moving
  | expire | drop => cases moving

theorem Booked.bills {d : Deployment} (booked : Booked d t l) : Bills t l := by
  induction booked with
  | start =>
    have alone (id : Nat) (o : Ongoing) (waits : Calls.none id = some o) : Billed o 0 :=
      nomatch waits
    have unanswered (entry : Entry) (member : entry ∈ []) : entry.Accounted := nomatch member
    exact ⟨alone, fun _ _ => rfl, unanswered⟩
  | step before step kept ih => exact ih.step step kept

theorem Booked.totals {d : Deployment} (booked : Booked d t l) :
    l.Totals (d.spent t.deployment) := by
  induction booked with
  | start => exact ⟨∅, fun _ _ => rfl, Deployment.spent_same rfl⟩
  | @step t t' e l before step kept ih =>
    rw [← Deployment.spent_add d t.deployment t'.deployment]
    cases e with
    | waits id => exact ih.post id _ [] (add_zero _)
    | answers id call a =>
      apply ih.post id 0 [⟨call, a, l.pending id + _⟩]
      rw [List.map_singleton, List.sum_singleton, zero_add]
    | drops id => exact absurd rfl (kept id)
    | moves m =>
      have same := congrArg Tally.count step.tally_of_moves
      rw [Deployment.spent_same same, add_zero]
      exact ih

end Traffic

/-- The three counts together. -/
def Tally.offloads (t : Tally) : Nat := t.offloadsL1 + t.offloadsL2 + t.offloadFailures

theorem Deployment.sum_spent (d d' : Deployment) :
    d.spent d' .l1 + d.spent d' .l2 + d.spent d' .failures =
      d'.tally.offloads - d.tally.offloads := by
  simp only [spent, Tally.count, Tally.offloads]
  omega

/-- An accounted call adds one in all if it is an offload that is not refused, and else none. -/
theorem Entry.Accounted.sum {e : Entry} (accounted : e.Accounted) :
    e.books .l1 + e.books .l2 + e.books .failures = if e.call.isAccepted then 1 else 0 := by
  cases accounted with
  | @offload call s c accepted told =>
    rw [if_pos accepted]
    cases c <;> rfl
  | other other =>
    rw [if_neg (by simp only [other, Bool.false_eq_true, not_false_eq_true])]
    rfl

theorem sum_accounted (entries : List Entry) (accounted : ∀ e ∈ entries, e.Accounted) :
    (entries.map (·.books)).sum .l1 + (entries.map (·.books)).sum .l2 +
      (entries.map (·.books)).sum .failures = entries.countP (·.call.isAccepted) := by
  induction entries with
  | nil => rfl
  | cons e entries ih =>
    have here := (accounted e List.mem_cons_self).sum
    have later := ih fun e member => accounted e (List.mem_cons_of_mem _ member)
    simp only [List.map_cons, List.sum_cons, Pi.add_apply, List.countP_cons]
    cases accepted : e.call.isAccepted <;>
      simp only [accepted, Bool.false_eq_true, ↓reduceIte] at here ⊢ <;> omega

namespace Traffic

/-- Every call that is answered has its account: an offload with a key and a block is counted once,
as a failure iff its status is one, and nothing else is. When all calls have been answered, their
accounts are all that has been added. -/
theorem offload_account {d : Deployment} {t : Traffic} {l : Ledger} (booked : Booked d t l)
    (answered : ∀ id, t.calls id = none) :
    (∀ e ∈ l.closed, e.Accounted) ∧
      d.spent t.deployment = (l.closed.map (·.books)).sum ∧
      t.deployment.tally.offloads =
        d.tally.offloads + l.closed.countP (·.call.isAccepted) := by
  have bills := booked.bills
  have settled := booked.totals.settled fun id => bills.absent id (answered id)
  have added := d.sum_spent t.deployment
  rw [settled, sum_accounted l.closed bills.closed] at added
  exact ⟨bills.closed, settled, by omega⟩

theorem Booked.resume {d d₀ : Deployment} {calls : Calls} {turn : Turn}
    (booked : Booked d ⟨d₀, calls⟩ l) (id : Nat) (o : Ongoing) (waits : calls id = some o)
    (ready : d₀.isReady id o.stage = true) (resumed : d₀.resume o.stage = (d', turn)) :
    Booked d (land calls id o.call o.limit (d', turn))
      (l.post (d₀.spent (land calls id o.call o.limit (d', turn)).deployment)
        (event id o.call turn)) := by
  have step := Step.resume d₀ calls id o waits ready
  rw [resumed] at step
  apply booked.step step
  cases turn <;> exact nofun

/-- An offload waits for the lock while another one copies, until its deadline. -/
theorem offload_account_of_timeout : ∃ d t l, Booked d t l ∧
    l.closed.map (·.call.isAccepted) = [true, true] ∧
      (∀ e ∈ l.closed, e.Accounted) ∧ t.deployment.tally.offloads = 2 := by
  let start : Deployment := .single (.new 2) [1, 2] [0, 0]
  let held : Deployment := { start with lock := ⟨some 0, []⟩ }
  let taken (lock : Lock) (tally : Tally) : Deployment :=
    { start with tier.cache.allocator := ⟨2, 2, [], [], [⟨0, 2⟩]⟩, lock, tally }
  let first : Ongoing :=
    ⟨.offload "a" ⟨0, 0, 2⟩ none, none, .entering (.put "a" ⟨0, 0, 2⟩ .offload)⟩
  let copying : Ongoing := ⟨.offload "a" ⟨0, 0, 2⟩ none, none,
    .storing ⟨"a", ⟨0, 2⟩, .toPool [1, 2] ⟨0, 2⟩, 0⟩ ⟨0, 0, 2⟩ .offload 0⟩
  let second : Ongoing := ⟨.offload "b" ⟨0, 0, 1⟩ (some 0), some ⟨true, 0, 0⟩,
    .entering (.put "b" ⟨0, 0, 1⟩ .offload)⟩
  let late : Tally := { offloadFailures := 1, timeouts := 1 }
  let stored : Deployment :=
    { start with
      tier.cache :=
        { allocator := ⟨2, 2, [], [], [⟨0, 2⟩]⟩
          entries := [("a", ⟨0, 2⟩)]
          recency := [⟨"a", 2⟩]
          counters := { insertions := 1 } }
      tier.copier.pool := [1, 2]
      tier.copier.stats := { toHostBytes := 2, toHostCopies := 1 }
      tally := { late with offloadsL1 := 1 } }
  have takes : held.resume first.stage = (taken ⟨some 0, []⟩ {}, .wait copying.stage) := by cbv
  have stores : (taken ⟨some 0, []⟩ late).resume copying.stage =
      (stored, .done (.status (.ok "stored in L1"))) := by cbv
  have comes : Booked start ⟨held, Calls.none.set 0 (some first)⟩ _ :=
    Booked.start.step (Step.start start .none 0 first.call rfl) (fun _ absent => by cases absent)
  have copies := comes.resume 0 first rfl (by cbv) takes
  have queues : Booked start ⟨taken ⟨some 0, [1]⟩ {}, _⟩ _ :=
    copies.step (Step.start _ _ 1 second.call rfl) (fun _ absent => by cases absent)
  have expires : Booked start ⟨taken ⟨some 0, []⟩ late, _⟩ _ :=
    queues.step (Step.expire _ _ 1 second ⟨true, 0, 0⟩ rfl rfl (by decide))
      (fun _ absent => by cases absent)
  have booked := expires.resume 0 copying rfl (by cbv) stores
  have account := offload_account booked fun id => by
    simp only [land, Calls.set, Calls.none]
    by_cases zero : id = 0
    · rw [if_pos zero]
    · by_cases one : id = 1 <;> simp only [zero, one, ↓reduceIte, ite_self]
  exact ⟨_, _, _, booked, rfl, account.1, account.2.2⟩

end Traffic

end BlockTier.Sidecar
