import BlockTier.Proofs.Sidecar.Traffic
import BlockTier.Sidecar.Batch
/-!
A batch of jobs as steps of its calls and moves of the surroundings. Whatever the order in which the
board looks at the jobs, and whenever the loops come round, what the world comes to is what such a
run comes to, and what a call has given is its answer in this run.
-/
namespace BlockTier.Sidecar

namespace Deployment

def moves (d : Deployment) (ms : List Move) : Deployment := ms.foldl move d

theorem moves_append (d : Deployment) (ms ms' : List Move) :
    d.moves (ms ++ ms') = (d.moves ms).moves ms' :=
  List.foldl_append

theorem id_of_settle {d : Deployment} {id : Nat} {limit : Option Limit} {turn : Turn} {f : Flight}
    (flying : (d.settle id limit turn).2 = .inr f) : f.id = id := by
  unfold settle at flying
  split at flying
  · cases flying
  · split at flying
    · split at flying
      · cases flying
      · cases flying
        rfl
    · cases flying
      rfl

theorem id_of_start {d : Deployment} {id : Nat} {c : Call} {f : Flight}
    (flying : (d.start id c).2 = .inr f) : f.id = id := by
  unfold start at flying
  dsimp only at flying
  split at flying
  · cases flying
  · exact id_of_settle flying

end Deployment

namespace Traffic

/-! ### Polls

A poll takes as many steps as need no waiting, and drops the call if it is late. -/

/-- The call as it waits after a poll. -/
def waiting (call : Call) : Answer ⊕ Flight → Option Ongoing
  | .inl _ => none
  | .inr f => some ⟨call, f.limit, f.stage⟩

/-- What a call leaves that has come as far as no waiting is needed. -/
def pause (calls : Calls) (id : Nat) (call : Call) (limit : Option Limit) :
    Deployment × Turn → Traffic
  | (d, .done _) => ⟨d, calls.set id none⟩
  | (d, .wait stage) => ⟨d, calls.set id (some ⟨call, limit, stage⟩)⟩

variable {id : Nat} {call : Call} {limit : Option Limit}

theorem steps_proceed (d : Deployment) (calls : Calls) (stage : Stage)
    (waits : calls id = some ⟨call, limit, stage⟩) :
    ∃ events, Steps Free ⟨d, calls⟩ events (pause calls id call limit (d.proceed id stage)) ∧
      ∀ a, (d.proceed id stage).2 = .done a → .answers id call a ∈ events := by
  induction hn : stage.rank using Nat.strongRecOn generalizing d calls stage with
  | ind n ih =>
    rw [Deployment.proceed]
    by_cases ready : d.isReady id stage = true
    · rw [if_pos ready]
      have step := Step.resume d calls id ⟨call, limit, stage⟩ waits ready
      split
      · rename_i d' a resumed
        rw [resumed] at step
        refine ⟨_, .step step trivial (.refl _), fun a' same => ?_⟩
        cases same
        exact List.mem_cons_self
      · rename_i d' next resumed
        rw [resumed] at step
        have lower := Deployment.rank_lt_of_resume resumed
        obtain ⟨events, steps, answered⟩ := ih next.rank (hn ▸ lower) (d'.arrive id next)
          (calls.set id (some ⟨call, limit, next⟩)) next (Calls.set_self ..) rfl
        refine ⟨_, .step step trivial ?_, fun a same => List.mem_cons_of_mem _ (answered a same)⟩
        have same : pause (calls.set id (some ⟨call, limit, next⟩)) id call limit =
            pause calls id call limit := by
          funext r
          obtain ⟨d, turn⟩ := r
          cases turn <;> simp only [pause, Calls.set_set]
        exact same ▸ steps
    · rw [if_neg ready]
      refine ⟨[], ?_, fun a absent => by cases absent⟩
      have same : calls.set id (some ⟨call, limit, stage⟩) = calls := waits ▸ calls.set_eq id
      rw [pause, same]
      exact .refl _

theorem steps_settle (d : Deployment) (calls : Calls) (id : Nat) (call : Call)
    (limit : Option Limit) (turn : Turn) :
    ∃ events, Steps Free (pause calls id call limit (d, turn)) events
        ⟨(d.settle id limit turn).1, calls.set id (waiting call (d.settle id limit turn).2)⟩ ∧
      ∀ a, (d.settle id limit turn).2 = .inl a → turn = .done a ∨ .answers id call a ∈ events := by
  cases turn with
  | done a =>
    refine ⟨[], .refl _, fun a' same => ?_⟩
    cases same
    exact Or.inl rfl
  | wait stage =>
    cases limit with
    | none => exact ⟨[], .refl _, fun a absent => nomatch absent⟩
    | some limit =>
      simp only [Deployment.settle]
      by_cases late : limit.expires ≤ d.now
      · rw [if_pos late]
        have step := Step.expire d (calls.set id (some ⟨call, some limit, stage⟩)) id
          ⟨call, some limit, stage⟩ limit (Calls.set_self ..) rfl late
        rw [Calls.set_set] at step
        refine ⟨_, .step step trivial (.refl _), fun a same => ?_⟩
        cases same
        exact Or.inr List.mem_cons_self
      · rw [if_neg late]
        exact ⟨[], .refl _, fun a absent => nomatch absent⟩

/-- A poll is a number of steps, and what it answers is an answer of one of them. -/
theorem steps_poll (d : Deployment) (calls : Calls) (stage : Stage)
    (waits : calls id = some ⟨call, limit, stage⟩) :
    ∃ events, Steps Free ⟨d, calls⟩ events
        ⟨(d.poll ⟨id, limit, stage⟩).1, calls.set id (waiting call (d.poll ⟨id, limit, stage⟩).2)⟩ ∧
      ∀ a, (d.poll ⟨id, limit, stage⟩).2 = .inl a → .answers id call a ∈ events := by
  obtain ⟨first, proceeds, done⟩ := steps_proceed d calls stage waits
  obtain ⟨second, settles, answered⟩ :=
    steps_settle (d.proceed id stage).1 calls id call limit (d.proceed id stage).2
  refine ⟨first ++ second, proceeds.trans settles, fun a same => ?_⟩
  rcases answered a same with same | member
  · exact List.mem_append_left _ (done a same)
  · exact List.mem_append_right _ member

theorem steps_start (d : Deployment) (calls : Calls) (call : Call) (fresh : calls id = none) :
    ∃ events, Steps Free ⟨d, calls⟩ events
        ⟨(d.start id call).1, calls.set id (waiting call (d.start id call).2)⟩ ∧
      ∀ a, (d.start id call).2 = .inl a → .answers id call a ∈ events := by
  have step := Step.start d calls id call fresh
  unfold Deployment.start
  split
  · rename_i d' a begun
    rw [begun] at step
    refine ⟨_, .step step trivial (.refl _), fun a' same => ?_⟩
    cases same
    exact List.mem_cons_self
  · rename_i d' stage begun
    rw [begun] at step
    obtain ⟨events, steps, answered⟩ := steps_poll (d'.arrive id stage)
      (calls.set id (some ⟨call, d.limitOf call, stage⟩)) stage (Calls.set_self ..)
    rw [Calls.set_set] at steps
    exact ⟨_, .step step trivial steps, fun a same => List.mem_cons_of_mem _ (answered a same)⟩

theorem steps_moves (d : Deployment) (calls : Calls) (ms : List Move) :
    Steps Free ⟨d, calls⟩ (ms.map .moves) ⟨d.moves ms, calls⟩ := by
  induction ms generalizing d with
  | nil => exact .refl _
  | cons m rest ih => exact .step (.move d calls m) trivial (ih (d.move m))

end Traffic

open Traffic

/-! ### Loops -/

namespace World

theorem setNow_eq (w : World) (time : Nat) :
    (w.setNow time).deployment = w.deployment.move (.pass (time - w.deployment.now)) := by
  have later : max w.deployment.now time = w.deployment.now + (time - w.deployment.now) := by omega
  simp only [setNow, Deployment.move, later]

theorem exists_moves_work (d : Deployment) (l : Loop) : ∃ ms, work d l = d.moves ms := by
  unfold work
  split
  · exact ⟨[], rfl⟩
  · exact ⟨[], rfl⟩
  · exact ⟨[.sweep], rfl⟩
  · exact ⟨[.refresh], rfl⟩
  · exact ⟨[.close], rfl⟩

theorem exists_moves_tick (w : World) (l : Loop) (others : List Loop) :
    ∃ ms, (w.tick l others).deployment = w.deployment.moves ms := by
  obtain ⟨ms, worked⟩ := exists_moves_work (w.setNow l.ticker.due).deployment l
  rw [setNow_eq] at worked
  refine ⟨.pass (l.ticker.due - w.deployment.now) :: ms, ?_⟩
  rw [tick, setNow_eq]
  exact worked

theorem exists_moves_runLoops (w : World) (time : Nat) :
    ∃ ms, (w.runLoops time).deployment = w.deployment.moves ms := by
  induction w using runLoops.induct time with
  | case1 w none =>
    refine ⟨[], ?_⟩
    rw [runLoops]
    split
    · rfl
    · rename_i next
      rw [none] at next
      cases next
  | case2 w l others next ih =>
    obtain ⟨first, ticked⟩ := w.exists_moves_tick l others
    obtain ⟨ms, ran⟩ := ih
    refine ⟨first ++ ms, ?_⟩
    rw [Deployment.moves_append, ← ticked, ← ran, runLoops]
    split
    · rename_i none
      rw [next] at none
      cases none
    · rename_i next'
      rw [next] at next'
      cases next'
      rfl

end World

variable {α : Type} {id : Nat} {events : List Event} {j : Job α} {jobs : List (Job α)} {s : Slot α}

/-- An act does to the deployment what some moves do. -/
def Job.Moves : Job α → Prop
  | .call _ => True
  | .act f => ∀ w, ∃ ms, (f w).1.deployment = w.deployment.moves ms

/-! ### Jobs -/

/-- The job has come to the result. The answer of a call is one of the events. -/
inductive Yields (events : List Event) (id : Nat) : Job α → Result α → Prop
  | answered (c : Call) (a : Answer) (member : .answers id c a ∈ events) :
    Yields events id (.call c) (.inl a)
  | done (f : World → World × Outcome α) (x : α) : Yields events id (.act f) (.inr x)

/-- The slot is where the job has come to. -/
inductive Tracks (events : List Event) (id : Nat) : Job α → Slot α → Prop
  | pending (j : Job α) : Tracks events id j (.pending j)
  | flying (c : Call) (f : Flight) (started since : Nat) (own : f.id = id) :
    Tracks events id (.call c) (.flying f started since)
  | givingWay (j : Job α) (r : Result α) (since : Nat) (yields : Yields events id j r) :
    Tracks events id j (.givingWay r since)
  | landed (j : Job α) (r : Result α) (yields : Yields events id j r) :
    Tracks events id j (.landed r)

theorem Yields.mono {events events' : List Event} {r : Result α} (yields : Yields events id j r)
    (more : ∀ e ∈ events, e ∈ events') : Yields events' id j r := by
  cases yields with
  | answered c a member => exact .answered c a (more _ member)
  | done f x => exact .done f x

theorem Tracks.mono {events events' : List Event} (tracks : Tracks events id j s)
    (more : ∀ e ∈ events, e ∈ events') : Tracks events' id j s := by
  cases tracks with
  | pending j => exact .pending j
  | flying c f started since own => exact .flying c f started since own
  | givingWay j r since yields => exact .givingWay j r since (yields.mono more)
  | landed j r yields => exact .landed j r (yields.mono more)

/-- The call of the job while it is under way. -/
def Slot.ongoing? : Job α → Slot α → Option Ongoing
  | .call c, .flying f _ _ => some ⟨c, f.limit, f.stage⟩
  | _, _ => none

theorem ongoing?_act (f : World → World × Outcome α) (s : Slot α) : s.ongoing? (.act f) = none := by
  cases s <;> rfl

theorem ongoing?_landed (j : Job α) (r : Result α) : Slot.ongoing? j (.landed r) = none := by
  cases j <;> rfl

theorem ongoing?_givingWay (j : Job α) (r : Result α) (since : Nat) :
    Slot.ongoing? j (.givingWay r since) = none := by
  cases j <;> rfl

theorem ongoing?_ofPoll (c : Call) (started since look : Nat) (r : Answer ⊕ Flight) :
    Slot.ongoing? (.call c : Job α) (.ofPoll started since look r) = waiting c r := by
  cases r with
  | inl a => cases a <;> rfl
  | inr f => rfl

theorem tracks_ofPoll {c : Call} {r : Answer ⊕ Flight} (own : ∀ f, r = .inr f → f.id = id)
    (answered : ∀ a, r = .inl a → .answers id c a ∈ events) (started since look : Nat) :
    Tracks events id (.call c : Job α) (.ofPoll started since look r) := by
  cases r with
  | inl a =>
    have yields : Yields events id (.call c : Job α) (.inl a) := .answered c a (answered a rfl)
    cases a with
    | rested => exact .givingWay _ _ _ yields
    | _ => exact .landed _ _ yields
  | inr f => exact .flying c f started since (own f rfl)

/-- A look at a job is a number of steps. -/
theorem Tracks.poll (tracks : Tracks events id j s) (moves : j.Moves) (w : World) (calls : Calls)
    (waits : calls id = s.ongoing? j) (look : Nat) :
    ∃ later, Steps Free ⟨w.deployment, calls⟩ later
        ⟨(s.poll look id w).1.deployment, calls.set id ((s.poll look id w).2.ongoing? j)⟩ ∧
      Tracks (events ++ later) id j (s.poll look id w).2 := by
  have still (idle : calls id = none) : calls.set id none = calls := idle ▸ calls.set_eq id
  cases tracks with
  | pending j =>
    cases j with
    | call c =>
      obtain ⟨later, steps, answered⟩ := steps_start w.deployment calls c waits
      refine ⟨later, ?_, tracks_ofPoll (fun _ => Deployment.id_of_start)
        (fun a same => List.mem_append_right _ (answered a same)) _ _ _⟩
      rwa [← ongoing?_ofPoll (α := α) c look look look] at steps
    | act f =>
      obtain ⟨ms, moved⟩ := moves w
      have steps := steps_moves w.deployment calls ms
      rw [← moved] at steps
      refine ⟨ms.map .moves, ?_, ?_⟩
      · rw [Slot.poll, ongoing?_act, still waits]
        exact steps
      · simp only [Slot.poll]
        split
        · exact .givingWay _ _ _ (.done f _)
        · exact .landed _ _ (.done f _)
  | flying c f started since own =>
    subst own
    obtain ⟨later, steps, answered⟩ := steps_poll w.deployment calls f.stage waits
    refine ⟨later, ?_, tracks_ofPoll (fun _ => Deployment.id_of_settle)
      (fun a same => List.mem_append_right _ (answered a same)) _ _ _⟩
    simp only [Slot.poll]
    rwa [ongoing?_ofPoll]
  | givingWay j r since yields =>
    refine ⟨[], ?_, .landed j r (yields.mono fun _ => List.mem_append_left _)⟩
    rw [ongoing?_givingWay] at waits
    simp only [Slot.poll, ongoing?_landed, still waits]
    exact .refl _
  | landed j r yields =>
    refine ⟨[], ?_, .landed j r (yields.mono fun _ => List.mem_append_left _)⟩
    rw [ongoing?_landed] at waits
    simp only [Slot.poll, ongoing?_landed, still waits]
    exact .refl _

namespace Board

variable {start : Deployment} {b : Board α}

/-- The calls of the jobs that are under way. -/
def ongoing (jobs : List (Job α)) (slots : List (Slot α)) : Calls := fun id =>
  match jobs[id]?, slots[id]? with
  | some j, some s => s.ongoing? j
  | _, _ => none

theorem ongoing_set {slots : List (Slot α)} (job : jobs[id]? = some j)
    (below : id < slots.length) (s : Slot α) :
    ongoing jobs (slots.set id s) = (ongoing jobs slots).set id (s.ongoing? j) := by
  funext i
  by_cases same : i = id
  · subst same
    rw [Calls.set_self, ongoing, job, List.getElem?_set_self below]
  · rw [Calls.set_ne _ _ same, ongoing, List.getElem?_set_ne (Ne.symm same), ongoing]

/-- A run has come to where the board is. -/
structure Reached (start : Deployment) (jobs : List (Job α)) (events : List Event) (b : Board α) :
    Prop where
  steps : Steps Free ⟨start, .none⟩ events ⟨b.world.deployment, ongoing jobs b.slots⟩
  tracks : ∀ id s, b.slots[id]? = some s → ∃ j, jobs[id]? = some j ∧ Tracks events id j s

/-- Some run comes to where the board is. -/
def Follows (start : Deployment) (jobs : List (Job α)) (b : Board α) : Prop :=
  ∃ events, Reached start jobs events b

theorem Follows.moved (follows : Follows start jobs b) {w : World}
    (moved : ∃ ms, w.deployment = b.world.deployment.moves ms) :
    Follows start jobs { b with world := w } := by
  obtain ⟨events, reached⟩ := follows
  obtain ⟨ms, moved⟩ := moved
  have steps := steps_moves b.world.deployment (ongoing jobs b.slots) ms
  rw [← moved] at steps
  refine ⟨events ++ ms.map .moves, reached.steps.trans steps, fun id s slot => ?_⟩
  obtain ⟨j, job, tracks⟩ := reached.tracks id s slot
  exact ⟨j, job, tracks.mono fun _ => List.mem_append_left _⟩

theorem Follows.wake (follows : Follows start jobs b) (look? : Slot α → Option Nat) :
    Follows start jobs (b.wake look?) := by
  obtain ⟨events, reached⟩ := follows
  exact ⟨events, reached.steps, reached.tracks⟩

theorem pollJob_eq (slot : b.slots[id]? = some s) :
    (b.pollJob id).world = (s.poll b.looks id b.world).1 ∧
      (b.pollJob id).slots = b.slots.set id (s.poll b.looks id b.world).2 := by
  rw [Board.pollJob, slot]
  exact ⟨rfl, rfl⟩

theorem Follows.pollJob (follows : Follows start jobs b) (moves : ∀ j ∈ jobs, j.Moves) (id : Nat) :
    Follows start jobs (b.pollJob id) := by
  cases slot : b.slots[id]? with
  | none =>
    rw [Board.pollJob, slot]
    exact follows
  | some s =>
    obtain ⟨events, reached⟩ := follows
    obtain ⟨j, job, tracks⟩ := reached.tracks id s slot
    obtain ⟨below, _⟩ := List.getElem?_eq_some_iff.mp slot
    have waits : ongoing jobs b.slots id = s.ongoing? j := by rw [ongoing, job, slot]
    obtain ⟨later, steps, polled⟩ :=
      tracks.poll (moves j (List.mem_of_getElem? job)) b.world _ waits b.looks
    obtain ⟨world, slots⟩ := pollJob_eq slot
    rw [← ongoing_set job below] at steps
    refine ⟨events ++ later, ?_, fun i s' slot' => ?_⟩
    · rw [world, slots]
      exact reached.steps.trans steps
    · rw [slots] at slot'
      by_cases same : i = id
      · subst same
        rw [List.getElem?_set_self below] at slot'
        cases slot'
        exact ⟨j, job, polled⟩
      · rw [List.getElem?_set_ne (Ne.symm same)] at slot'
        obtain ⟨j', job', tracks'⟩ := reached.tracks i s' slot'
        exact ⟨j', job', tracks'.mono fun _ => List.mem_append_left _⟩

/-- The looks at a group are looks at its jobs, in whatever order they come. -/
theorem follows_poll (moves : ∀ j ∈ jobs, j.Moves) (fuel : Nat) :
    (∀ (batch : Batch Nat) (b : Board α), Follows start jobs b →
        Follows start jobs (poll fuel batch b)) ∧
      ∀ (members : List (Batch Nat)) (turns : Turns) (b : Board α), Follows start jobs b →
        Follows start jobs (serve fuel members turns b) := by
  induction fuel with
  | zero =>
    refine ⟨fun batch b follows => ?_, fun members turns b follows => ?_⟩
    · rw [poll]
      exact follows
    · rw [serve]
      exact follows
  | succ fuel ih =>
    obtain ⟨polled, served⟩ := ih
    refine ⟨fun batch b follows => ?_, fun members turns b follows => ?_⟩
    · cases batch with
      | one id =>
        rw [poll]
        exact follows.pollJob moves id
      | group members =>
        rw [poll]
        split
        · exact List.foldlRecOn members _ follows fun b follows m _ => polled m b follows
        · exact served members _ b follows
    · rw [serve]
      dsimp only
      split
      · exact follows
      · rename_i m next
        have next := polled m b follows
        split
        · exact served members _ _ next
        · split
          · exact next
          · exact served members _ _ next

theorem Follows.giveWay (follows : Follows start jobs b) : Follows start jobs b.giveWay :=
  (follows.moved (b.world.exists_moves_runLoops _)).wake _

theorem Follows.skip? (follows : Follows start jobs b) {b' : Board α} (skips : b.skip? = some b') :
    Follows start jobs b' := by
  obtain ⟨time, _, rfl⟩ := Option.map_eq_some_iff.mp skips
  obtain ⟨ms, ran⟩ := b.world.exists_moves_runLoops (time - 1)
  refine (follows.moved ⟨ms ++ [.pass (time - (b.world.runLoops (time - 1)).deployment.now)],
    ?_⟩).wake _
  rw [World.setNow_eq, Deployment.moves_append, ← ran]
  rfl

theorem Follows.advance (follows : Follows start jobs b) (moves : ∀ j ∈ jobs, j.Moves)
    (fuel : Nat) (batch : Batch Nat) : Follows start jobs (advance fuel batch b) := by
  induction fuel generalizing b with
  | zero => exact follows
  | succ fuel ih =>
    have looked := (follows_poll moves (b.rank + batch.size + 1)).1 batch b follows
    rw [Board.advance]
    dsimp only
    split
    · exact looked
    · split
      · split
        · exact looked.giveWay
        · rename_i b' skips
          exact ih (looked.giveWay.skip? skips)
      · exact ih looked.giveWay

end Board

/-- What a batch comes to is what a run of its calls and of moves comes to, and each result is the
answer of a call in this run or what an act has given. -/
theorem World.steps_of_run (w : World) (batch : Batch (Job α))
    (moves : ∀ j ∈ batch.leaves, j.Moves) :
    ∃ events calls, Steps Free ⟨w.deployment, .none⟩ events ⟨(w.run batch).1.deployment, calls⟩ ∧
      ∀ r ∈ (w.run batch).2, ∃ id j, batch.leaves[id]? = some j ∧ Yields events id j r := by
  let b : Board α :=
    { world := w
      slots := batch.leaves.map Slot.pending
      woken := List.range (batch.leaves.map (Slot.pending (α := α))).length }
  have idle : Board.ongoing batch.leaves b.slots = .none := by
    funext id
    simp only [Board.ongoing, b, List.getElem?_map]
    cases batch.leaves[id]? with
    | none => rfl
    | some j => cases j <;> rfl
  have follows : Board.Follows w.deployment batch.leaves b := by
    refine ⟨[], idle ▸ .refl _, fun id s slot => ?_⟩
    obtain ⟨j, job, rfl⟩ := Option.map_eq_some_iff.mp (List.getElem?_map .. ▸ slot)
    exact ⟨j, job, .pending j⟩
  obtain ⟨events, steps, tracks⟩ := follows.advance moves (b.rank + 1) (batch.number 0)
  refine ⟨events, _, steps, fun r result => ?_⟩
  obtain ⟨s, member, landed⟩ := List.mem_filterMap.mp result
  obtain ⟨id, slot⟩ := List.mem_iff_getElem?.mp member
  obtain ⟨j, job, tracks⟩ := tracks id s slot
  cases tracks with
  | landed j r' yields =>
    cases landed
    exact ⟨id, j, job, yields⟩
  | pending | flying | givingWay => cases landed

end BlockTier.Sidecar
