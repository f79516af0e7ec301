import BlockTier.Proofs.L1.Turns
import BlockTier.Proofs.Sidecar.Discipline
/-!
Calls on the first tier in one order. Whatever runs beside it and wherever it is dropped, a call
does what it would do alone, at the time at which it gets the lock.
-/
namespace BlockTier

namespace L1.Tier

/-- A put with the copy that it may have to wait for. -/
def put (t : Tier) (key : String) (block : BlockRef) : Tier × Status :=
  match t.beginPut key block with
  | (t, .inl s) => (t, s)
  | (t, .inr storing) => t.finishPut storing

def get (t : Tier) (key : String) (dest : BlockRef) : Tier × Status :=
  match t.beginGet key dest with
  | (t, .inl s) => (t, s)
  | (t, .inr loading) => t.finishGet loading

/-- What a put leaves that is dropped while it copies: it has made room, and no more. -/
def makeRoomFor (t : Tier) (key : String) (size : Nat) : Tier :=
  { t with cache := t.cache.after (t.cache.turnsToPut key size) }

end L1.Tier

namespace Sidecar

open L1

namespace Call

/-- What a call on the first tier takes the lock for. -/
def errand? : Call → Option Errand
  | l1Put key block => some (.put key block .direct)
  | l1Get key dest => some (.get key dest .direct)
  | l1Read key => some (.read key .direct)
  | l1Evict key => some (.evict key)
  | makeRoom needed => some (.makeRoom needed)
  | _ => none

/-- What a call on the first tier does when no other one runs. -/
def alone? (t : Tier) : Call → Option (Tier × Answer)
  | l1Put key block => some ((t.put key block).1, .status (t.put key block).2)
  | l1Get key dest => some ((t.get key dest).1, .status (t.get key dest).2)
  | l1Read key => some (t, .bytes (t.read? key))
  | l1Evict key => some ((t.evict key).1, .flag (t.evict key).2)
  | makeRoom needed => some ((t.makeRoom needed).1, .status (t.makeRoom needed).2)
  | _ => none

end Call

/-- What has become of a call that has got the lock. -/
inductive Fate
  | copying
  | answered (a : Answer)
  | dropped

structure Visit where
  id : Nat
  call : Call
  fate : Fate

/-- What the caller of the visit has been told. -/
def Visit.answer? (v : Visit) : Option (Nat × Call × Answer) :=
  match v.fate with
  | .answered a => some (v.id, v.call, a)
  | _ => none

/-- What an event tells a caller. -/
def Event.answer? : Event → Option (Nat × Call × Answer)
  | answers id call a => some (id, call, a)
  | _ => none

/-- The visits one at a time, the latest one first. -/
inductive Serial (first : Tier) : List Visit → Tier → Prop
  | none : Serial first [] first
  | answered {log : List Visit} {t t' : Tier} {call : Call} {a : Answer} (id : Nat)
    (before : Serial first log t) (alone : call.alone? t = some (t', a)) :
    Serial first (⟨id, call, .answered a⟩ :: log) t'
  | droppedPut {log : List Visit} {t : Tier} (id : Nat) (key : String) (block : BlockRef)
    (before : Serial first log t) :
    Serial first (⟨id, .l1Put key block, .dropped⟩ :: log) (t.makeRoomFor key block.size)
  | droppedGet {log : List Visit} {t : Tier} (id : Nat) (key : String) (dest : BlockRef)
    (before : Serial first log t) :
    Serial first (⟨id, .l1Get key dest, .dropped⟩ :: log) t

/-- The latest visit of a call has come to its end. -/
def endVisit (id : Nat) (fate : Fate) : List Visit → List Visit
  | [] => []
  | v :: log => if v.id = id then { v with fate } :: log else v :: endVisit id fate log

namespace Traffic

/-- Writes down which call gets the lock and how it ends. A call that is dropped before is left
out. -/
def record (t : Traffic) (e : Event) (log : List Visit) : List Visit :=
  match e.actor?.bind t.calls, e with
  | some ⟨call, _, .entering _⟩, .waits id => ⟨id, call, .copying⟩ :: log
  | some ⟨_, _, .entering _⟩, .answers id call a => ⟨id, call, .answered a⟩ :: log
  | some ⟨_, _, .entering _⟩, _ => log
  | some _, .answers id _ a => endVisit id (.answered a) log
  | some _, .drops id => endVisit id .dropped log
  | _, _ => log

/-- Only calls on the first tier run, and nothing else writes the pool or a device. -/
def Local (_ : Traffic) (e : Event) (t' : Traffic) : Prop :=
  match e with
  | .waits id => ∀ o, t'.calls id = some o → o.call.errand?.isSome
  | .answers _ call _ => call.errand?.isSome
  | .drops _ => True
  | .moves (.writeDevice ..) | .moves (.writePool ..) => False
  | .moves _ => True

/-- Steps from a traffic on which no call waits, with their events, latest first, and the record
of the visits. -/
inductive Recorded (start : Deployment) : List Event → Traffic → List Visit → Prop
  | start : Recorded start [] ⟨start, .none⟩ []
  | step {events : List Event} {t t' : Traffic} {e : Event} {log : List Visit}
    (before : Recorded start events t log) (step : Step t e t') (here : Local t e t') :
    Recorded start (e :: events) t' (record t e log)

end Traffic

/-! ### A call alone -/

variable {d d' : Deployment} {t t' : Tier} {key : String} {block dest : BlockRef} {call : Call}
  {errand : Errand}

theorem put_of_waits {s : Storing} (begun : t.beginPut key block = (t', .inr s)) :
    t.put key block = t'.finishPut s := by rw [Tier.put, begun]

theorem get_of_waits {l : Loading} (begun : t.beginGet key dest = (t', .inr l)) :
    t.get key dest = t'.finishGet l := by rw [Tier.get, begun]

/-- A put that is dropped gives back its extent, and so leaves what its turns have left. -/
theorem abandonPut_beginPut (consistent : t.cache.Consistent none) {s : Storing}
    (begun : t.beginPut key block = (t', .inr s)) :
    t'.abandonPut s = t.makeRoomFor key block.size := by
  have begins := t.beginPut_begins key block
  rw [begun] at begins
  cases begins with
  | reading e evicted data taken read size =>
    have dropped := Cache.dropPut_beginPut consistent taken
    rw [Tier.abandonPut, Tier.makeRoomFor]
    simp only [dropped]

theorem eq_of_beginGet {l : Loading} (begun : t.beginGet key dest = (t', .inr l)) : t' = t := by
  have begins := t.beginGet_begins key dest
  rw [begun] at begins
  cases begins with
  | reading e data found read => rfl

theorem begin_of_errand (is : call.errand? = some errand) :
    d.begin call = (d, .wait (.entering errand)) ∧ d.limitOf call = none := by
  cases call <;> cases is <;> exact ⟨rfl, rfl⟩

/-- How a call on the first tier goes on when it gets the lock. -/
inductive Enters (d : Deployment) : Call → Deployment × Turn → Prop
  | answered {call : Call} {d' : Deployment} {a : Answer}
    (alone : call.alone? d.tier = some (d'.tier, a)) : Enters d call (d', .done a)
  | storing {key : String} {block : BlockRef} {d' : Deployment} {s : Storing} (due : Nat)
    (begun : d.tier.beginPut key block = (d'.tier, .inr s)) :
    Enters d (.l1Put key block) (d', .wait (.storing s block .direct due))
  | loading {key : String} {dest : BlockRef} {d' : Deployment} {l : Loading} (due : Nat)
    (begun : d.tier.beginGet key dest = (d'.tier, .inr l)) :
    Enters d (.l1Get key dest) (d', .wait (.loading l dest .direct due))

theorem enters_of_errand (is : call.errand? = some errand) : Enters d call (d.enter errand) := by
  cases call with
  | l1Put key block =>
    cases is
    simp only [Deployment.enter]
    cases begun : d.tier.beginPut key block with
    | mk tier out =>
      cases out with
      | inl s =>
        apply Enters.answered
        simp only [Call.alone?, Tier.put, begun]
        rfl
      | inr s => exact .storing _ begun
  | l1Get key dest =>
    cases is
    simp only [Deployment.enter]
    cases begun : d.tier.beginGet key dest with
    | mk tier out =>
      cases out with
      | inl s =>
        apply Enters.answered
        simp only [Call.alone?, Tier.get, begun]
        rfl
      | inr l => exact .loading _ begun
  | l1Read key | l1Evict key | makeRoom needed =>
    cases is
    exact .answered rfl
  | _ => cases is

namespace Traffic

/-! ### The invariant -/

/-- Where a call on the first tier waits. -/
inductive Placed : Ongoing → Prop
  | entering {call : Call} {errand : Errand} (is : call.errand? = some errand) :
    Placed ⟨call, none, .entering errand⟩
  | storing (key : String) (block : BlockRef) (s : Storing) (due : Nat) :
    Placed ⟨.l1Put key block, none, .storing s block .direct due⟩
  | loading (key : String) (dest : BlockRef) (l : Loading) (due : Nat) :
    Placed ⟨.l1Get key dest, none, .loading l dest .direct due⟩

/-- The tier is as the visits one at a time have left it, and one more may have begun to copy. -/
inductive Stands (first : Tier) : Traffic → List Visit → Prop
  | quiet {t : Traffic} {log : List Visit}
    (idle : ∀ id o, t.calls id = some o → o.stage.work = .idle)
    (serial : Serial first log t.deployment.tier) : Stands first t log
  | storing {t : Traffic} {log : List Visit} {before : Tier} {id : Nat} {key : String}
    {block : BlockRef} {s : Storing} {due : Nat}
    (waits : t.calls id = some ⟨.l1Put key block, none, .storing s block .direct due⟩)
    (serial : Serial first log before) (consistent : before.cache.Consistent none)
    (begun : before.beginPut key block = (t.deployment.tier, .inr s)) :
    Stands first t (⟨id, .l1Put key block, .copying⟩ :: log)
  | loading {t : Traffic} {log : List Visit} {before : Tier} {id : Nat} {key : String}
    {dest : BlockRef} {l : Loading} {due : Nat}
    (waits : t.calls id = some ⟨.l1Get key dest, none, .loading l dest .direct due⟩)
    (serial : Serial first log before)
    (begun : before.beginGet key dest = (t.deployment.tier, .inr l)) :
    Stands first t (⟨id, .l1Get key dest, .copying⟩ :: log)

structure Serialized (first : Tier) (events : List Event) (t : Traffic) (log : List Visit) :
    Prop where
  placed : ∀ id o, t.calls id = some o → Placed o
  stands : Stands first t log
  answers : log.filterMap Visit.answer? = events.filterMap Event.answer?

variable {first : Tier} {calls : Calls} {log : List Visit} {events : List Event} {id : Nat}
  {o : Ongoing} {capacity : Nat}

theorem Stands.serial (stands : Stands first ⟨d, calls⟩ log)
    (idle : ∀ id o, calls id = some o → o.stage.work = .idle) : Serial first log d.tier := by
  cases stands with
  | quiet _ serial => exact serial
  | storing waits serial consistent begun => exact nomatch idle _ _ waits
  | loading waits serial begun => exact nomatch idle _ _ waits

/-- A call that comes, or goes, without working in the tier. -/
theorem Stands.set (stands : Stands first ⟨d, calls⟩ log) (tier : d'.tier = d.tier)
    (was : ∀ o, calls id = some o → o.stage.work = .idle) {next : Option Ongoing}
    (is : ∀ o ∈ next, o.stage.work = .idle) : Stands first ⟨d', calls.set id next⟩ log := by
  have kept {i : Nat} {o : Ongoing} (waits : calls i = some o) (busy : o.stage.work ≠ .idle) :
      calls.set id next i = some o := by
    have other : i ≠ id := by
      intro same
      subst same
      exact busy (was o waits)
    rw [Calls.set_ne calls next other]
    exact waits
  cases stands with
  | quiet idle serial => exact .quiet (sound_set idle is) (tier ▸ serial)
  | storing waits serial consistent begun =>
    exact .storing (kept waits nofun) serial consistent (tier ▸ begun)
  | loading waits serial begun => exact .loading (kept waits nofun) serial (tier ▸ begun)

/-- The others are idle while a call has the lock. -/
theorem idle_set (serves : d.lock.Serves calls) (held : d.lock.holder = some id) (i : Nat)
    (o : Ongoing) (waits : calls.set id none i = some o) : o.stage.work = .idle := by
  by_cases here : i = id
  · rw [here, Calls.set_self] at waits
    cases waits
  · rw [Calls.set_ne calls none here] at waits
    exact quiet_of_holder serves held waits here

/-- A visit that has come to its end. -/
theorem Serialized.leave {d'' : Deployment} {e : Event} {fate : Fate} {log' : List Visit}
    (serialized : Serialized first events ⟨d, calls⟩ log') (serves : d.lock.Serves calls)
    (held : d.lock.holder = some id) (serial : Serial first (⟨id, call, fate⟩ :: log) d''.tier)
    (closed : log'.filterMap Visit.answer? = log.filterMap Visit.answer?)
    (answers : Visit.answer? ⟨id, call, fate⟩ = e.answer?) :
    Serialized first (e :: events) ⟨d'', calls.set id none⟩ (⟨id, call, fate⟩ :: log) where
  placed := sound_set serialized.placed (fun _ absent => nomatch absent)
  stands := .quiet (idle_set serves held) serial
  answers := by
    rw [List.filterMap_cons, List.filterMap_cons, answers, ← closed, serialized.answers]

theorem Serialized.enter (serialized : Serialized first events ⟨d, calls⟩ log)
    (orderly : Orderly capacity ⟨d, calls⟩)
    (waits : calls id = some ⟨call, none, .entering errand⟩) (is : call.errand? = some errand)
    (ready : d.isReady id (.entering errand) = true) :
    Serialized first (event id call (d.enter errand).2 :: events)
      (land calls id call none (d.enter errand))
      (record ⟨d, calls⟩ (event id call (d.enter errand).2) log) := by
  have held : d.lock.holder = some id := orderly.holder_of_uses waits ready rfl
  have consistent : d.tier.cache.Consistent none := orderly.consistent_of_ready waits ready rfl
  have idle (i : Nat) (o : Ongoing) (there : calls i = some o) : o.stage.work = .idle := by
    by_cases here : i = id
    · subst here
      rw [waits] at there
      cases there
      rfl
    · exact quiet_of_holder orderly.lock held there here
  have serial := serialized.stands.serial idle
  have enters := enters_of_errand (d := d) is
  generalize d.enter errand = r at enters ⊢
  cases enters with
  | answered alone =>
    simp only [record, event, Event.actor?, Option.bind_some, waits]
    exact serialized.leave orderly.lock held (.answered id serial alone) rfl rfl
  | storing due begun =>
    simp only [record, event, Event.actor?, Option.bind_some, waits]
    refine ⟨sound_set serialized.placed ?_, ?_, serialized.answers⟩
    · rintro _ ⟨⟩
      exact .storing ..
    · exact .storing (Calls.set_self ..) serial consistent begun
  | loading due begun =>
    simp only [record, event, Event.actor?, Option.bind_some, waits]
    refine ⟨sound_set serialized.placed ?_, ?_, serialized.answers⟩
    · rintro _ ⟨⟩
      exact .loading ..
    · exact .loading (Calls.set_self ..) serial begun

theorem Serialized.start (serialized : Serialized first events ⟨d, calls⟩ log)
    (fresh : calls id = none) (is : call.errand? = some errand) :
    Serialized first (event id call (d.begin call).2 :: events)
      (land calls id call (d.limitOf call) (d.begin call))
      (record ⟨d, calls⟩ (event id call (d.begin call).2) log) := by
  obtain ⟨begun, unlimited⟩ := begin_of_errand (d := d) is
  rw [begun, unlimited]
  simp only [record, event, Event.actor?, Option.bind_some, fresh]
  refine ⟨sound_set serialized.placed ?_, ?_, serialized.answers⟩
  · rintro _ ⟨⟩
    exact .entering is
  · have tier : (d.arrive id (.entering errand)).tier = d.tier := rfl
    apply serialized.stands.set tier
    · intro o waits
      rw [fresh] at waits
      cases waits
    · rintro _ ⟨⟩
      rfl

/-- A put that copies is the one that got the lock last. -/
theorem Stands.of_storing (stands : Stands first ⟨d, calls⟩ log) (serves : d.lock.Serves calls)
    {s : Storing} {due : Nat}
    (waits : calls id = some ⟨.l1Put key block, none, .storing s block .direct due⟩) :
    ∃ earlier before, log = ⟨id, .l1Put key block, .copying⟩ :: earlier ∧
      Serial first earlier before ∧ before.cache.Consistent none ∧
      before.beginPut key block = (d.tier, .inr s) := by
  have held := serves.holds id _ waits nofun
  cases stands with
  | quiet idle serial => exact nomatch idle _ _ waits
  | storing waits' serial consistent begun =>
    cases held.symm.trans (serves.holds _ _ waits' nofun)
    cases waits.symm.trans waits'
    exact ⟨_, _, rfl, serial, consistent, begun⟩
  | loading waits' serial begun =>
    cases held.symm.trans (serves.holds _ _ waits' nofun)
    cases waits.symm.trans waits'

theorem Stands.of_loading (stands : Stands first ⟨d, calls⟩ log) (serves : d.lock.Serves calls)
    {l : Loading} {due : Nat}
    (waits : calls id = some ⟨.l1Get key dest, none, .loading l dest .direct due⟩) :
    ∃ earlier before, log = ⟨id, .l1Get key dest, .copying⟩ :: earlier ∧
      Serial first earlier before ∧ before.beginGet key dest = (d.tier, .inr l) := by
  have held := serves.holds id _ waits nofun
  cases stands with
  | quiet idle serial => exact nomatch idle _ _ waits
  | storing waits' serial consistent begun =>
    cases held.symm.trans (serves.holds _ _ waits' nofun)
    cases waits.symm.trans waits'
  | loading waits' serial begun =>
    cases held.symm.trans (serves.holds _ _ waits' nofun)
    cases waits.symm.trans waits'
    exact ⟨_, _, rfl, serial, begun⟩

theorem endVisit_head (call : Call) (fate fate' : Fate) :
    endVisit id fate' (⟨id, call, fate⟩ :: log) = ⟨id, call, fate'⟩ :: log := if_pos rfl

theorem Serialized.resume (serialized : Serialized first events ⟨d, calls⟩ log)
    (orderly : Orderly capacity ⟨d, calls⟩) (waits : calls id = some o)
    (ready : d.isReady id o.stage = true) :
    Serialized first (event id o.call (d.resume o.stage).2 :: events)
      (land calls id o.call o.limit (d.resume o.stage))
      (record ⟨d, calls⟩ (event id o.call (d.resume o.stage).2) log) := by
  have holds := orderly.lock.holds id o waits
  cases serialized.placed id o waits with
  | entering is => exact serialized.enter orderly waits is ready
  | storing key block s due =>
    obtain ⟨earlier, before, rfl, serial, consistent, begun⟩ :=
      serialized.stands.of_storing orderly.lock waits
    have held := holds fun idle => by cases idle
    have alone : (Call.l1Put key block).alone? before =
        some ((d.tier.finishPut s).1, .status (d.tier.finishPut s).2) := by
      rw [Call.alone?, put_of_waits begun]
    simp only [Deployment.resume, Deployment.afterPut, record, event, Event.actor?,
      Option.bind_some, waits, endVisit_head]
    exact serialized.leave orderly.lock held (.answered id serial alone) rfl rfl
  | loading key dest l due =>
    obtain ⟨earlier, before, rfl, serial, begun⟩ :=
      serialized.stands.of_loading orderly.lock waits
    have held := holds fun idle => by cases idle
    have alone : (Call.l1Get key dest).alone? before =
        some ((d.tier.finishGet l).1, .status (d.tier.finishGet l).2) := by
      rw [Call.alone?, get_of_waits begun]
    simp only [Deployment.resume, Deployment.afterGet, record, event, Event.actor?,
      Option.bind_some, waits, endVisit_head]
    exact serialized.leave orderly.lock held (.answered id serial alone) rfl rfl

theorem Serialized.drop (serialized : Serialized first events ⟨d, calls⟩ log)
    (orderly : Orderly capacity ⟨d, calls⟩) (waits : calls id = some o) :
    Serialized first (.drops id :: events) ⟨d.abandon id o.stage, calls.set id none⟩
      (record ⟨d, calls⟩ (.drops id) log) := by
  have holds := orderly.lock.holds id o waits
  cases serialized.placed id o waits with
  | @entering call errand is =>
    have tier : (d.abandon id (.entering errand)).tier = d.tier := rfl
    simp only [record, Event.actor?, Option.bind_some, waits]
    refine ⟨sound_set serialized.placed (fun _ absent => nomatch absent), ?_, serialized.answers⟩
    apply serialized.stands.set tier
    · intro o there
      rw [waits] at there
      cases there
      rfl
    · exact fun _ absent => nomatch absent
  | storing key block s due =>
    obtain ⟨earlier, before, rfl, serial, consistent, begun⟩ :=
      serialized.stands.of_storing orderly.lock waits
    have held := holds fun idle => by cases idle
    have left : (d.abandon id (.storing s block .direct due)).tier =
        before.makeRoomFor key block.size := abandonPut_beginPut consistent begun
    have dropped := Serial.droppedPut id key block serial
    rw [← left] at dropped
    simp only [record, Event.actor?, Option.bind_some, waits, endVisit_head]
    exact serialized.leave orderly.lock held dropped rfl rfl
  | loading key dest l due =>
    obtain ⟨earlier, before, rfl, serial, begun⟩ :=
      serialized.stands.of_loading orderly.lock waits
    have held := holds fun idle => by cases idle
    have left : (d.abandon id (.loading l dest .direct due)).tier = before := eq_of_beginGet begun
    have dropped := Serial.droppedGet id key dest serial
    rw [← left] at dropped
    simp only [record, Event.actor?, Option.bind_some, waits, endVisit_head]
    exact serialized.leave orderly.lock held dropped rfl rfl

theorem tier_move {t t' : Traffic} (d : Deployment) (m : Move) (here : Local t (.moves m) t') :
    (d.move m).tier = d.tier := by
  cases m with
  | writeDevice b data | writePool e data => exact here.elim
  | _ => rfl

theorem Serialized.move (serialized : Serialized first events ⟨d, calls⟩ log) (m : Move)
    (tier : (d.move m).tier = d.tier) :
    Serialized first (.moves m :: events) ⟨d.move m, calls⟩ (record ⟨d, calls⟩ (.moves m) log) := by
  refine ⟨serialized.placed, ?_, serialized.answers⟩
  cases serialized.stands with
  | quiet idle serial => exact .quiet idle (tier ▸ serial)
  | storing waits serial consistent begun => exact .storing waits serial consistent (tier ▸ begun)
  | loading waits serial begun => exact .loading waits serial (tier ▸ begun)

theorem Serialized.step {t t' : Traffic} {e : Event} (serialized : Serialized first events t log)
    (orderly : Orderly capacity t) (step : Step t e t') (here : Local t e t') :
    Serialized first (e :: events) t' (record t e log) := by
  cases step with
  | start d calls id call fresh =>
    have local_call : call.errand?.isSome := by
      generalize d.begin call = r at here
      obtain ⟨d', turn⟩ := r
      cases turn with
      | done a => exact here
      | wait stage => exact here _ (Calls.set_self ..)
    obtain ⟨errand, is⟩ := Option.isSome_iff_exists.mp local_call
    exact serialized.start fresh is
  | resume d calls id o waits ready => exact serialized.resume orderly waits ready
  | expire d calls id o limit waits limited late =>
    cases serialized.placed id o waits <;> cases limited
  | drop d calls id o waits => exact serialized.drop orderly waits
  | move d calls m => exact serialized.move m (tier_move d m here)

variable {start quiet : Deployment}

theorem Recorded.reachable {t : Traffic} (recorded : Recorded quiet events t log)
    (reachable : Reachable start ⟨quiet, .none⟩) : Reachable start t := by
  induction recorded with
  | start => exact reachable
  | step before step here ih => exact ih.steps (.step step trivial (.refl _))

theorem Recorded.serialized {t : Traffic} (recorded : Recorded quiet events t log)
    (fresh : start.Fresh capacity) (reachable : Reachable start ⟨quiet, .none⟩) :
    Serialized quiet.tier events t log := by
  induction recorded with
  | start =>
    have absent (id : Nat) (o : Ongoing) (waits : Calls.none id = some o) : False := nomatch waits
    exact ⟨fun id o waits => (absent id o waits).elim,
      .quiet (fun id o waits => (absent id o waits).elim) .none, rfl⟩
  | step before step here ih =>
    exact ih.step ((before.reachable reachable).orderly fresh) step here

/-- Calls on the first tier that run beside each other, and may be dropped where they wait, are one
sequence of calls in the order in which they got the lock. Whenever no call copies, the cache, the
pool and the devices are what the sequence leaves, and its answers are those that the callers were
given. -/
theorem serial_of_recorded {t : Traffic} (fresh : start.Fresh capacity)
    (reachable : Reachable start ⟨quiet, .none⟩) (recorded : Recorded quiet events t log)
    (idle : ∀ id o, t.calls id = some o → o.stage.work = .idle) :
    Serial quiet.tier log t.deployment.tier ∧
      log.filterMap Visit.answer? = events.filterMap Event.answer? := by
  have serialized := recorded.serialized fresh reachable
  exact ⟨serialized.stands.serial idle, serialized.answers⟩

theorem Recorded.resume (recorded : Recorded quiet events ⟨d, calls⟩ log) (id : Nat) (o : Ongoing)
    (d' : Deployment) (turn : Turn) (waits : calls id = some o) (is : o.call.errand?.isSome)
    (ready : d.isReady id o.stage = true) (resumed : d.resume o.stage = (d', turn)) :
    Recorded quiet (event id o.call turn :: events) (land calls id o.call o.limit (d', turn))
      (record ⟨d, calls⟩ (event id o.call turn) log) := by
  have step := Step.resume d calls id o waits ready
  rw [resumed] at step
  apply recorded.step step
  cases turn with
  | done a => exact is
  | wait stage =>
    intro o' there
    change calls.set id _ id = some o' at there
    rw [Calls.set_self] at there
    cases there
    exact is

/-- A put waits for the lock while another one copies, and gets it when that one is dropped. -/
theorem serial_of_dropped_put : ∃ start events t log,
    Recorded start events t log ∧ log.map (·.id) = [1, 0] ∧
      t.deployment.tier.read? "a" = none ∧ t.deployment.tier.read? "b" = some [3, 4] ∧
      Serial start.tier log t.deployment.tier := by
  let start : Deployment := .single (.new 2) [1, 2, 3, 4] [0, 0]
  let held (id : Nat) : Deployment := { start with lock := ⟨some id, []⟩ }
  let taken (lock : Lock) : Deployment :=
    { start with tier.cache.allocator := ⟨2, 2, [], [], [⟨0, 2⟩]⟩, lock }
  let first : Ongoing := ⟨.l1Put "a" ⟨0, 0, 2⟩, none, .entering (.put "a" ⟨0, 0, 2⟩ .direct)⟩
  let copying : Ongoing := ⟨.l1Put "a" ⟨0, 0, 2⟩, none,
    .storing ⟨"a", ⟨0, 2⟩, .toPool [1, 2] ⟨0, 2⟩, 0⟩ ⟨0, 0, 2⟩ .direct 0⟩
  let second : Ongoing := ⟨.l1Put "b" ⟨0, 2, 2⟩, none, .entering (.put "b" ⟨0, 2, 2⟩ .direct)⟩
  let copying' : Ongoing := ⟨.l1Put "b" ⟨0, 2, 2⟩, none,
    .storing ⟨"b", ⟨0, 2⟩, .toPool [3, 4] ⟨0, 2⟩, 0⟩ ⟨0, 2, 2⟩ .direct 0⟩
  let stored : Deployment :=
    { start with
      tier.cache :=
        { allocator := ⟨2, 2, [], [], [⟨0, 2⟩]⟩
          entries := [("b", ⟨0, 2⟩)]
          recency := [⟨"b", 2⟩]
          counters := { insertions := 1 } }
      tier.copier.pool := [3, 4]
      tier.copier.stats := { toHostBytes := 2, toHostCopies := 1 } }
  let answer : Answer := .status (.ok "stored 2 bytes in L1 (evicted 0)")
  have takes : (held 0).resume first.stage = (taken ⟨some 0, []⟩, .wait copying.stage) := by cbv
  have takes' : (held 1).resume second.stage = (taken ⟨some 1, []⟩, .wait copying'.stage) := by cbv
  have stores : (taken ⟨some 1, []⟩).resume copying'.stage = (stored, .done answer) := by cbv
  have gives : (taken ⟨some 0, [1]⟩).abandon 0 copying.stage = held 1 := by cbv
  have comes : Recorded start _ ⟨held 0, Calls.none.set 0 (some first)⟩ _ :=
    Recorded.start.step (Step.start start .none 0 first.call rfl) fun o there => by
      cases there
      rfl
  have copies := comes.resume 0 first (taken ⟨some 0, []⟩) (.wait copying.stage) rfl rfl
    (by cbv) takes
  have queues : Recorded start _ ⟨taken ⟨some 0, [1]⟩, _⟩ _ :=
    copies.step (Step.start _ _ 1 second.call rfl) fun o there => by
      cases there
      rfl
  have drops := queues.step (Step.drop _ _ 0 copying rfl) trivial
  rw [gives] at drops
  have copies' := drops.resume 1 second (taken ⟨some 1, []⟩) (.wait copying'.stage) rfl rfl
    (by cbv) takes'
  have recorded := copies'.resume 1 copying' stored (.done answer) rfl rfl (by cbv) stores
  have fresh : start.Fresh 2 := ⟨rfl, rfl⟩
  have quiet : Reachable start ⟨start, .none⟩ := ⟨[], .refl _⟩
  refine ⟨_, _, _, _, recorded, rfl, rfl, by cbv,
    (serial_of_recorded fresh quiet recorded ?_).1⟩
  intro id o waits
  simp only [land, Calls.set, Calls.none] at waits
  by_cases one : id = 1
  · simp only [one, ↓reduceIte, reduceCtorEq] at waits
  · by_cases zero : id = 0 <;> simp only [one, zero, ↓reduceIte, reduceCtorEq] at waits

end Traffic

end Sidecar

end BlockTier
