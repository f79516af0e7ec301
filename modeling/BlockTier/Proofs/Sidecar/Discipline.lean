import BlockTier.Proofs.Sidecar.LockQueue
import BlockTier.Proofs.Sidecar.Resumption
/-!
The calls of a sidecar, in any order, make one run of the first tier's cache: what the holder of
the lock waits for is what the cache waits for.
-/
namespace BlockTier.Sidecar

namespace Deployment

/-- No call has come yet, and nothing is in the first tier. -/
structure Fresh (d : Deployment) (capacity : Nat) : Prop where
  lock : d.lock = {}
  cache : d.tier.cache = .new capacity

/-- What no move of the surroundings changes. -/
structure Beside (d d' : Deployment) : Prop where
  lock : d'.lock = d.lock
  cache : d'.tier.cache = d.tier.cache
  pool : d'.tier.copier.pool.length = d.tier.copier.pool.length

theorem move_keeps (d : Deployment) (m : Move) : d.Beside (d.move m) := by
  have overwritten (r : Except TransferError Copier)
      (length : ∀ copier, r = .ok copier → copier.pool.length = d.tier.copier.pool.length) :
      d.Beside (d.overwrite r) := by
    cases r with
    | ok copier => exact ⟨rfl, rfl, length copier rfl⟩
    | error e => exact ⟨rfl, rfl, rfl⟩
  cases m with
  | writeDevice b data =>
    exact overwritten _ (fun _ written => congrArg List.length (Copier.pool_writeDevice written))
  | writePool e data => exact overwritten _ (fun _ written => Copier.length_writePool written)
  | _ => exact ⟨rfl, rfl, rfl⟩

theorem core_expire (d : Deployment) (f : Flight) (limit : Limit) :
    (d.expire f limit).1.core = (d.abandon f.id f.stage).core := by
  unfold expire
  dsimp only
  split
  · rfl
  · split <;> rfl

theorem failed_of_expire (d : Deployment) (f : Flight) (limit : Limit)
    (other : f.stage.isWriteThrough = false) :
    ∃ s, (d.expire f limit).2 = .status s ∧ s.success = false ∧ s.code = .timeout := by
  unfold expire
  simp only [other, Bool.false_eq_true, ↓reduceIte]
  exact ⟨_, rfl, rfl, rfl⟩

end Deployment

theorem Deployment.arrive_cases (d : Deployment) (id : Nat) (s : Stage) :
    (∃ errand, s = .entering errand) ∨
      d.arrive id s = d ∧ (s.work = .idle → s.usesLock = false) := by
  cases s with
  | entering errand => exact Or.inl ⟨errand, rfl⟩
  | storing | loading => exact Or.inr ⟨rfl, fun idle => nomatch idle⟩
  | _ => exact Or.inr ⟨rfl, fun _ => rfl⟩

namespace Traffic

/-- What the holder of the lock waits for. -/
def work (t : Traffic) : L1.Work :=
  match t.deployment.lock.holder.bind t.calls with
  | some o => o.stage.work
  | none => .idle

/-- What holds of every traffic. -/
structure Orderly (capacity : Nat) (t : Traffic) : Prop where
  lock : t.deployment.lock.Serves t.calls
  cache : L1.Reachable capacity t.deployment.tier.cache t.work
  sound : ∀ id o, t.calls id = some o → o.stage.Sound
  mapped : t.deployment.tier.Mapped

variable {t : Traffic} {d : Deployment} {calls : Calls} {id : Nat}

theorem work_of_holder {o : Ongoing} (held : t.deployment.lock.holder = some id)
    (waits : t.calls id = some o) : t.work = o.stage.work := by
  rw [work, held, Option.bind_some, waits]

theorem work_of_quiet (quiet : ∀ id o, t.calls id = some o → o.stage.work = .idle) :
    t.work = .idle := by
  unfold work
  split
  · rename_i o found
    obtain ⟨id, _, waits⟩ := Option.bind_eq_some_iff.mp found
    exact quiet id o waits
  · rfl

theorem quiet_of_holder (serves : d.lock.Serves calls) (held : d.lock.holder = some id)
    {i : Nat} {o : Ongoing} (waits : calls i = some o) (other : i ≠ id) :
    o.stage.work = .idle := by
  apply Classical.byContradiction
  intro busy
  have holds := serves.holds i o waits busy
  rw [held] at holds
  exact other (Option.some.inj holds).symm

theorem work_set {d' : Deployment} (same : d'.lock.holder = d.lock.holder)
    (other : d.lock.holder ≠ some id) (o : Option Ongoing) :
    work ⟨d', calls.set id o⟩ = work ⟨d, calls⟩ := by
  unfold work
  rw [same]
  cases holder : d.lock.holder with
  | none => rfl
  | some h =>
    have different : h ≠ id := fun here => other (holder.trans (congrArg some here))
    simp only [Option.bind_some, Calls.set_ne calls o different]

theorem sound_set {P : Ongoing → Prop} (sound : ∀ id o, calls id = some o → P o)
    {o : Option Ongoing} (new : ∀ o' ∈ o, P o') :
    ∀ i o', calls.set id o i = some o' → P o' := by
  intro i o' waits
  by_cases here : i = id
  · rw [here, Calls.set_self] at waits
    exact new o' waits
  · rw [Calls.set_ne calls o here] at waits
    exact sound i o' waits

namespace Orderly

variable {capacity : Nat} {d' : Deployment} {o : Ongoing}

theorem of_core (orderly : Orderly capacity ⟨d, calls⟩) (same : d'.core = d.core) :
    Orderly capacity ⟨d', calls⟩ := by
  have lock := Deployment.lock_of_core same
  have serves : d'.lock.Serves calls := lock ▸ orderly.lock
  have work_eq : work ⟨d', calls⟩ = work ⟨d, calls⟩ := by simp only [work, lock]
  refine ⟨serves, ?_, orderly.sound, Deployment.mapped_of_core same orderly.mapped⟩
  rw [work_eq, Deployment.cache_of_core same]
  exact orderly.cache

/-- A call goes: what it did in the tier is done, and nobody else works there. -/
theorem leave (orderly : Orderly capacity ⟨d, calls⟩) (waits : calls id = some o)
    (lock : d'.lock = d.lock.withdraw id)
    (cache : d.lock.holder = some id →
      L1.Leads d.tier.cache o.stage.work d'.tier.cache .idle)
    (still : d.lock.holder ≠ some id → d'.tier.cache = d.tier.cache) (mapped : d'.tier.Mapped) :
    Orderly capacity ⟨d', calls.set id none⟩ := by
  have serves : d'.lock.Serves (calls.set id none) := lock ▸ orderly.lock.leave id
  refine ⟨serves, ?_, sound_set orderly.sound (fun _ absent => nomatch absent), mapped⟩
  have reached := orderly.cache
  by_cases held : d.lock.holder = some id
  · rw [work_of_holder held waits] at reached
    have quiet : work ⟨d', calls.set id none⟩ = .idle := by
      apply work_of_quiet
      intro i o' waits'
      change calls.set id none i = some o' at waits'
      by_cases here : i = id
      · rw [here, Calls.set_self] at waits'
        cases waits'
      · rw [Calls.set_ne calls none here] at waits'
        exact quiet_of_holder orderly.lock held waits' here
    rw [quiet]
    exact cache held capacity reached
  · have same : d'.lock.holder = d.lock.holder := by rw [lock, Lock.withdraw, if_neg held]
    rw [work_set same held, still held]
    exact reached

theorem absent_holder (orderly : Orderly capacity ⟨d, calls⟩) (gone : calls id = none) :
    d.lock.holder ≠ some id :=
  fun held => orderly.lock.absent gone (Lock.Serves.mem_of_holder held)

/-- A call comes for the lock. If it gets it at once the tier is still at rest. -/
theorem enter (orderly : Orderly capacity ⟨d, calls⟩) (gone : calls id = none) (errand : Errand)
    (call : Call) (limit : Option Limit) :
    Orderly capacity ⟨{ d with lock := d.lock.request id },
      calls.set id (some ⟨call, limit, .entering errand⟩)⟩ := by
  have sound : ∀ i o, calls.set id (some ⟨call, limit, .entering errand⟩) i = some o →
      o.stage.Sound := by
    refine sound_set orderly.sound ?_
    rintro _ ⟨⟩
    exact Stage.sound_of_idle rfl
  refine ⟨orderly.lock.enter gone rfl, ?_, sound, orderly.mapped⟩
  have reached := orderly.cache
  cases holder : d.lock.holder with
  | none =>
    have before : work ⟨d, calls⟩ = .idle := by simp only [work, holder, Option.bind_none]
    rw [before] at reached
    have held : (d.lock.request id).holder = some id := by simp only [Lock.request, holder]
    rw [work_of_holder held (Calls.set_self ..)]
    exact reached
  | some h =>
    have same : (d.lock.request id).holder = d.lock.holder := by simp only [Lock.request, holder]
    rw [work_set same (orderly.absent_holder gone)]
    exact reached

theorem land (orderly : Orderly capacity ⟨d, calls⟩) (gone : calls id = none) {turn : Turn}
    (idle : turn.work = .idle) (call : Call) (limit : Option Limit) :
    Orderly capacity (land calls id call limit (d, turn)) := by
  cases turn with
  | done a =>
    have same : calls.set id none = calls := by
      have := calls.set_eq id
      rwa [gone] at this
    rw [Traffic.land, same]
    exact orderly
  | wait s =>
    rcases d.arrive_cases id s with ⟨errand, rfl⟩ | ⟨stays, unused⟩
    · exact orderly.enter gone errand call limit
    · rw [Traffic.land, stays]
      refine ⟨orderly.lock.stay gone (unused idle), ?_, sound_set orderly.sound ?_,
        orderly.mapped⟩
      · rw [work_set rfl (orderly.absent_holder gone)]
        exact orderly.cache
      · rintro _ ⟨⟩
        exact Stage.sound_of_idle idle

theorem holder_of_uses (orderly : Orderly capacity ⟨d, calls⟩) (waits : calls id = some o)
    (ready : d.isReady id o.stage = true) (uses : o.stage.usesLock = true) :
    d.lock.holder = some id := by
  cases stage : o.stage with
  | entering errand =>
    rw [stage] at ready
    simpa [Deployment.isReady, Stage.due?] using ready
  | storing | loading => exact orderly.lock.holds id o waits (by rw [stage]; exact nofun)
  | _ =>
    rw [stage] at uses
    cases uses

theorem consistent_of_ready (orderly : Orderly capacity ⟨d, calls⟩) (waits : calls id = some o)
    (ready : d.isReady id o.stage = true) (uses : o.stage.usesLock = true) :
    d.tier.cache.Consistent o.stage.work.reserved? := by
  have reached := orderly.cache
  rw [work_of_holder (orderly.holder_of_uses waits ready uses) waits] at reached
  exact reached.consistent

theorem consistent_of_none (orderly : Orderly capacity ⟨d, .none⟩) :
    d.tier.cache.Consistent none := by
  have reached := orderly.cache
  rw [work_of_quiet (fun _ _ absent => by cases absent)] at reached
  exact reached.consistent

/-- A call that has nothing more to do in the tier leaves it and comes back as a new one. -/
theorem resume_idle (orderly : Orderly capacity ⟨d, calls⟩) (waits : calls id = some o)
    (held : o.stage.usesLock = true → d.lock.holder = some id)
    (works : d.Works o.stage (d.resume o.stage)) (idle : (d.resume o.stage).2.work = .idle) :
    Orderly capacity (Traffic.land calls id o.call o.limit (d.resume o.stage)) := by
  have lock : (d.resume o.stage).1.lock = d.lock.withdraw id := by
    rw [works.frees idle]
    by_cases uses : o.stage.usesLock = true
    · rw [if_pos uses, Lock.withdraw_of_holder (held uses)]
    · rw [if_neg uses]
      have unused : o.stage.usesLock = false := by simpa using uses
      exact (Lock.withdraw_of_absent (orderly.lock.absent_of_unused waits unused)).symm
  have still (other : d.lock.holder ≠ some id) :
      (d.resume o.stage).1.tier.cache = d.tier.cache := by
    apply works.outside
    cases uses : o.stage.usesLock with
    | false => rfl
    | true => exact absurd (held uses) other
  have left := orderly.leave waits lock (fun _ => idle ▸ works.cache) still
    (works.mapped orderly.mapped)
  have landed := left.land (Calls.set_self ..) idle o.call o.limit
  have same : Traffic.land (calls.set id none) id o.call o.limit =
      Traffic.land calls id o.call o.limit := by
    funext ⟨d, turn⟩
    cases turn <;> simp only [Traffic.land, Calls.set_set]
  rw [same] at landed
  exact landed

/-- A call that has begun a copy keeps the lock until the copy has ended. -/
theorem resume_busy (orderly : Orderly capacity ⟨d, calls⟩) (waits : calls id = some o)
    (held : o.stage.usesLock = true → d.lock.holder = some id)
    (works : d.Works o.stage (d.resume o.stage)) (busy : (d.resume o.stage).2.work ≠ .idle) :
    Orderly capacity (Traffic.land calls id o.call o.limit (d.resume o.stage)) := by
  obtain ⟨uses, lock⟩ := works.keeps busy
  cases resumed : d.resume o.stage with
  | mk d' turn =>
    rw [resumed] at works busy lock
    cases turn with
    | done a => exact absurd rfl busy
    | wait s =>
      have stays : d'.arrive id s = d' := by
        rcases d'.arrive_cases id s with ⟨errand, rfl⟩ | ⟨stays, _⟩
        · exact absurd rfl busy
        · exact stays
      have used : s.usesLock = true := by
        cases s with
        | storing | loading => rfl
        | _ => exact absurd rfl busy
      have still : d'.lock.holder = some id := by
        rw [lock]
        exact held uses
      have reached := orderly.cache
      rw [work_of_holder (held uses) waits] at reached
      rw [Traffic.land, stays]
      refine ⟨lock ▸ orderly.lock.keep (held uses) used, ?_, ?_, works.mapped orderly.mapped⟩
      · rw [work_of_holder still (Calls.set_self ..)]
        exact works.cache capacity reached
      · refine sound_set orderly.sound ?_
        rintro _ ⟨⟩
        exact works.sound s rfl

theorem resume (orderly : Orderly capacity ⟨d, calls⟩) (waits : calls id = some o)
    (ready : d.isReady id o.stage = true) :
    Orderly capacity (Traffic.land calls id o.call o.limit (d.resume o.stage)) := by
  have held := orderly.holder_of_uses waits ready
  have works := Deployment.works_resume (orderly.sound id o waits)
    (orderly.consistent_of_ready waits ready)
  by_cases idle : (d.resume o.stage).2.work = .idle
  · exact orderly.resume_idle waits held works idle
  · exact orderly.resume_busy waits held works idle

theorem abandon (orderly : Orderly capacity ⟨d, calls⟩) (waits : calls id = some o) :
    Orderly capacity ⟨d.abandon id o.stage, calls.set id none⟩ := by
  have held (busy : o.stage.work ≠ .idle) : d.lock.holder = some id :=
    orderly.lock.holds id o waits busy
  cases stage : o.stage with
  | entering errand =>
    refine orderly.leave waits rfl (fun _ => ?_) (fun _ => rfl) orderly.mapped
    rw [stage]
    exact .refl _ _
  | storing s block use due =>
    rw [stage] at held
    refine orderly.leave waits (Lock.withdraw_of_holder (held nofun)).symm (fun _ => ?_)
      (fun other => absurd (held nofun) other) orderly.mapped
    rw [stage]
    exact (L1.Step.storeDropped _ _ _).leads
  | loading l dest use due =>
    rw [stage] at held
    refine orderly.leave waits (Lock.withdraw_of_holder (held nofun)).symm (fun _ => ?_)
      (fun other => absurd (held nofun) other) orderly.mapped
    rw [stage]
    exact (L1.Step.notLoaded _ _).leads
  | _ =>
    have absent := orderly.lock.absent_of_unused waits (by rw [stage]; rfl)
    refine orderly.leave waits (Lock.withdraw_of_absent absent).symm (fun held => ?_)
      (fun _ => rfl) orderly.mapped
    exact absurd (Lock.Serves.mem_of_holder held) absent

theorem move (orderly : Orderly capacity ⟨d, calls⟩) (m : Move) :
    Orderly capacity ⟨d.move m, calls⟩ := by
  have same := d.move_keeps m
  refine ⟨same.lock ▸ orderly.lock, ?_, orderly.sound, fun key e found => ?_⟩
  · have work_eq : work ⟨d.move m, calls⟩ = work ⟨d, calls⟩ := by simp only [work, same.lock]
    rw [work_eq, same.cache]
    exact orderly.cache
  · rw [same.pool]
    exact orderly.mapped key e (same.cache ▸ found)

theorem step {t t' : Traffic} {e : Event} (step : Step t e t') (orderly : Orderly capacity t) :
    Orderly capacity t' := by
  cases step with
  | start d calls id call fresh =>
    have begun := d.continues_begin call
    exact (orderly.of_core begun.core).land fresh begun.idle call _
  | resume d calls id o waits ready => exact orderly.resume waits ready
  | expire d calls id o limit waits limited late =>
    exact (orderly.abandon waits).of_core (d.core_expire ⟨id, o.limit, o.stage⟩ limit)
  | drop d calls id o waits => exact orderly.abandon waits
  | move d calls m => exact orderly.move m

theorem fresh (fresh : d.Fresh capacity) : Orderly capacity ⟨d, .none⟩ where
  lock := by
    rw [fresh.lock]
    exact Lock.serves_none
  cache := by
    rw [work_of_quiet (t := ⟨d, .none⟩) (fun _ _ absent => nomatch absent), fresh.cache]
    exact .new
  sound := fun _ _ absent => nomatch absent
  mapped := by
    intro key e found
    rw [fresh.cache] at found
    cases found

end Orderly

variable {start : Deployment} {capacity : Nat}

theorem Reachable.orderly (fresh : start.Fresh capacity) (reachable : Reachable start t) :
    Orderly capacity t := by
  obtain ⟨events, steps⟩ := reachable
  exact steps.preserve (Orderly capacity) (fun step _ orderly => orderly.step step) (.fresh fresh)

end Traffic

end BlockTier.Sidecar
