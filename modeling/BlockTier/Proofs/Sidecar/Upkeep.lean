import BlockTier.Proofs.Sidecar.CarriedSteps
import BlockTier.Proofs.Sidecar.Discipline
/-!
Traffic that keeps the content of every key. What a call carries is not touched by the others as
long as the callers agree on the content and leave each other's device blocks alone.
-/
namespace BlockTier.Sidecar

variable {content : String → Bytes} {c : Call} {d d' : Deployment} {stage : Stage}

/-- Whether a move writes to the pool or to a node's store. -/
def Move.Stores : Move → Prop
  | writePool .. | store .. => True
  | _ => False

namespace Deployment

theorem Fresh.intact {capacity : Nat} (fresh : d.Fresh capacity)
    (stored : ∀ id key frame, d.fleet.frame? id key = some frame →
      d.l2.codec.decode frame = .ok (content key))
    (lawful : d.l2.codec.scheme.Lawful) : d.Intact content := by
  refine ⟨fun key e found => ?_, stored, lawful⟩
  rw [fresh.cache] at found
  cases found

theorem Intact.arrive (intact : d.Intact content) (id : Nat) (s : Stage) :
    (d.arrive id s).Intact content := by
  cases s <;> exact ⟨intact.resident, intact.stored, intact.lawful⟩

theorem Intact.abandon (intact : d.Intact content) (id : Nat) (s : Stage) :
    (d.abandon id s).Intact content := by
  cases s <;> exact ⟨intact.resident, intact.stored, intact.lawful⟩

theorem codec_move (d : Deployment) (m : Move) : (d.move m).l2.codec = d.l2.codec := by
  have overwritten (r : Except TransferError Copier) : (d.overwrite r).l2.codec = d.l2.codec := by
    cases r <;> rfl
  cases m with
  | refresh =>
    simp only [move, refresh, L2.Connector.refresh]
    split <;> rfl
  | writeDevice | writePool => exact overwritten _
  | _ => rfl

theorem Intact.move (intact : d.Intact content) {m : Move} (unwritten : ¬ m.Stores) :
    (d.move m).Intact content := by
  have lawful : (d.move m).l2.codec.scheme.Lawful := by
    rw [codec_move]
    exact intact.lawful
  cases m with
  | writePool | store => exact absurd trivial unwritten
  | refresh =>
    refine ⟨intact.resident, fun id key frame found => ?_, lawful⟩
    rw [codec_move]
    exact intact.stored id key frame found
  | writeDevice b data =>
    simp only [Deployment.move, overwrite]
    split
    · rename_i copier written
      exact intact.withTier { d.tier with copier } (fun _ _ found => found)
        (Copier.pool_writeDevice written)
    · exact intact
  | remove id key =>
    refine ⟨intact.resident, fun i k frame found => ?_, lawful⟩
    change (d.fleet.remove id key).1.frame? i k = some frame at found
    rw [L2.Fleet.frame?_remove] at found
    split at found
    · cases found
    · exact intact.stored i k frame found
  | _ => exact ⟨intact.resident, intact.stored, lawful⟩

end Deployment

theorem Call.Restored.agree {key : String} {block : BlockRef}
    (restored : c.Restored content d key block) (nonempty : content key ≠ [])
    (agree : ∀ b, c.region? = some b → d.tier.copier.Agree d'.tier.copier b) :
    c.Restored content d' key block := by
  refine ⟨restored.dest, ?_⟩
  obtain ⟨dest, ⟨timeout, rfl⟩, rfl, fits⟩ := restored.dest
  exact ((agree dest rfl).withSize fits).readDevice (List.length_pos_iff.mpr nonempty)
    restored.read

theorem Stage.Carries.map (carries : stage.Carries content d c)
    (codec : d'.l2.codec = d.l2.codec)
    (restored : ∀ key block, c.Restored content d key block → c.Restored content d' key block) :
    stage.Carries content d' c := by
  cases stage with
  | entering errand =>
    cases errand with
    | put key block use =>
      cases use with
      | promotion => exact restored key block carries
      | direct | offload => exact carries
    | get key dest use => cases use <;> exact carries
    | read key use => cases use <;> exact carries
    | contains key use => cases use <;> exact carries
    | _ => exact carries
  | storing s block use due =>
    cases use with
    | promotion => exact ⟨restored s.key block carries.1, carries.2⟩
    | direct | offload => exact carries
  | sending node key frame use due =>
    cases use with
    | direct => exact carries
    | fallback | writeThrough => exact ⟨carries.1, codec ▸ carries.2⟩
  | loading l dest use due => cases use <;> exact carries
  | copying moved use due => cases use <;> exact carries
  | receiving node key use due => cases use <;> exact carries
  | probing node key use due => cases use <;> exact carries
  | resting due => exact carries

theorem Stage.Carries.arrive (carries : stage.Carries content d c) (id : Nat) :
    stage.Carries content (d.arrive id stage) c := by
  have same : (d.arrive id stage).l2.codec = d.l2.codec ∧
      (d.arrive id stage).tier.copier.devices = d.tier.copier.devices := by
    cases stage <;> exact ⟨rfl, rfl⟩
  exact carries.map same.1 fun _ _ restored => restored.of_devices same.2

theorem Stage.Carries.preserve (carries : stage.Carries content d c)
    (nonempty : ∀ key, content key ≠ []) (codec : d'.l2.codec = d.l2.codec)
    (agree : ∀ b, c.region? = some b → d.tier.copier.Agree d'.tier.copier b) :
    stage.Carries content d' c :=
  carries.map codec fun key _ restored => restored.agree (nonempty key) agree

namespace Traffic

variable {t t' : Traffic} {e : Event} {calls : Calls} {id : Nat} {capacity : Nat}

/-- What the callers and the surroundings keep to in a step: only the manager is called, every
offload names a device block that holds the content of its key, no device block of a call is
written by anything else, and only calls write the pool or the fleet. -/
structure Respects (content : String → Bytes) (t : Traffic) (e : Event) (t' : Traffic) :
    Prop where
  managed : ∀ id o, t'.calls id = some o → o.call.IsManaged
  offers : ∀ id o, t'.calls id = some o → o.call.Offers content t'.deployment
  undisturbed : ∀ id o, t.calls id = some o → e.actor? ≠ some id → ∀ b, o.call.region? = some b →
    t.deployment.tier.copier.Agree t'.deployment.tier.copier b
  unwritten : ∀ m, e = .moves m → ¬ m.Stores

/-- The tiers and the calls have the content of every key. -/
structure Intact (content : String → Bytes) (t : Traffic) : Prop where
  deployment : t.deployment.Intact content
  carries : ∀ id o, t.calls id = some o → o.stage.Carries content t.deployment o.call
  offers : ∀ id o, t.calls id = some o → o.call.Offers content t.deployment

/-- What a step leaves: the content is where it was, and a fetch that it answers is served. -/
structure Serves (content : String → Bytes) (e : Event) (t' : Traffic) : Prop where
  intact : Intact content t'
  served : ∀ id call a, e = .answers id call a → call.Served content t'.deployment a

theorem carries_others (intact : Intact content ⟨d, calls⟩) (nonempty : ∀ key, content key ≠ [])
    (respects : Respects content ⟨d, calls⟩ e t') (actor : e.actor? = some id)
    (codec : t'.deployment.l2.codec = d.l2.codec) {i : Nat} {o : Ongoing}
    (waits : calls i = some o) (other : i ≠ id) :
    o.stage.Carries content t'.deployment o.call := by
  refine (intact.carries i o waits).preserve nonempty codec ?_
  refine respects.undisturbed i o waits ?_
  rw [actor]
  exact fun same => other (Option.some.inj same).symm

theorem serves_land (intact : Intact content ⟨d, calls⟩) (nonempty : ∀ key, content key ≠ [])
    (call : Call) (limit : Option Limit) {r : Deployment × Turn}
    (codec : r.1.l2.codec = d.l2.codec) (after : r.1.Intact content)
    (carries : (∃ s, r.2 = .wait s) → r.2.Carries content r.1 call)
    (served : ∀ a, r.2 = .done a → call.Served content r.1 a)
    (respects : Respects content ⟨d, calls⟩ (event id call r.2) (land calls id call limit r)) :
    Serves content (event id call r.2) (land calls id call limit r) := by
  obtain ⟨d', turn⟩ := r
  cases turn with
  | done a =>
    refine ⟨⟨after, fun i o waits => ?_, respects.offers⟩, ?_⟩
    · change calls.set id none i = some o at waits
      by_cases here : i = id
      · rw [here, Calls.set_self] at waits
        cases waits
      · rw [Calls.set_ne calls none here] at waits
        exact carries_others intact nonempty respects rfl codec waits here
    · intro _ _ _ same
      cases same
      exact served a rfl
  | wait s =>
    have codec_arrive : (d'.arrive id s).l2.codec = d.l2.codec := by
      cases s <;> exact codec
    refine ⟨⟨after.arrive id s, fun i o waits => ?_, respects.offers⟩, ?_⟩
    · change calls.set id (some ⟨call, limit, s⟩) i = some o at waits
      by_cases here : i = id
      · rw [here, Calls.set_self] at waits
        cases waits
        exact (carries ⟨s, rfl⟩).arrive id
      · rw [Calls.set_ne calls _ here] at waits
        exact carries_others intact nonempty respects rfl codec_arrive waits here
    · intro _ _ _ same
      cases same

theorem intact_gone (intact : Intact content ⟨d, calls⟩) (nonempty : ∀ key, content key ≠ [])
    (actor : e.actor? = some id) (codec : d'.l2.codec = d.l2.codec) (after : d'.Intact content)
    (respects : Respects content ⟨d, calls⟩ e ⟨d', calls.set id none⟩) :
    Intact content ⟨d', calls.set id none⟩ := by
  refine ⟨after, fun i o waits => ?_, respects.offers⟩
  change calls.set id none i = some o at waits
  by_cases here : i = id
  · rw [here, Calls.set_self] at waits
    cases waits
  · rw [Calls.set_ne calls none here] at waits
    exact carries_others intact nonempty respects actor codec waits here

theorem codec_abandon (d : Deployment) (id : Nat) (s : Stage) :
    (d.abandon id s).l2.codec = d.l2.codec := by
  cases s <;> rfl

/-- A fetch that is dropped at its deadline has failed; only an offload waits for its copy in the
second tier. -/
theorem served_expire {o : Ongoing} (carries : o.stage.Carries content d o.call) (id : Nat)
    (limit : Limit) :
    o.call.Served content d' (d.expire ⟨id, o.limit, o.stage⟩ limit).2 := by
  obtain ⟨call, l, stage⟩ := o
  unfold Deployment.expire
  dsimp only at carries ⊢
  split
  · rename_i mirrors
    unfold Stage.isWriteThrough at mirrors
    split at mirrors
    · exact Call.IsOffload.served carries _ _
    · exact carries.1.served _ _
    · cases mirrors
  · exact call.served_of_failed _ rfl

theorem serves_start (intact : Intact content ⟨d, calls⟩) (nonempty : ∀ key, content key ≠ [])
    (call : Call) (limit : Option Limit)
    (respects : Respects content ⟨d, calls⟩ (event id call (d.begin call).2)
      (land calls id call limit (d.begin call))) :
    Serves content (event id call (d.begin call).2) (land calls id call limit (d.begin call)) := by
  have begun := d.continues_begin call
  refine serves_land intact nonempty call limit (Deployment.codec_of_core begun.core)
    (intact.deployment.of_core begun.core) ?_ ?_ respects
  · rintro ⟨s, waits⟩
    have managed : call.IsManaged := by
      refine respects.managed id ⟨call, limit, s⟩ ?_
      cases landed : d.begin call with
      | mk d' turn =>
        rw [landed] at waits
        cases waits
        exact Calls.set_self ..
    exact (Deployment.keeps_begin intact.deployment managed).carries
  · -- an answer at once need not come from the manager, but a fetch does
    rintro a answered key dest timeout s rfl
    have carries := (Deployment.keeps_begin (c := .fetch key dest timeout) intact.deployment
      trivial).carries
    rw [answered] at carries
    exact carries key dest timeout s rfl

theorem serves_resume (intact : Intact content ⟨d, calls⟩) (nonempty : ∀ key, content key ≠ [])
    (orderly : Orderly capacity ⟨d, calls⟩) {o : Ongoing} (waits : calls id = some o)
    (ready : d.isReady id o.stage = true)
    (respects : Respects content ⟨d, calls⟩ (event id o.call (d.resume o.stage).2)
      (land calls id o.call o.limit (d.resume o.stage))) :
    Serves content (event id o.call (d.resume o.stage).2)
      (land calls id o.call o.limit (d.resume o.stage)) := by
  have consistent := orderly.consistent_of_ready waits ready
  have works := Deployment.works_resume (orderly.sound id o waits) consistent
  have keeps := Deployment.keeps_resume intact.deployment consistent (intact.carries id o waits)
    (intact.offers id o waits).finds
  refine serves_land intact nonempty o.call o.limit works.grows.codec keeps.intact
    (fun _ => keeps.carries) (fun a answered => ?_) respects
  have carries := keeps.carries
  rw [answered] at carries
  exact carries

theorem Intact.step (intact : Intact content t) (nonempty : ∀ key, content key ≠ [])
    (orderly : Orderly capacity t) (step : Step t e t') (respects : Respects content t e t') :
    Serves content e t' := by
  cases step with
  | start d calls id call fresh => exact serves_start intact nonempty call _ respects
  | resume d calls id o waits ready =>
    exact serves_resume intact nonempty orderly waits ready respects
  | expire d calls id o limit waits limited late =>
    have core := d.core_expire ⟨id, o.limit, o.stage⟩ limit
    have codec := (Deployment.codec_of_core core).trans (codec_abandon d id o.stage)
    have after := (intact.deployment.abandon id o.stage).of_core core
    refine ⟨intact_gone intact nonempty rfl codec after respects, ?_⟩
    intro _ _ _ same
    cases same
    exact served_expire (intact.carries id o waits) id limit
  | drop d calls id o waits =>
    have after := intact.deployment.abandon id o.stage
    refine ⟨intact_gone intact nonempty rfl (codec_abandon d id o.stage) after respects, ?_⟩
    intro _ _ _ same
    cases same
  | move d calls m =>
    refine ⟨⟨intact.deployment.move (respects.unwritten m rfl), fun id o waits => ?_,
      respects.offers⟩, ?_⟩
    · refine (intact.carries id o waits).preserve nonempty (Deployment.codec_move d m)
        (respects.undisturbed id o waits ?_)
      intro same
      cases same
    · intro _ _ _ same
      cases same

theorem intact_of_steps {start : Deployment} {events : List Event} (fresh : start.Fresh capacity)
    (empty : start.fleet.stores = []) (lawful : start.l2.codec.scheme.Lawful)
    (nonempty : ∀ key, content key ≠ [])
    (steps : Steps (Respects content) ⟨start, .none⟩ events t) :
    Orderly capacity t ∧ Intact content t := by
  refine steps.preserve (fun t => Orderly capacity t ∧ Intact content t) ?_ ⟨.fresh fresh, ?_⟩
  · rintro t e t' step respects ⟨orderly, intact⟩
    exact ⟨orderly.step step, (intact.step nonempty orderly step respects).intact⟩
  · refine ⟨fresh.intact (fun id key frame found => ?_) lawful, ?_, ?_⟩
    · rw [L2.Fleet.frame?, L2.Fleet.store?, empty] at found
      cases found
    · intro id o waits
      cases waits
    · intro id o waits
      cases waits

end Traffic

end BlockTier.Sidecar
