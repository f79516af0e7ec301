import BlockTier.Proofs.Sidecar.Carriage
/-!
What a call carries on from each wait. Reading the device, the pool or the fleet gives the content
of the key, so only that is written to any of them.
-/
namespace BlockTier.Sidecar.Deployment

variable {content : String → Bytes} {c : Call} {key : String} {block dest : BlockRef}
  {d d' : Deployment} {r : Deployment × Turn} {s : Status}

theorem read_of_put {use : PutUse} (finds : c.Finds content d)
    (carries : (Stage.entering (.put key block use)).Carries content d c) {data : Bytes}
    (read : d.tier.copier.readDevice block = .ok data) : data = content key := by
  cases use with
  | direct => cases carries
  | offload =>
    obtain ⟨timeout, is⟩ := carries
    exact finds key block timeout data is read
  | promotion =>
    have same := carries.read
    rw [read] at same
    exact Except.ok.inj same

theorem keeps_enter_put (intact : d.Intact content) (consistent : d.tier.cache.Consistent none)
    {use : PutUse} (carries : (Stage.entering (.put key block use)).Carries content d c)
    (finds : c.Finds content d) : Keeps content c (d.enter (.put key block use)) := by
  have begins := d.tier.beginPut_begins key block
  simp only [enter]
  split
  · rename_i tier s begun
    rw [begun] at begins
    have begun_intact : (d.withTier tier).unlock.Intact content :=
      (intact.withTier _ (begins.shrinks consistent).kept begins.sameRegions.pool).unlock
    cases use with
    | direct => cases carries
    | offload =>
      obtain ⟨timeout, is⟩ := carries
      exact keeps_afterPut_offload begun_intact is (finds.of_devices begins.sameRegions.devices) s
    | promotion =>
      exact keeps_afterPut_promotion begun_intact
        (carries.of_devices begins.sameRegions.devices) s
  · rename_i tier storing begun
    rw [begun] at begins
    refine ⟨intact.withTier _ (begins.shrinks consistent).kept begins.sameRegions.pool, ?_⟩
    cases begins with
    | reading e evicted data taken found size =>
      cases read_of_put finds carries found
      cases use with
      | direct => cases carries
      | offload => exact ⟨carries, rfl⟩
      | promotion => exact ⟨carries.of_devices rfl, rfl⟩

theorem keeps_enter_get (intact : d.Intact content) (is : c.IsFetch key dest) :
    Keeps content c (d.enter (.get key dest .fetch)) := by
  have begins := d.tier.beginGet_begins key dest
  simp only [enter]
  split
  · rename_i tier s begun
    rw [begun] at begins
    have kept : tier.cache.find? = d.tier.cache.find? := begins.find?
    have failed : s.success = false := by cases begins <;> rfl
    exact keeps_afterGet (intact.withTier _ (fun _ _ found => kept ▸ found)
      begins.sameRegions.pool).unlock is failed
  · rename_i tier loading begun
    rw [begun] at begins
    cases begins with
    | reading e data found read =>
      have same := intact.resident key e found
      rw [read] at same
      cases same
      exact ⟨intact, is, rfl⟩

theorem keeps_enter (intact : d.Intact content) (consistent : d.tier.cache.Consistent none)
    {errand : Errand} (carries : (Stage.entering errand).Carries content d c)
    (finds : c.Finds content d) : Keeps content c (d.enter errand) := by
  cases errand with
  | put key block use => exact keeps_enter_put intact consistent carries finds
  | get key dest use =>
    cases use with
    | direct => cases carries
    | fetch => exact keeps_enter_get intact carries
  | read key use =>
    cases use with
    | direct => cases carries
    | writeThrough =>
      refine keeps_afterRead intact.unlock carries (fun b read => ?_)
      unfold L1.Tier.read? at read
      split at read
      · cases read
      · rename_i e found
        rw [intact.resident key e found] at read
        exact (Option.some.inj read).symm
  | contains key use =>
    cases use with
    | check => exact keeps_afterContains intact.unlock carries _
    | direct | residency => cases carries
  | makeRoom needed =>
    have kept := (consistent.makeRoom needed).2.kept
    cases carries
    exact keeps_done (intact.withTier (d.tier.makeRoom needed).1 kept rfl).unlock nofun
  | stats tally =>
    cases carries
    exact keeps_done intact.unlock nofun
  | evict | l1Stats => cases carries

theorem Intact.commitPut (intact : d.Intact content) {e : Extent}
    (consistent : d.tier.cache.Consistent (some e)) {placed copier : Copier}
    (written : d.tier.copier.writePool e (content key) = .ok placed)
    (same : placed.SameRegions copier) :
    (d.withTier ⟨d.tier.cache.commitPut key e, copier⟩).Intact content := by
  refine ⟨fun k x found => ?_, intact.stored, intact.lawful⟩
  show copier.readPool x = .ok (content k)
  change (d.tier.cache.commitPut key e).find? k = some x at found
  rw [Copier.readPool_congr same.pool]
  rw [L1.Cache.find?_commitPut] at found
  split at found
  · rename_i here
    cases found
    rw [here]
    exact Copier.readPool_writePool written
  · rw [Copier.readPool_writePool_apart written (consistent.apart_reserved found)]
    exact intact.resident k x found

theorem keeps_storing (intact : d.Intact content) {storing : L1.Storing}
    (consistent : d.tier.cache.Consistent (some storing.extent))
    (target : storing.copying = .toPool (content storing.key) storing.extent) :
    (d.withTier (d.tier.finishPut storing).1).unlock.Intact content ∧
      (d.tier.finishPut storing).1.copier.devices = d.tier.copier.devices := by
  have ends := d.tier.finishPut_ends storing
  cases ended : d.tier.finishPut storing with
  | mk tier s =>
    rw [ended] at ends
    cases ends with
    | stored placed copier status written same success =>
      rw [target] at written
      exact ⟨(intact.commitPut consistent written same).unlock,
        same.devices.trans (Copier.devices_writePool written)⟩
    | failed e unwritten =>
      exact ⟨(intact.withTier ⟨d.tier.cache.failPut storing.extent,
        d.tier.copier.countFailure⟩ (fun _ _ found => found) rfl).unlock, rfl⟩

theorem keeps_loading (intact : d.Intact content) {loading : L1.Loading}
    (is : c.IsFetch loading.key dest)
    (target : loading.copying = .toDevice (content loading.key) dest) :
    Keeps content c ((d.withTier (d.tier.finishGet loading).1).unlock.afterGet loading.key dest
      .fetch (d.tier.finishGet loading).2) := by
  have ends := d.tier.finishGet_ends loading
  cases ended : d.tier.finishGet loading with
  | mk tier s =>
    rw [ended] at ends
    cases ends with
    | loaded placed copier status written same success =>
      rw [target] at written
      have pool : copier.pool = d.tier.copier.pool :=
        same.pool.trans (Copier.pool_writeDevice written)
      have left : copier.readDevice (dest.withSize (content loading.key).length) =
          .ok (content loading.key) := by
        rw [Copier.readDevice_congr same.devices]
        exact Copier.readDevice_writeDevice written
      have after := (intact.withTier ⟨d.tier.cache.commitGet loading.key, copier⟩
        (fun _ _ found => found) pool).unlock
      simp only [afterGet, success, ↓reduceIte]
      exact ⟨after.of_core (core_countTally _ _), is.served left⟩
    | failed e unwritten =>
      exact keeps_afterGet ((intact.withTier { d.tier with
        copier := d.tier.copier.countFailure } (fun _ _ found => found) rfl).unlock) is rfl

theorem keeps_copying (intact : d.Intact content) {moved : Copying} {use : CopyUse} {due : Nat}
    (carries : (Stage.copying moved use due).Carries content d c) :
    Keeps content c ((d.withTier { d.tier with copier := (d.tier.copier.finish moved).1 }).afterCopy
      moved use (d.tier.copier.finish moved).2) := by
  cases use with
  | report | buffer => cases carries
  | fallback key rejection =>
    obtain ⟨is, rfl⟩ := carries
    have after : (d.withTier { d.tier with
        copier := (d.tier.copier.finish (.toBuffer (content key))).1 }).Intact content :=
      intact.withTier _ (fun _ _ found => found) rfl
    exact keeps_sendFor after is nofun
  | restore key dest =>
    obtain ⟨is, rfl⟩ := carries
    rcases d.tier.copier.finish_eq (.toDevice (content key) dest) with
      ⟨placed, written, same, report⟩ | ⟨e, unwritten, ended⟩
    · have pool : (d.tier.copier.finish (.toDevice (content key) dest)).1.pool =
          d.tier.copier.pool := same.pool.trans (Copier.pool_writeDevice written)
      have fits := (Copier.writeDevice_eq_ok_iff.mp written).1
      have after := intact.withTier { d.tier with
        copier := (d.tier.copier.finish (.toDevice (content key) dest)).1 }
        (fun _ _ found => found) pool
      rw [report]
      refine ⟨after.of_core (core_countTally _ _), ⟨dest, is, rfl, fits⟩, ?_⟩
      show (d.tier.copier.finish (.toDevice (content key) dest)).1.readDevice
        (dest.withSize (content key).length) = .ok (content key)
      rw [Copier.readDevice_congr same.devices]
      exact Copier.readDevice_writeDevice written
    · rw [ended]
      have after := intact.withTier { d.tier with copier := d.tier.copier.countFailure }
        (fun _ _ found => found) rfl
      exact ⟨after, c.served_of_failed _ rfl⟩

theorem keeps_sending (intact : d.Intact content) (node : Node) {frame : Bytes} (use : SendUse)
    (is : c.IsOffload key) (decoded : d.l2.codec.decode frame = .ok (content key)) :
    Keeps content c (afterSend { d with
      fleet := (d.fleet.put node key frame).1
      l2 := (d.l2.finishPut node (d.fleet.put node key frame).2).1 } use
        (d.l2.finishPut node (d.fleet.put node key frame).2).2) := by
  have codec : (d.l2.finishPut node (d.fleet.put node key frame).2).1.codec = d.l2.codec :=
    congrArg (fun l2 => l2.codec) (d.l2.uncounted_finishPut node _)
  refine keeps_afterSend (d := { d with
      fleet := (d.fleet.put node key frame).1
      l2 := (d.l2.finishPut node (d.fleet.put node key frame).2).1 })
    ⟨intact.resident, fun i k old found => ?_, ?_⟩ is use _
  · show (d.l2.finishPut node (d.fleet.put node key frame).2).1.codec.decode old = .ok (content k)
    rw [codec]
    cases put : (d.fleet.put node key frame).2 with
    | ok _ =>
      rw [L2.Fleet.frame?_put put] at found
      split at found
      · rename_i here
        cases found
        rw [here.2]
        exact decoded
      · exact intact.stored i k old found
    | error e =>
      rw [L2.Fleet.frame?_put_of_error put] at found
      exact intact.stored i k old found
  · show (d.l2.finishPut node (d.fleet.put node key frame).2).1.codec.scheme.Lawful
    rw [codec]
    exact intact.lawful

theorem payload_finishGet (intact : d.Intact content) (node : Node)
    (success : (d.l2.finishGet node (d.fleet.get node key)).2.success = true) :
    (d.l2.finishGet node (d.fleet.get node key)).2.payload = some (content key) := by
  rw [L2.Fleet.get_eq] at success ⊢
  cases reached : d.fleet.reach node with
  | error e =>
    rw [reached] at success
    simp only [Except.map, L2.Connector.finishGet, L2.Connector.transportFailure] at success
    split at success <;> cases success
  | ok _ =>
    rw [reached] at success
    cases there : d.fleet.frame? node.id key with
    | none =>
      rw [there] at success
      cases success
    | some frame =>
      simp only [Except.map, L2.Connector.finishGet, intact.stored node.id key frame there]
      rfl

theorem keeps_resume (intact : d.Intact content) {stage : Stage}
    (consistent : stage.usesLock = true → d.tier.cache.Consistent stage.work.reserved?)
    (carries : stage.Carries content d c) (finds : c.Finds content d) :
    Keeps content c (d.resume stage) := by
  cases stage with
  | entering errand => exact keeps_enter intact (consistent rfl) carries finds
  | storing s block use due =>
    cases use with
    | direct => cases carries
    | offload =>
      obtain ⟨⟨timeout, is⟩, target⟩ := carries
      obtain ⟨after, devices⟩ := keeps_storing intact (consistent rfl) target
      exact keeps_afterPut_offload after is (finds.of_devices devices) _
    | promotion =>
      obtain ⟨restored, target⟩ := carries
      obtain ⟨after, devices⟩ := keeps_storing intact (consistent rfl) target
      exact keeps_afterPut_promotion after (restored.of_devices devices) _
  | loading l dest use due =>
    cases use with
    | direct => cases carries
    | fetch => exact keeps_loading intact carries.1 carries.2
  | copying moved use due => exact keeps_copying intact carries
  | sending node key frame use due =>
    cases use with
    | direct => cases carries
    | fallback rejection =>
      exact keeps_sending intact node (.fallback rejection) carries.1 carries.2
    | writeThrough =>
      exact keeps_sending intact node .writeThrough carries.1 carries.2
  | receiving node key use due =>
    cases use with
    | direct => cases carries
    | fetch dest =>
      have same := core_withL2 (d.l2.uncounted_finishGet node (d.fleet.get node key))
      exact keeps_afterReceive (intact.of_core same) carries (payload_finishGet intact node)
  | probing node key use due =>
    cases use with
    | direct => cases carries
    | check =>
      cases carries
      exact keeps_done (intact.of_core
        (core_withL2 (d.l2.uncounted_finishExists node (d.fleet.holds node key)))) nofun
  | resting due => cases carries

theorem keeps_begin (intact : d.Intact content) (managed : c.IsManaged) :
    Keeps content c (d.begin c) := by
  refine .of_continues intact (continues_begin d c) ?_
  cases c with
  | offload key block timeout =>
    simp only [begin]
    split
    · exact Call.IsOffload.served ⟨block, timeout, rfl⟩ _ _
    · exact ⟨timeout, rfl⟩
  | fetch key dest timeout =>
    simp only [begin]
    split
    · rename_i s refused
      refine Call.served_of_failed _ _ ?_
      unfold refusal? at refused
      split at refused
      · cases refused
        rfl
      · split at refused <;> cases refused
        rfl
    · exact ⟨timeout, rfl⟩
  | check key => rfl
  | makeRoom needed => rfl
  | stats => rfl
  | _ => cases managed

end BlockTier.Sidecar.Deployment
