import BlockTier.Proofs.Sidecar.Effects
/-!
A wait that is over. What the call does in the first tier is a run of the cache, and it keeps the
lock only while it copies.
-/
namespace BlockTier.Sidecar.Deployment

open L1 (Leads)

/-- How a call goes on from a stage. -/
structure Works (d : Deployment) (stage : Stage) (r : Deployment × Turn) : Prop where
  cache : Leads d.tier.cache stage.work r.1.tier.cache r.2.work
  outside : stage.usesLock = false → r.1.tier.cache = d.tier.cache
  keeps : r.2.work ≠ .idle → stage.usesLock = true ∧ r.1.lock = d.lock
  frees : r.2.work = .idle → r.1.lock = if stage.usesLock then d.lock.release else d.lock
  pool : r.1.tier.copier.pool.length = d.tier.copier.pool.length
  mapped : d.tier.Mapped → r.1.tier.Mapped
  sound : ∀ s, r.2 = .wait s → s.Sound
  grows : d.Grows r.1

/-- A change of the tier that keeps what is mapped inside the pool. -/
structure Moves (t : L1.Tier) (w : L1.Work) (t' : L1.Tier) (w' : L1.Work) : Prop where
  cache : Leads t.cache w t'.cache w'
  pool : t'.copier.pool.length = t.copier.pool.length
  mapped : t.Mapped → t'.Mapped

theorem Moves.refl (t : L1.Tier) (w : L1.Work) : Moves t w t w := ⟨.refl _ _, rfl, id⟩

theorem Moves.of_find? {t t' : L1.Tier} {w w' : L1.Work} (cache : Leads t.cache w t'.cache w')
    (pool : t'.copier.pool.length = t.copier.pool.length)
    (find? : t'.cache.find? = t.cache.find?) : Moves t w t' w' := by
  refine ⟨cache, pool, fun mapped key e found => ?_⟩
  rw [find?] at found
  rw [pool]
  exact mapped key e found

variable {d : Deployment} {stage : Stage} {r : Deployment × Turn}

theorem mapped_of_core {d d' : Deployment} (same : d'.core = d.core) (mapped : d.tier.Mapped) :
    d'.tier.Mapped := by
  intro key e found
  rw [cache_of_core same] at found
  rw [pool_of_core same]
  exact mapped key e found

theorem Continues.sound (continues : d.Continues r) (s : Stage) (waits : r.2 = .wait s) :
    s.Sound := by
  have idle := continues.idle
  rw [waits] at idle
  exact Stage.sound_of_idle idle

theorem Works.freed (tier : L1.Tier) (uses : stage.usesLock = true)
    (moves : Moves d.tier stage.work tier .idle)
    (continues : (d.withTier tier).unlock.Continues r) : d.Works stage r := by
  have cache := cache_of_core continues.core
  have lock := lock_of_core continues.core
  have pool := pool_of_core continues.core
  have grows : d.Grows (d.withTier tier).unlock := ⟨rfl, rfl, rfl, .refl _⟩
  refine ⟨?_, fun unused => ?_, fun busy => absurd continues.idle busy, fun _ => ?_, ?_, ?_, ?_,
    grows.trans (.of_core continues.core)⟩
  · rw [cache, continues.idle]
    exact moves.cache
  · rw [uses] at unused
    cases unused
  · rw [lock, if_pos uses]
    rfl
  · rw [pool]
    exact moves.pool
  · exact fun mapped => mapped_of_core continues.core (moves.mapped mapped)
  · exact continues.sound

theorem Works.kept {tier : L1.Tier} {s : Stage} (uses : stage.usesLock = true)
    (moves : Moves d.tier stage.work tier s.work) (busy : s.work ≠ .idle) (sound : s.Sound) :
    d.Works stage (d.withTier tier, .wait s) := by
  refine ⟨moves.cache, fun unused => ?_, fun _ => ⟨uses, rfl⟩, fun idle => absurd idle busy,
    moves.pool, moves.mapped, ?_, ⟨rfl, rfl, rfl, .refl _⟩⟩
  · rw [uses] at unused
    cases unused
  · rintro _ ⟨⟩
    exact sound

theorem Works.unlocked (d' : Deployment) (unused : stage.usesLock = false)
    (lock : d'.lock = d.lock) (cache : d'.tier.cache = d.tier.cache)
    (pool : d'.tier.copier.pool.length = d.tier.copier.pool.length)
    (grows : d.Grows d') (continues : d'.Continues r) : d.Works stage r := by
  have same : r.1.tier.cache = d.tier.cache := (cache_of_core continues.core).trans cache
  have length : r.1.tier.copier.pool.length = d.tier.copier.pool.length :=
    (congrArg List.length (pool_of_core continues.core)).trans pool
  have idle := Stage.idle_of_unused unused
  refine ⟨?_, fun _ => same, fun busy => absurd continues.idle busy, fun _ => ?_, length,
    fun mapped key e found => ?_, continues.sound, grows.trans (.of_core continues.core)⟩
  · rw [same, continues.idle, idle]
    exact .refl _ _
  · rw [lock_of_core continues.core, lock, unused]
    rfl
  · rw [length]
    exact mapped key e (same ▸ found)

theorem moves_beginPut {t t' : L1.Tier} {key : String} {block : BlockRef}
    {out : Status ⊕ L1.Storing} (consistent : t.cache.Consistent none)
    (begins : t.PutBegins key block (t', out)) : Moves t .idle t' (L1.Tier.workOfPut out) :=
  ⟨begins.leads, congrArg List.length begins.sameRegions.pool, fun mapped =>
    mapped.of_shrinks (begins.shrinks consistent) begins.sameRegions.pool⟩

theorem moves_beginGet {t t' : L1.Tier} {key : String} {dest : BlockRef}
    {out : Status ⊕ L1.Loading} (begins : t.GetBegins key dest (t', out)) :
    Moves t .idle t' (L1.Tier.workOfGet out) :=
  .of_find? begins.leads (congrArg List.length begins.sameRegions.pool) begins.find?

theorem works_enter (consistent : d.tier.cache.Consistent none) (errand : Errand) :
    d.Works (.entering errand) (d.enter errand) := by
  cases errand with
  | put key block use =>
    have begins := d.tier.beginPut_begins key block
    simp only [enter]
    split
    · rename_i tier s begun
      rw [begun] at begins
      exact .freed _ rfl (moves_beginPut consistent begins) (continues_afterPut _ _ _ _ _)
    · rename_i tier storing begun
      rw [begun] at begins
      refine .kept rfl (moves_beginPut consistent begins) (fun absent => by cases absent) ?_
      cases begins with
      | reading e evicted data taken read size => exact ⟨data, rfl⟩
  | get key dest use =>
    have begins := d.tier.beginGet_begins key dest
    simp only [enter]
    split
    · rename_i tier s begun
      rw [begun] at begins
      exact .freed _ rfl (moves_beginGet begins) (continues_afterGet _ _ _ _ _)
    · rename_i tier loading begun
      rw [begun] at begins
      exact .kept rfl (moves_beginGet begins) (fun absent => by cases absent) trivial
  | read key use => exact .freed _ rfl (.refl d.tier .idle) (continues_afterRead _ _ _ _)
  | contains key use => exact .freed _ rfl (.refl d.tier .idle) (continues_afterContains _ _ _ _)
  | evict key =>
    refine .freed (d.tier.evict key).1 rfl ⟨(L1.Step.evict _ key).leads, rfl, ?_⟩
      (continues_done _ _)
    exact fun mapped => mapped.of_shrinks (L1.Cache.shrinks_evict consistent key) rfl
  | makeRoom needed =>
    refine .freed (d.tier.makeRoom needed).1 rfl
      ⟨(L1.Step.makeRoom _ needed).leads, rfl, ?_⟩ (continues_done _ _)
    exact fun mapped => mapped.of_shrinks (consistent.makeRoom needed).2 rfl
  | l1Stats => exact .freed _ rfl (.refl d.tier .idle) (continues_done _ _)
  | stats tally => exact .freed _ rfl (.refl d.tier .idle) (continues_done _ _)

theorem length_pool_finish (c : Copier) (copying : Copying) :
    (c.finish copying).1.pool.length = c.pool.length := by
  rcases c.finish_eq copying with ⟨placed, written, same, _⟩ | ⟨e, _, failed⟩
  · rw [same.pool]
    exact L1.Tier.length_pool_place written
  · rw [failed]
    rfl

theorem works_resume (sound : stage.Sound)
    (consistent : stage.usesLock = true → d.tier.cache.Consistent stage.work.reserved?) :
    d.Works stage (d.resume stage) := by
  cases stage with
  | entering errand => exact works_enter (consistent rfl) errand
  | storing s block use due =>
    have ends := d.tier.finishPut_ends s
    exact .freed _ rfl ⟨ends.leads, ends.length_pool, ends.mapped sound⟩
      (continues_afterPut _ _ _ _ _)
  | loading l dest use due =>
    have ends := d.tier.finishGet_ends l
    exact .freed _ rfl (.of_find? ends.leads ends.length_pool ends.find?)
      (continues_afterGet _ _ _ _ _)
  | copying c use due =>
    exact .unlocked (d.withTier { d.tier with copier := (d.tier.copier.finish c).1 }) rfl rfl rfl
      (length_pool_finish d.tier.copier c) ⟨rfl, rfl, rfl, .refl _⟩ (continues_afterCopy _ _ _ _)
  | sending node key frame use due =>
    have same := d.l2.uncounted_finishPut node (d.fleet.put node key frame).2
    exact .unlocked { d with
        fleet := (d.fleet.put node key frame).1
        l2 := (d.l2.finishPut node (d.fleet.put node key frame).2).1 } rfl rfl rfl rfl
      ⟨same, rfl, rfl, d.fleet.grows_put node key frame⟩ (continues_afterSend _ _ _)
  | receiving node key use due =>
    have same := core_withL2 (d.l2.uncounted_finishGet node (d.fleet.get node key))
    cases use with
    | direct => exact .unlocked _ rfl rfl rfl rfl (.refl d) ⟨same, rfl⟩
    | fetch dest =>
      refine .unlocked _ rfl rfl rfl rfl (.refl d) (.trans same ?_)
      exact continues_afterReceive _ _ _ _
  | probing node key use due =>
    have same := core_withL2 (d.l2.uncounted_finishExists node (d.fleet.holds node key))
    exact .unlocked _ rfl rfl rfl rfl (.refl d) ⟨same, rfl⟩
  | resting due => exact .unlocked _ rfl rfl rfl rfl (.refl d) (continues_done d _)

end BlockTier.Sidecar.Deployment
