import BlockTier.Proofs.Sidecar.LoneReceive
import BlockTier.Proofs.Sidecar.SoloRun
/-!
An offload beside which no other call runs, step by step. Until the first tier has the block or the
fleet has taken its frame, nothing that is stored has changed but that blocks have been evicted.
-/
namespace BlockTier.Sidecar.Deployment

variable {d d' d₁ d₂ : Deployment} {ds : List Deployment} {key : String} {block : BlockRef}
  {id : Nat} {s : Status} {stage : Stage}

/-- The first tier has a block of this size under the key. -/
def Holds (d : Deployment) (key : String) (size : Nat) : Prop :=
  (d.tier.cache.find? key).map (·.size) = some size

theorem Holds.of_cache {size : Nat} (holds : d₁.Holds key size)
    (cache : d₂.tier.cache = d₁.tier.cache) : d₂.Holds key size := by
  rw [Holds, cache]
  exact holds

theorem holds_of_find? {e : Extent} {size : Nat} (found : d.tier.cache.find? key = some e)
    (same : e.size = size) : d.Holds key size := by
  rw [Holds, found, Option.map_some, same]

/-- Nothing has been put on the fleet. -/
structure Withheld (d d' : Deployment) : Prop where
  stores : d'.fleet.stores = d.fleet.stores
  policy : d'.policy = d.policy
  codec : d'.l2.codec = d.l2.codec

theorem Withheld.of_core (withheld : d.Withheld d₁) (same : d₂.core = d₁.core) :
    d.Withheld d₂ :=
  ⟨(congrArg (fun f => f.stores) (fleet_of_core same)).trans withheld.stores,
    (congrArg (fun d => d.policy) same).trans withheld.policy,
    (codec_of_core same).trans withheld.codec⟩

theorem Withheld.spared (withheld : d.Withheld d₁) (spared : d₁.Spared d₂) : d.Withheld d₂ :=
  ⟨spared.stores.trans withheld.stores, spared.policy.trans withheld.policy,
    spared.codec.trans withheld.codec⟩

/-- The first tier has not had the block in any of the states, and what it had under the key it has
kept as it was or evicted. -/
structure Wanting (d : Deployment) (ds : List Deployment) (key : String) (block : BlockRef)
    (d' : Deployment) : Prop where
  first : ¬ d.Holds key block.size
  never : ∀ u ∈ ds, ¬ u.Holds key block.size
  kept : ∀ e, d'.tier.cache.find? key = some e → d.tier.cache.find? key = some e
  pool : d'.tier.copier.pool = d.tier.copier.pool

theorem Wanting.not_holds (wanting : Wanting d ds key block d') : ¬ d'.Holds key block.size := by
  intro holds
  obtain ⟨e, found, same⟩ := Option.map_eq_some_iff.mp holds
  exact wanting.first (holds_of_find? (wanting.kept e found) same)

theorem Wanting.of_tier (wanting : Wanting d ds key block d₁)
    (find? : d₂.tier.cache.find? key = d₁.tier.cache.find? key)
    (pool : d₂.tier.copier.pool = d₁.tier.copier.pool) : Wanting d ds key block d₂ :=
  ⟨wanting.first, wanting.never, fun e found => wanting.kept e (find? ▸ found),
    pool.trans wanting.pool⟩

theorem Wanting.of_core (wanting : Wanting d ds key block d₁) (same : d₂.core = d₁.core) :
    Wanting d ds key block d₂ :=
  wanting.of_tier (congrArg (fun c => c.find? key) (cache_of_core same)) (pool_of_core same)

theorem Wanting.passed (wanting : Wanting d ds key block d') :
    Wanting d (d' :: ds) key block d' := by
  refine ⟨wanting.first, fun u member => ?_, wanting.kept, wanting.pool⟩
  rcases List.mem_cons.mp member with rfl | member
  · exact wanting.not_holds
  · exact wanting.never u member

/-- Where an offload can wait that has come through the states `ds`, and what is so there. -/
inductive Offloading (d : Deployment) (ds : List Deployment) (key : String) (block : BlockRef)
    (d' : Deployment) : Stage → Prop
  | entering (same : ∀ u ∈ ds, u.tier.cache.find? key = d.tier.cache.find? key)
    (pool : d'.tier.copier.pool = d.tier.copier.pool) :
    Offloading d ds key block d' (.entering (.put key block .offload))
  | storing (s : L1.Storing) (due : Nat) (wanting : Wanting d ds key block d')
    (named : s.key = key) (size : s.extent.size = block.size) :
    Offloading d ds key block d' (.storing s block .offload due)
  | copying (data : Bytes) (rejection : String) (due : Nat) (wanting : Wanting d ds key block d')
    (read : ∃ u ∈ ds, u.tier.copier.readDevice block = .ok data) :
    Offloading d ds key block d' (.copying (.toBuffer data) (.fallback key rejection) due)
  | sending (node : Node) (data frame : Bytes) (rejection : String) (due : Nat)
    (wanting : Wanting d ds key block d') (encoded : d.l2.codec.encode data = frame)
    (read : ∃ u ∈ ds, u.tier.copier.readDevice block = .ok data)
    (owner : ∃ u ∈ ds, u.l2.owner? key = some node) :
    Offloading d ds key block d' (.sending node key frame (.fallback rejection) due)
  | reading (through : d.policy = .writeThrough) (holds : d'.Holds key block.size) :
    Offloading d ds key block d' (.entering (.read key .writeThrough))
  | mirroring (node : Node) (frame : Bytes) (due : Nat) (through : d.policy = .writeThrough)
    (holds : d'.Holds key block.size) :
    Offloading d ds key block d' (.sending node key frame .writeThrough due)

/-- The offload waits on while the surroundings move. -/
theorem Offloading.beside (offloading : Offloading d ds key block d₁ stage)
    (here : d₁ ∈ ds) (spared : d₁.Spared d₂) : Offloading d (d₂ :: ds) key block d₂ stage := by
  have passed (wanting : Wanting d ds key block d₁) : Wanting d (d₂ :: ds) key block d₂ :=
    (wanting.of_tier (congrArg (fun c => c.find? key) spared.cache) spared.pool).passed
  have earlier {P : Deployment → Prop} (before : ∃ u ∈ ds, P u) : ∃ u ∈ d₂ :: ds, P u := by
    obtain ⟨u, member, holds⟩ := before
    exact ⟨u, List.mem_cons_of_mem _ member, holds⟩
  cases offloading with
  | entering same pool =>
    refine .entering (fun u member => ?_) (spared.pool.trans pool)
    rcases List.mem_cons.mp member with rfl | member
    · rw [spared.cache]
      exact same d₁ here
    · exact same u member
  | storing s due wanting named size => exact .storing s due (passed wanting) named size
  | copying data rejection due wanting read =>
    exact .copying data rejection due (passed wanting) (earlier read)
  | sending node data frame rejection due wanting encoded read owner =>
    exact .sending node data frame rejection due (passed wanting) encoded (earlier read)
      (earlier owner)
  | reading through holds => exact .reading through (holds.of_cache spared.cache)
  | mirroring node frame due through holds =>
    exact .mirroring node frame due through (holds.of_cache spared.cache)

/-- The fleet takes the frame of the data that the call has been sending. -/
structure Deposits (d : Deployment) (stage : Stage) (key : String) (node : Node) (data : Bytes)
    (d' : Deployment) : Prop where
  sending : ∃ use due, stage = .sending node key (d.l2.codec.encode data) use due
  taken : (d.fleet.put node key (d.l2.codec.encode data)).2 = .ok ()
  fleet : d'.fleet = (d.fleet.put node key (d.l2.codec.encode data)).1

/-- How an offload goes on from a stage. -/
inductive Offloads (id : Nat) (d : Deployment) (ds : List Deployment) (key : String)
    (block : BlockRef) (d' : Deployment) (stage : Stage) : Deployment × Turn → Prop
  | waits (d'' : Deployment) (s : Stage) (withheld : d.Withheld d'')
    (next : Offloading d (d''.arrive id s :: ds) key block (d''.arrive id s) s) :
    Offloads id d ds key block d' stage (d'', .wait s)
  | stored (d'' : Deployment) (s : Status) (success : s.success = true)
    (holds : d''.Holds key block.size)
    (exclusive : d.policy = .exclusive → d''.fleet.stores = d.fleet.stores) :
    Offloads id d ds key block d' stage (d'', .done (.status s))
  | sent (d'' : Deployment) (s : Status) (node : Node) (data : Bytes) (success : s.success = true)
    (deposits : d'.Deposits stage key node data d'')
    (read : ∃ u ∈ ds, u.tier.copier.readDevice block = .ok data)
    (owner : ∃ u ∈ ds, u.l2.owner? key = some node) (wanting : Wanting d ds key block d'') :
    Offloads id d ds key block d' stage (d'', .done (.status s))
  | failed (d'' : Deployment) (s : Status) (failure : s.success = false)
    (wanting : Wanting d ds key block d'')
    (frames : ∀ i k, d''.fleet.frame? i k = d.fleet.frame? i k) :
    Offloads id d ds key block d' stage (d'', .done (.status s))

theorem frame?_of_stores {f f' : L2.Fleet} (stores : f'.stores = f.stores) (i k : String) :
    f'.frame? i k = f.frame? i k := by
  simp only [L2.Fleet.frame?, L2.Fleet.store?, stores]

/-- A block that the first tier has taken. -/
theorem offloads_stored (withheld : d.Withheld d₁) (holds : d₁.Holds key block.size)
    (success : s.success = true) :
    Offloads id d ds key block d' stage (d₁.afterPut key block .offload s) := by
  simp only [afterPut, success, ↓reduceIte]
  cases policy : (d₁.countTally _).policy with
  | exclusive => exact .stored _ _ rfl holds fun _ => withheld.stores
  | writeThrough =>
    have through : d.policy = .writeThrough := withheld.policy.symm.trans policy
    exact .waits _ _ ⟨withheld.stores, withheld.policy, withheld.codec⟩ (.reading through holds)

theorem offloads_failed {r : Deployment × Turn} (withheld : d.Withheld d₁)
    (wanting : Wanting d ds key block d₁) (same : r.1.core = d₁.core)
    (failed : ∃ s, r.2 = .done (.status s) ∧ s.success = false) :
    Offloads id d ds key block d' stage r := by
  obtain ⟨d₂, turn⟩ := r
  obtain ⟨s, rfl, failure⟩ := failed
  exact .failed d₂ s failure (wanting.of_core same)
    (frame?_of_stores (withheld.of_core same).stores)

/-- A block that the first tier has rejected. -/
theorem offloads_rejected (here : d' ∈ ds) (withheld : d.Withheld d₁)
    (wanting : Wanting d ds key block d₁)
    (devices : d₁.tier.copier.devices = d'.tier.copier.devices) (failure : s.success = false) :
    Offloads id d ds key block d' stage (d₁.afterPut key block .offload s) := by
  have same := (d₁.continues_afterPut key block .offload s).core
  simp only [afterPut, failure, Bool.false_eq_true, ↓reduceIte, startCopy, Copier.start,
    Copier.begin?] at same ⊢
  cases read : d₁.tier.copier.readDevice block with
  | error e =>
    rw [read] at same
    exact offloads_failed withheld wanting same ⟨_, rfl, rfl⟩
  | ok data =>
    rw [read] at same
    refine .waits _ _ (withheld.of_core same) (.copying data _ _ (wanting.of_core same).passed ?_)
    refine ⟨d', List.mem_cons_of_mem _ here, ?_⟩
    rw [← Copier.readDevice_congr devices]
    exact read

/-- A block on its way to the fleet. -/
theorem offloads_sendFor {data : Bytes} {rejection : String} (withheld : d.Withheld d₁)
    (wanting : Wanting d ds key block d₁) (l2 : d₁.l2 = d'.l2) (here : d' ∈ ds)
    (read : ∃ u ∈ ds, u.tier.copier.readDevice block = .ok data) :
    Offloads id d ds key block d' stage (d₁.sendFor key data (.fallback rejection)) := by
  have same := (d₁.continues_sendFor key data (.fallback rejection)).core
  simp only [sendFor, L2.Connector.beginPut, L2.Connector.route] at same ⊢
  cases owner : d₁.l2.owner? key with
  | none =>
    rw [owner] at same
    exact offloads_failed withheld wanting same ⟨_, rfl, rfl⟩
  | some node =>
    rw [owner] at same
    refine .waits _ _ (withheld.of_core same) (.sending node data _ rejection _
      (wanting.of_core same).passed (congrArg (fun c => c.encode data) withheld.codec.symm) ?_
      ⟨d', List.mem_cons_of_mem _ here, l2 ▸ owner⟩)
    obtain ⟨u, member, there⟩ := read
    exact ⟨u, List.mem_cons_of_mem _ member, there⟩

/-- Unless the block is there already, the first tier has it in none of the states. -/
theorem wanting_of_begun (here : d' ∈ ds)
    (same : ∀ u ∈ ds, u.tier.cache.find? key = d.tier.cache.find? key)
    (pool : d'.tier.copier.pool = d.tier.copier.pool)
    (other : ∀ size, (d'.tier.cache.beginPut key block.size).2 ≠ .resident size)
    (cache : d'.tier.cache.Shrinks d₁.tier.cache)
    (still : d₁.tier.copier.pool = d'.tier.copier.pool) : Wanting d ds key block d₁ := by
  have absent : ¬ d.Holds key block.size := by
    intro holds
    rw [Holds, ← same d' here] at holds
    obtain ⟨e, found, size⟩ := Option.map_eq_some_iff.mp holds
    exact other _ (L1.Cache.beginPut_of_resident found size)
  refine ⟨absent, fun u member holds => absent ?_, fun e found => ?_, still.trans pool⟩
  · rwa [Holds, same u member] at holds
  · rw [← same d' here]
    exact cache.kept key e found

theorem offloads_entering (here : d' ∈ ds) (withheld : d.Withheld d')
    (consistent : d'.tier.cache.Consistent none)
    (same : ∀ u ∈ ds, u.tier.cache.find? key = d.tier.cache.find? key)
    (pool : d'.tier.copier.pool = d.tier.copier.pool) :
    Offloads id d ds key block d' (.entering (.put key block .offload))
      (d'.resume (.entering (.put key block .offload))) := by
  have begins := d'.tier.beginPut_begins key block
  have shrinks := begins.shrinks consistent
  have regions := begins.sameRegions
  have unlocked (tier : L1.Tier) : d.Withheld (d'.withTier tier).unlock :=
    ⟨withheld.stores, withheld.policy, withheld.codec⟩
  simp only [resume, enter]
  generalize d'.tier.beginPut key block = begun at begins shrinks regions ⊢
  cases begins with
  | resident e s found size success =>
    refine offloads_stored (unlocked _) ?_ success
    exact holds_of_find? (L1.Cache.find?_beginPut_of_resident found size) size
  | refused refusal refused =>
    refine offloads_rejected here (unlocked _) ?_ regions.devices ?_
    · refine wanting_of_begun here same pool (fun size => ?_) shrinks regions.pool
      rw [refused]
      intro absent
      cases absent
    · cases refusal <;> rfl
  | unread e evicted error taken unread =>
    refine offloads_rejected here (unlocked _) ?_ regions.devices rfl
    refine wanting_of_begun here same pool (fun size => ?_) shrinks regions.pool
    rw [taken]
    intro absent
    cases absent
  | reading e evicted data taken read size =>
    refine .waits _ _ ⟨withheld.stores, withheld.policy, withheld.codec⟩
      (.storing _ _ (Wanting.passed ?_) rfl size.symm)
    refine wanting_of_begun here same pool (fun size => ?_) shrinks regions.pool
    rw [taken]
    intro absent
    cases absent

theorem offloads_storing (here : d' ∈ ds) (withheld : d.Withheld d') {s : L1.Storing} {due : Nat}
    (wanting : Wanting d ds key block d') (named : s.key = key)
    (size : s.extent.size = block.size) (target : ∃ data, s.copying = .toPool data s.extent) :
    Offloads id d ds key block d' (.storing s block .offload due)
      (d'.resume (.storing s block .offload due)) := by
  have ends := d'.tier.finishPut_ends s
  have devices := ends.devices target
  have unlocked (tier : L1.Tier) : d.Withheld (d'.withTier tier).unlock :=
    ⟨withheld.stores, withheld.policy, withheld.codec⟩
  simp only [resume, named]
  generalize d'.tier.finishPut s = ended at ends devices ⊢
  cases ends with
  | stored placed copier status written same success =>
    refine offloads_stored (unlocked _) (holds_of_find? ?_ size) success
    exact (L1.Cache.find?_commitPut _ s.key s.extent key).trans (if_pos named.symm)
  | failed e unwritten =>
    exact offloads_rejected here (unlocked _) (wanting.of_tier rfl rfl) devices rfl

theorem offloads_sending (withheld : d.Withheld d') {node : Node} {data frame : Bytes}
    {rejection : String} {due : Nat} (wanting : Wanting d ds key block d')
    (encoded : d.l2.codec.encode data = frame)
    (read : ∃ u ∈ ds, u.tier.copier.readDevice block = .ok data)
    (owner : ∃ u ∈ ds, u.l2.owner? key = some node) :
    Offloads id d ds key block d' (.sending node key frame (.fallback rejection) due)
      (d'.resume (.sending node key frame (.fallback rejection) due)) := by
  have codec : d'.l2.codec.encode data = frame := by rw [withheld.codec, encoded]
  subst codec
  cases put : d'.fleet.put node key (d'.l2.codec.encode data) with
  | mk fleet out =>
    simp only [resume, put]
    cases out with
    | ok _ =>
      refine .sent _ _ node data rfl ⟨⟨_, due, rfl⟩, congrArg Prod.snd put, ?_⟩ read owner
        (wanting.of_tier rfl rfl)
      rw [put]
      rfl
    | error e =>
      have failure := (code_transportFailure d'.l2 e).1
      simp only [L2.Connector.finishPut, afterSend, failure, Bool.false_eq_true, ↓reduceIte,
        endOffload, Status.annotate]
      refine .failed _ _ rfl (wanting.of_tier rfl rfl) fun i k => ?_
      have kept := L2.Fleet.frame?_put_of_error (congrArg Prod.snd put) i k
      rw [put] at kept
      exact kept.trans (frame?_of_stores withheld.stores i k)

theorem offloads_reading (withheld : d.Withheld d') (through : d.policy = .writeThrough)
    (holds : d'.Holds key block.size) :
    Offloads id d ds key block d' (.entering (.read key .writeThrough))
      (d'.resume (.entering (.read key .writeThrough))) := by
  simp only [resume, enter]
  cases d'.tier.read? key with
  | none => exact .stored _ _ rfl holds fun _ => withheld.stores
  | some data =>
    simp only [afterRead, sendFor, L2.Connector.beginPut, L2.Connector.route]
    cases d'.unlock.l2.owner? key with
    | none => exact .stored _ _ rfl holds fun _ => withheld.stores
    | some node =>
      exact .waits _ _ ⟨withheld.stores, withheld.policy, withheld.codec⟩
        (.mirroring node _ _ through holds)

theorem offloads_mirroring {node : Node} {frame : Bytes} {due : Nat}
    (through : d.policy = .writeThrough) (holds : d'.Holds key block.size) :
    Offloads id d ds key block d' (.sending node key frame .writeThrough due)
      (d'.resume (.sending node key frame .writeThrough due)) := by
  refine .stored _ _ rfl holds fun exclusive => ?_
  rw [through] at exclusive
  cases exclusive

/-- Each wait that is over leads an offload on, or to an answer that says what it has stored. -/
theorem Offloading.resume (offloading : Offloading d ds key block d' stage) (here : d' ∈ ds)
    (withheld : d.Withheld d') (sound : stage.Sound)
    (consistent : stage.usesLock = true → d'.tier.cache.Consistent stage.work.reserved?) :
    Offloads id d ds key block d' stage (d'.resume stage) := by
  cases offloading with
  | entering same pool => exact offloads_entering here withheld (consistent rfl) same pool
  | storing s due wanting named size =>
    exact offloads_storing here withheld wanting named size sound
  | copying data rejection due wanting read =>
    simp only [Deployment.resume, Copier.finish, Copier.place, afterCopy]
    apply offloads_sendFor
    · exact ⟨withheld.stores, withheld.policy, withheld.codec⟩
    · exact wanting.of_tier rfl rfl
    · rfl
    · exact here
    · exact read
  | sending node data frame rejection due wanting encoded read owner =>
    exact offloads_sending withheld wanting encoded read owner
  | reading through holds => exact offloads_reading withheld through holds
  | mirroring node frame due through holds => exact offloads_mirroring through holds

end BlockTier.Sidecar.Deployment
