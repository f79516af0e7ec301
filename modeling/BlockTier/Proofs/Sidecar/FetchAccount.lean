import BlockTier.Proofs.Sidecar.LoneFetch
/-!
What a fetch has done by its own steps when it is answered. It changes a device only in the step in
which it counts its hit, and all that can go wrong after that step is that its deadline passes while
it promotes the block.
-/
namespace BlockTier.Sidecar

namespace Stage

/-- The stages of a fetch that has not written its block. -/
def seeks : Stage → Bool
  | entering (.get _ _ .fetch) | loading _ _ .fetch _ | receiving _ _ (.fetch _) _
  | copying _ (.restore ..) _ => true
  | _ => false

/-- The stages of a fetch that has written its block. -/
def promotes : Stage → Bool
  | entering (.put _ _ .promotion) | storing _ _ .promotion _ => true
  | _ => false

theorem promotes_of_seeks {s : Stage} (here : s.seeks = true) : s.promotes = false := by
  unfold seeks at here
  split at here
  · rfl
  · rfl
  · rfl
  · rfl
  · cases here

theorem isWriteThrough_of_seeks {s : Stage} (here : s.seeks = true) :
    s.isWriteThrough = false := by
  unfold seeks at here
  split at here
  · rfl
  · rfl
  · rfl
  · rfl
  · cases here

theorem isWriteThrough_of_promotes {s : Stage} (here : s.promotes = true) :
    s.isWriteThrough = false := by
  unfold promotes at here
  split at here
  · rfl
  · rfl
  · cases here

end Stage

namespace Deployment

variable {d d' d'' : Deployment} {s : Status}

/-- Neither the devices nor the counts of hits have changed. -/
structure Stays (d d' : Deployment) : Prop where
  devices : d'.tier.copier.devices = d.tier.copier.devices
  l1Hits : d'.tally.l1Hits = d.tally.l1Hits
  l2Hits : d'.tally.l2Hits = d.tally.l2Hits

theorem Stays.trans (first : d.Stays d') (second : d'.Stays d'') : d.Stays d'' :=
  ⟨second.devices.trans first.devices, second.l1Hits.trans first.l1Hits,
    second.l2Hits.trans first.l2Hits⟩

theorem stays_expire (d : Deployment) (f : Flight) (limit : Limit) :
    d.Stays (d.expire f limit).1 := by
  have abandoned : d.Stays (d.abandon f.id f.stage) := by
    cases f.stage <;> exact ⟨rfl, rfl, rfl⟩
  refine abandoned.trans ?_
  unfold expire
  dsimp only
  split
  · exact ⟨rfl, rfl, rfl⟩
  · split <;> exact ⟨rfl, rfl, rfl⟩

/-- How a fetch goes on that has not written its block: it has not written it yet, it fails, or it
counts one hit. -/
inductive Seeks (d : Deployment) : Deployment × Turn → Prop
  | waits (d' : Deployment) (s : Stage) (stays : d.Stays d') (seeks : s.seeks = true) :
    Seeks d (d', .wait s)
  | failed (d' : Deployment) (s : Status) (stays : d.Stays d') (failure : s.success = false) :
    Seeks d (d', .done (.status s))
  | hit (d' : Deployment) (s : Status) (l1Hits : d'.tally.l1Hits = d.tally.l1Hits + 1)
    (l2Hits : d'.tally.l2Hits = d.tally.l2Hits) (success : s.success = true) :
    Seeks d (d', .done (.status s))
  | restored (d' : Deployment) (s : Stage) (l1Hits : d'.tally.l1Hits = d.tally.l1Hits)
    (l2Hits : d'.tally.l2Hits = d.tally.l2Hits + 1) (promotes : s.promotes = true)
    (sound : s.Sound) : Seeks d (d', .wait s)

theorem seeks_afterGet (stays : d.Stays d') (failure : s.success = false) (key : String)
    (dest : BlockRef) : d.Seeks (d'.afterGet key dest .fetch s) := by
  simp only [afterGet, failure, Bool.false_eq_true, ↓reduceIte, L2.Connector.beginGet,
    L2.Connector.route]
  cases d'.l2.owner? key with
  | none => exact .failed _ _ (stays.trans ⟨rfl, rfl, rfl⟩) rfl
  | some node => exact .waits _ _ (stays.trans ⟨rfl, rfl, rfl⟩) rfl

theorem seeks_afterReceive (stays : d.Stays d') (key : String) (dest : BlockRef) (s : Status) :
    d.Seeks (d'.afterReceive key dest s) := by
  unfold afterReceive
  split
  · exact .failed _ _ (stays.trans ⟨rfl, rfl, rfl⟩) rfl
  · split
    · rename_i unsuccessful
      refine .failed _ _ stays ?_
      rwa [Bool.not_eq_true'] at unsuccessful
    · dsimp only
      split
      · exact .failed _ _ stays rfl
      · exact .waits _ _ stays rfl

theorem seeks_resume (d : Deployment) {stage : Stage} (seeks : stage.seeks = true) :
    d.Seeks (d.resume stage) := by
  cases stage with
  | entering errand =>
    cases errand with
    | get key dest use =>
      cases use with
      | direct => cases seeks
      | fetch =>
        have begins := d.tier.beginGet_begins key dest
        simp only [resume, enter]
        generalize d.tier.beginGet key dest = begun at begins ⊢
        cases begins with
        | reading e data found read => exact .waits _ _ ⟨rfl, rfl, rfl⟩ rfl
        | miss | unread =>
          apply seeks_afterGet
          · exact ⟨rfl, rfl, rfl⟩
          · rfl
    | _ => cases seeks
  | loading l dest use due =>
    cases use with
    | direct => cases seeks
    | fetch =>
      have ends := d.tier.finishGet_ends l
      simp only [resume]
      generalize d.tier.finishGet l = ended at ends ⊢
      cases ends with
      | loaded placed copier status written same success =>
        simp only [afterGet, success, ↓reduceIte]
        exact .hit _ _ rfl rfl rfl
      | failed e unwritten =>
        apply seeks_afterGet
        · exact ⟨rfl, rfl, rfl⟩
        · rfl
  | receiving node key use due =>
    cases use with
    | direct => cases seeks
    | fetch dest =>
      simp only [resume]
      apply seeks_afterReceive
      exact ⟨rfl, rfl, rfl⟩
  | copying c use due =>
    cases use with
    | restore key dest =>
      simp only [resume]
      rcases d.tier.copier.finish_eq c with ⟨placed, written, same, report⟩ | ⟨e, _, failed⟩
      · simp only [report, afterCopy]
        exact .restored _ _ rfl rfl rfl trivial
      · rw [failed]
        exact .failed _ _ ⟨rfl, rfl, rfl⟩ rfl
    | _ => cases seeks
  | _ => cases seeks

/-- How a fetch goes on that has written its block. -/
inductive Promotes (d : Deployment) : Deployment × Turn → Prop
  | waits (d' : Deployment) (s : Stage) (stays : d.Stays d') (promotes : s.promotes = true)
    (sound : s.Sound) : Promotes d (d', .wait s)
  | done (d' : Deployment) (s : Status) (stays : d.Stays d') (success : s.success = true) :
    Promotes d (d', .done (.status s))

theorem promotes_resume (d : Deployment) {stage : Stage} (promotes : stage.promotes = true)
    (sound : stage.Sound) : d.Promotes (d.resume stage) := by
  cases stage with
  | entering errand =>
    cases errand with
    | put key block use =>
      cases use with
      | promotion =>
        have begins := d.tier.beginPut_begins key block
        have devices := begins.sameRegions.devices
        simp only [resume, enter]
        generalize d.tier.beginPut key block = begun at begins devices ⊢
        cases begins with
        | reading e evicted data taken read size =>
          exact .waits _ _ ⟨devices, rfl, rfl⟩ rfl ⟨data, rfl⟩
        | _ => exact .done _ _ ⟨devices, rfl, rfl⟩ rfl
      | _ => cases promotes
    | _ => cases promotes
  | storing storing block use due =>
    cases use with
    | promotion =>
      exact .done _ _ ⟨(d.tier.finishPut_ends storing).devices sound, rfl, rfl⟩ rfl
    | _ => cases promotes
  | _ => cases promotes

end Deployment

/-- What one call's steps have come to: the hits that they have counted, and whether one of them has
changed a device. -/
structure Account where
  l1Hits : Int := 0
  l2Hits : Int := 0
  wrote : Bool := false
  deriving DecidableEq

def Account.add (a : Account) (d d' : Deployment) : Account where
  l1Hits := a.l1Hits + ((d'.tally.l1Hits : Int) - d.tally.l1Hits)
  l2Hits := a.l2Hits + ((d'.tally.l2Hits : Int) - d.tally.l2Hits)
  wrote := a.wrote || decide (d'.tier.copier.devices ≠ d.tier.copier.devices)

theorem Account.add_of_stays (a : Account) {d d' : Deployment} (stays : d.Stays d') :
    a.add d d' = a := by
  simp only [add, stays.devices, stays.l1Hits, stays.l2Hits, ne_eq, not_true_eq_false,
    decide_false, Bool.or_false, Int.sub_self, Int.add_zero]

/-- One hit, in one of the tiers. -/
def Account.HitsOnce (a : Account) : Prop :=
  a.l1Hits = 1 ∧ a.l2Hits = 0 ∨ a.l1Hits = 0 ∧ a.l2Hits = 1

/-- What the status of a fetch tells of its account. A failure with a hit is one that comes too
late: the fetch was promoting its block when its deadline passed. -/
structure Account.Told (a : Account) (promoting : Prop) (s : Status) : Prop where
  found : s.success = true → a.HitsOnce
  nothing_iff : s.success = false → (a = {} ↔ ¬ promoting)
  late : s.success = false → promoting → s.code = .timeout ∧ a.l1Hits = 0 ∧ a.l2Hits = 1

theorem Account.told_of_success {a : Account} {promoting : Prop} {s : Status}
    (success : s.success = true) (once : a.HitsOnce) : a.Told promoting s := by
  have succeeds (failure : s.success = false) : False := by
    rw [success] at failure
    cases failure
  exact ⟨fun _ => once, fun failure => (succeeds failure).elim,
    fun failure => (succeeds failure).elim⟩

theorem Account.told_of_nothing {promoting : Prop} {s : Status} (failure : s.success = false)
    (seeking : ¬ promoting) : Account.Told {} promoting s := by
  refine ⟨fun success => ?_, fun _ => ⟨fun _ => seeking, fun _ => rfl⟩,
    fun _ promotes => absurd promotes seeking⟩
  rw [failure] at success
  cases success

theorem Account.told_of_late {a : Account} {promoting : Prop} {s : Status}
    (failure : s.success = false) (code : s.code = .timeout) (promotes : promoting)
    (l1Hits : a.l1Hits = 0) (l2Hits : a.l2Hits = 1) : a.Told promoting s := by
  refine ⟨fun success => ?_, fun _ => ⟨fun nothing => ?_, fun seeking => absurd promotes seeking⟩,
    fun _ _ => ⟨code, l1Hits, l2Hits⟩⟩
  · rw [failure] at success
    cases success
  · rw [nothing] at l2Hits
    cases l2Hits

namespace Traffic

variable {first t t' : Traffic} {e : Event} {id : Nat} {a : Account}

/-- The account of a call that has not been answered, since a time before it was made. Others may
take their steps in between. -/
inductive Accounts (id : Nat) (first : Traffic) : Traffic → Account → Prop
  | nothing : Accounts id first first {}
  | own {t t' : Traffic} {a : Account} (before : Accounts id first t a)
    (step : Step t (.waits id) t') : Accounts id first t' (a.add t.deployment t'.deployment)
  | other {t t' : Traffic} {e : Event} {a : Account} (before : Accounts id first t a)
    (step : Step t e t') (other : e.actor? ≠ some id) : Accounts id first t' a

/-- Where a fetch waits, and what it has done so far. -/
def Underway (a : Account) (s : Stage) : Prop :=
  s.seeks = true ∧ a = {} ∨ s.promotes = true ∧ s.Sound ∧ a.l1Hits = 0 ∧ a.l2Hits = 1

/-- A fetch that waits, or a call that has not been made. -/
def Keeps (a : Account) : Option Ongoing → Prop
  | none => a = {}
  | some o => ∀ key dest timeout, o.call = .fetch key dest timeout → Underway a o.stage

theorem begin_fetch (d : Deployment) (key : String) (dest : BlockRef) (timeout : Option Nat) :
    d.Seeks (d.begin (.fetch key dest timeout)) := by
  simp only [Deployment.begin]
  split
  · rename_i refused
    exact .failed _ _ ⟨rfl, rfl, rfl⟩ (Deployment.failed_of_refusal? refused)
  · exact .waits _ _ ⟨rfl, rfl, rfl⟩ rfl

/-- What a turn means for a call with the account: it waits on, fails with nothing done, or succeeds
with one hit counted. -/
inductive Settled (a : Account) : Turn → Prop
  | waits (s : Stage) (underway : Underway a s) : Settled a (.wait s)
  | failed (s : Status) (failure : s.success = false) (nothing : a = {}) :
    Settled a (.done (.status s))
  | found (s : Status) (success : s.success = true) (once : a.HitsOnce) :
    Settled a (.done (.status s))

theorem settled_of_seeks {d : Deployment} {r : Deployment × Turn} (seeks : d.Seeks r) :
    Settled (Account.add {} d r.1) r.2 := by
  cases seeks with
  | waits d' s stays seeks =>
    rw [Account.add_of_stays _ stays]
    exact .waits s (Or.inl ⟨seeks, rfl⟩)
  | failed d' s stays failure =>
    rw [Account.add_of_stays _ stays]
    exact .failed s failure rfl
  | hit d' s l1Hits l2Hits success =>
    refine .found s success (Or.inl ?_)
    simp only [Account.add, l1Hits, l2Hits]
    omega
  | restored d' s l1Hits l2Hits promotes sound =>
    refine .waits s (Or.inr ⟨promotes, sound, ?_⟩)
    simp only [Account.add, l1Hits, l2Hits]
    omega

theorem settled_of_promotes {d : Deployment} {r : Deployment × Turn} (l1Hits : a.l1Hits = 0)
    (l2Hits : a.l2Hits = 1) (promotes : d.Promotes r) : Settled (a.add d r.1) r.2 := by
  cases promotes with
  | waits d' s stays promotes sound =>
    rw [a.add_of_stays stays]
    exact .waits s (Or.inr ⟨promotes, sound, l1Hits, l2Hits⟩)
  | done d' s stays success =>
    rw [a.add_of_stays stays]
    exact .found s success (Or.inr ⟨l1Hits, l2Hits⟩)

theorem Underway.settled {s : Stage} (underway : Underway a s) (d : Deployment) :
    Settled (a.add d (d.resume s).1) (d.resume s).2 := by
  rcases underway with ⟨seeks, rfl⟩ | ⟨promotes, sound, l1Hits, l2Hits⟩
  · exact settled_of_seeks (d.seeks_resume seeks)
  · exact settled_of_promotes l1Hits l2Hits (d.promotes_resume promotes sound)

theorem add_arrive (a : Account) (d d' : Deployment) (id : Nat) (s : Stage) :
    a.add d (d'.arrive id s) = a.add d d' := by
  cases s <;> rfl

theorem Accounts.keeps (idle : first.calls id = none) (accounts : Accounts id first t a) :
    Keeps a (t.calls id) := by
  induction accounts with
  | nothing =>
    rw [idle]
    rfl
  | other before step other ih => rwa [step.calls_eq other]
  | @own t t' a before step ih =>
    have settles {call : Call} {limit : Option Limit} {d' : Deployment} {s : Stage}
        (settled : ∀ key dest timeout, call = .fetch key dest timeout →
          Settled (a.add t.deployment d') (.wait s)) :
        Keeps (a.add t.deployment (d'.arrive id s)) (some ⟨call, limit, s⟩) := by
      intro key dest timeout same
      rw [add_arrive]
      cases settled key dest timeout same with
      | waits _ underway => exact underway
    cases step.comesToWait with
    | begun call d' s fresh begun =>
      dsimp only
      rw [Calls.set_self]
      refine settles fun key dest timeout same => ?_
      rw [fresh] at ih
      cases ih
      have seeks := begin_fetch t.deployment key dest timeout
      rw [← same, begun] at seeks
      exact settled_of_seeks seeks
    | resumed o d' s waits ready resumed =>
      dsimp only
      rw [Calls.set_self]
      refine settles fun key dest timeout same => ?_
      rw [waits] at ih
      have settled := (ih key dest timeout same).settled t.deployment
      rwa [resumed] at settled

theorem not_promoting {o : Ongoing} (seeks : o.stage.seeks = true) :
    ¬ ∃ o', some o = some o' ∧ o'.stage.promotes = true := by
  rintro ⟨_, ⟨⟩, promotes⟩
  rw [Stage.promotes_of_seeks seeks] at promotes
  cases promotes

theorem Settled.told {promoting : Prop} {answer : Answer} (settled : Settled a (.done answer))
    (seeking : a = {} → ¬ promoting) : ∃ s, answer = .status s ∧ a.Told promoting s := by
  cases settled with
  | failed s failure nothing =>
    exact ⟨s, rfl, nothing ▸ Account.told_of_nothing failure (seeking nothing)⟩
  | found s success once => exact ⟨s, rfl, Account.told_of_success success once⟩

/-- A fetch that succeeds has counted one hit. One that fails has counted none and has left the
devices alone, unless it was promoting its block: then its deadline has passed after the block was
written and the hit was counted. -/
theorem fetch_account {key : String} {dest : BlockRef} {timeout : Option Nat} {answer : Answer}
    (idle : first.calls id = none) (accounts : Accounts id first t a)
    (answered : Step t (.answers id (.fetch key dest timeout) answer) t') :
    ∃ s, answer = .status s ∧ (a.add t.deployment t'.deployment).Told
      (∃ o, t.calls id = some o ∧ o.stage.promotes = true) s := by
  have keeps := accounts.keeps idle
  cases answered.comesToAnswer with
  | begun d' fresh begun =>
    rw [fresh] at keeps ⊢
    cases keeps
    have settled := settled_of_seeks (begin_fetch t.deployment key dest timeout)
    rw [begun] at settled
    exact settled.told fun _ ⟨o, absent, _⟩ => nomatch absent
  | resumed limit s d' waits ready resumed =>
    rw [waits] at keeps ⊢
    rcases keeps key dest timeout rfl with ⟨seeks, rfl⟩ | ⟨promotes, sound, l1Hits, l2Hits⟩
    · have settled := settled_of_seeks (t.deployment.seeks_resume seeks)
      rw [resumed] at settled
      exact settled.told fun _ => not_promoting seeks
    · have promoted := t.deployment.promotes_resume promotes sound
      rw [resumed] at promoted
      cases promoted with
      | done d' s' stays success =>
        rw [a.add_of_stays stays]
        exact ⟨s', rfl, Account.told_of_success success (Or.inr ⟨l1Hits, l2Hits⟩)⟩
  | expired limit s waits late expired =>
    rw [waits] at keeps ⊢
    have stays := t.deployment.stays_expire ⟨id, some limit, s⟩ limit
    have failed := t.deployment.failed_of_expire ⟨id, some limit, s⟩ limit
    rw [expired] at failed
    dsimp only
    rw [a.add_of_stays stays]
    rcases keeps key dest timeout rfl with ⟨seeks, rfl⟩ | ⟨promotes, sound, l1Hits, l2Hits⟩
    · obtain ⟨s', rfl, failure, code⟩ := failed (Stage.isWriteThrough_of_seeks seeks)
      exact ⟨s', rfl, Account.told_of_nothing failure (not_promoting seeks)⟩
    · obtain ⟨s', rfl, failure, code⟩ := failed (Stage.isWriteThrough_of_promotes promotes)
      refine ⟨s', rfl, Account.told_of_late failure code ⟨_, rfl, promotes⟩ l1Hits l2Hits⟩

theorem Accounts.of_own {b : Account} (before : Accounts id first t a)
    (step : Step t (.waits id) t') (same : a.add t.deployment t'.deployment = b) :
    Accounts id first t' b :=
  same ▸ before.own step

/-- A sidecar that copies for ten milliseconds, with a block in the second tier only. -/
def supplied : Deployment :=
  { Deployment.single (.new 4) [0, 0, 0, 0] [0, 0, 0, 0] with
    tier.copier.latency := 10
    fleet := { stores := [("n", { blocks := [("k", [0, 1, 2])], used := 3 })] } }

/-- The sidecar when a fetch has asked both tiers. -/
def asked : Deployment :=
  { supplied with
    tier.cache.counters := { misses := 1 }
    l2.counters := { gets := 1, hits := 1 } }

def restoring : Stage :=
  .copying (.toDevice [1, 2] ⟨0, 0, 2⟩) (.restore "k" ⟨0, 0, 2⟩) 10

theorem accounts_restoring (timeout : Option Nat) (limit : Option Limit)
    (limited : supplied.limitOf (.fetch "k" ⟨0, 0, 2⟩ timeout) = limit) :
    Accounts 0 ⟨supplied, .none⟩
      ⟨asked, Calls.none.set 0 (some ⟨.fetch "k" ⟨0, 0, 2⟩ timeout, limit, restoring⟩)⟩ {} := by
  let fetch : Call := .fetch "k" ⟨0, 0, 2⟩ timeout
  let getting : Stage := .entering (.get "k" ⟨0, 0, 2⟩ .fetch)
  let receiving : Stage := .receiving ⟨"n", "h", 1, .up⟩ "k" (.fetch ⟨0, 0, 2⟩) 0
  let missed : Deployment := { asked with l2.counters := { gets := 1 } }
  have first : Step ⟨supplied, Calls.none.set 0 none⟩ _ _ :=
    step_start_alone fetch supplied (.wait getting) rfl
  rw [Calls.none_set, land, limited] at first
  have second : Step ⟨supplied.locked, _⟩ _ _ :=
    step_resume_alone 0 ⟨fetch, limit, getting⟩ missed (.wait receiving) (by cbv) (by cbv)
  have third : Step ⟨missed, _⟩ _ _ :=
    step_resume_alone 0 ⟨fetch, limit, receiving⟩ asked (.wait restoring) (by cbv) (by cbv)
  exact ((Accounts.nothing.of_own first rfl).of_own second rfl).of_own third rfl

/-- A deadline that passes before the block is written. -/
theorem fetch_account_of_early_deadline : ∃ t a t' s, Accounts 0 ⟨supplied, .none⟩ t a ∧
    Step t (.answers 0 (.fetch "k" ⟨0, 0, 2⟩ (some 5)) (.status s)) t' ∧ s.success = false ∧
      a.add t.deployment t'.deployment = {} := by
  let limit : Limit := ⟨false, 5, 5⟩
  let waiting : Ongoing := ⟨.fetch "k" ⟨0, 0, 2⟩ (some 5), some limit, restoring⟩
  have accounts := (accounts_restoring (some 5) (some limit) rfl).other (.move _ _ (.pass 5)) nofun
  have step := Step.expire (asked.move (.pass 5)) (Calls.none.set 0 (some waiting)) 0 waiting limit
    (Calls.set_self ..) rfl (Nat.le_refl 5)
  obtain ⟨s, same, told⟩ := fetch_account rfl accounts step
  cases same
  refine ⟨_, _, _, _, accounts, step, rfl, (told.nothing_iff rfl).mpr ?_⟩
  rintro ⟨o, waits, promotes⟩
  dsimp only at waits
  rw [Calls.set_self] at waits
  cases waits
  cases promotes

/-- A deadline that passes while the block is promoted. -/
theorem fetch_account_of_late_deadline : ∃ t a t' s, Accounts 0 ⟨supplied, .none⟩ t a ∧
    Step t (.answers 0 (.fetch "k" ⟨0, 0, 2⟩ (some 15)) (.status s)) t' ∧
      s = .failure .timeout "fetch timed out after 15ms" ∧
      a.add t.deployment t'.deployment = ⟨0, 1, true⟩ ∧
      supplied.tier.copier.devices = [[0, 0, 0, 0]] ∧
      t'.deployment.tier.copier.devices = [[1, 2, 0, 0]] := by
  let fetch : Call := .fetch "k" ⟨0, 0, 2⟩ (some 15)
  let limit : Limit := ⟨false, 15, 15⟩
  let putting : Stage := .entering (.put "k" ⟨0, 0, 2⟩ .promotion)
  let storing : Stage := .storing ⟨"k", ⟨0, 2⟩, .toPool [1, 2] ⟨0, 2⟩, 0⟩ ⟨0, 0, 2⟩ .promotion 20
  let restored : Deployment :=
    { asked with
      now := 10
      tier.copier.devices := [[1, 2, 0, 0]]
      tier.copier.stats := { toDeviceBytes := 2, toDeviceCopies := 1 }
      tally := { l2Hits := 1 } }
  let taken : Deployment :=
    { restored.locked with tier.cache.allocator := ⟨4, 2, [⟨2, 2⟩], [⟨2, 2⟩], [⟨0, 2⟩]⟩ }
  have copied := (accounts_restoring (some 15) (some limit) rfl).other
    (.move _ _ (.pass 10)) (fun absent => by cases absent)
  have writes : Step ⟨asked.move (.pass 10), _⟩ _ _ :=
    step_resume_alone 0 ⟨fetch, some limit, restoring⟩ restored (.wait putting) (by cbv) (by cbv)
  have takes : Step ⟨restored.locked, _⟩ _ _ :=
    step_resume_alone 0 ⟨fetch, some limit, putting⟩ taken (.wait storing) (by cbv) (by cbv)
  have promoting := ((copied.of_own writes rfl).of_own takes rfl).other
    (.move _ _ (.pass 5)) (fun absent => by cases absent)
  have expires := Step.expire (taken.move (.pass 5))
    (Calls.none.set 0 (some ⟨fetch, some limit, storing⟩)) 0 ⟨fetch, some limit, storing⟩ limit
    (Calls.set_self ..) rfl (Nat.le_refl 15)
  exact ⟨_, _, _, _, promoting, expires, by cbv, by cbv, by cbv, by cbv⟩

end Traffic

end BlockTier.Sidecar
