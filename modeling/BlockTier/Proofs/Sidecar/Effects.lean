import BlockTier.Proofs.L1.TierRuns
import BlockTier.Proofs.L2.Connection
import BlockTier.Proofs.L2.Storage
import BlockTier.Sidecar.Flight
/-!
What a call changes when it goes on. Only a stage that holds the lock touches the cache; all else
that is done on the way counts, or concerns the fleet or a device.
-/
namespace BlockTier

namespace Sidecar

namespace Stage

/-- Whether a call has the lock or waits for it. -/
def usesLock : Stage → Bool
  | entering _ | storing .. | loading .. => true
  | _ => false

/-- What the first tier waits for. -/
def work : Stage → L1.Work
  | storing s _ _ _ => .storing s.key s.extent
  | loading l _ _ _ => .loading l.key
  | _ => .idle

/-- A put that waits writes the extent that it has taken. -/
def Sound : Stage → Prop
  | storing s _ _ _ => ∃ data, s.copying = .toPool data s.extent
  | _ => True

end Stage

def Turn.work : Turn → L1.Work
  | .done _ => .idle
  | .wait s => s.work

theorem Stage.idle_of_unused {s : Stage} (unused : s.usesLock = false) : s.work = .idle := by
  cases s with
  | storing | loading => cases unused
  | _ => rfl

theorem Stage.sound_of_idle {s : Stage} (idle : s.work = .idle) : s.Sound := by
  cases s with
  | storing => cases idle
  | _ => exact trivial

namespace Deployment

/-- The deployment without its counts. -/
def core (d : Deployment) : Deployment :=
  { d with
    tier := { d.tier with copier := { d.tier.copier with stats := {} } }
    l2 := d.l2.uncounted
    tally := {} }

variable {d d' : Deployment}

theorem core_countTally (d : Deployment) (f : Tally → Tally) : (d.countTally f).core = d.core := rfl

theorem core_withL2 {l2 : L2.Connector} (same : l2.uncounted = d.l2.uncounted) :
    core { d with l2 } = d.core := by
  simp only [core, same]

theorem core_withCopier {copier : Copier} (same : d.tier.copier.SameRegions copier) :
    core (d.withTier { d.tier with copier }) = d.core := by
  obtain ⟨devices, pool, latency⟩ := same
  simp only [core, withTier, devices, pool, latency]

theorem lock_of_core (same : d'.core = d.core) : d'.lock = d.lock :=
  congrArg (fun d => d.lock) same

theorem cache_of_core (same : d'.core = d.core) : d'.tier.cache = d.tier.cache :=
  congrArg (fun d => d.tier.cache) same

theorem devices_of_core (same : d'.core = d.core) :
    d'.tier.copier.devices = d.tier.copier.devices :=
  congrArg (fun d => d.tier.copier.devices) same

theorem pool_of_core (same : d'.core = d.core) : d'.tier.copier.pool = d.tier.copier.pool :=
  congrArg (fun d => d.tier.copier.pool) same

theorem fleet_of_core (same : d'.core = d.core) : d'.fleet = d.fleet :=
  congrArg (fun d => d.fleet) same

theorem codec_of_core (same : d'.core = d.core) : d'.l2.codec = d.l2.codec :=
  congrArg (fun d => d.l2.codec) same

/-- The connector, the policy and the deadline are the same, and no node has lost a key. -/
structure Grows (d d' : Deployment) : Prop where
  l2 : d'.l2.uncounted = d.l2.uncounted
  policy : d'.policy = d.policy
  defaultTimeout : d'.defaultTimeout = d.defaultTimeout
  fleet : d.fleet.Grows d'.fleet

theorem Grows.refl (d : Deployment) : d.Grows d := ⟨rfl, rfl, rfl, .refl _⟩

theorem Grows.trans {d'' : Deployment} (first : d.Grows d') (second : d'.Grows d'') :
    d.Grows d'' :=
  ⟨second.l2.trans first.l2, second.policy.trans first.policy,
    second.defaultTimeout.trans first.defaultTimeout, first.fleet.trans second.fleet⟩

theorem Grows.codec (grows : d.Grows d') : d'.l2.codec = d.l2.codec :=
  congrArg (fun l2 => l2.codec) grows.l2

theorem Grows.of_core (same : d'.core = d.core) : d.Grows d' := by
  refine ⟨congrArg (fun d => d.l2) same, congrArg (fun d => d.policy) same,
    congrArg (fun d => d.defaultTimeout) same, ?_⟩
  rw [fleet_of_core same]
  exact .refl _

/-- Nothing but counts has changed, and the call holds no lock. -/
structure Continues (d : Deployment) (r : Deployment × Turn) : Prop where
  core : r.1.core = d.core
  idle : r.2.work = .idle

theorem Continues.trans {r : Deployment × Turn} (first : d'.core = d.core)
    (second : d'.Continues r) : d.Continues r :=
  ⟨second.core.trans first, second.idle⟩

theorem continues_done (d : Deployment) (a : Answer) : d.Continues (d, .done a) := ⟨rfl, rfl⟩

theorem core_startCopy (d : Deployment) (c : Copy) : (d.startCopy c).1.core = d.core :=
  core_withCopier (d.tier.copier.sameRegions_start c)

theorem continues_endOffload (d : Deployment) (s : Status) : d.Continues (d.endOffload s) := by
  unfold endOffload
  split <;> exact ⟨rfl, rfl⟩

theorem continues_afterSend (d : Deployment) (use : SendUse) (s : Status) :
    d.Continues (d.afterSend use s) := by
  cases use with
  | direct | writeThrough => exact ⟨rfl, rfl⟩
  | fallback rejection =>
    simp only [afterSend]
    split
    · exact Continues.trans (core_countTally d _) (continues_endOffload _ _)
    · exact continues_endOffload d _

theorem continues_sendFor (d : Deployment) (key : String) (data : Bytes) (use : SendUse) :
    d.Continues (d.sendFor key data use) := by
  have same := d.l2.uncounted_beginPut key data
  unfold sendFor
  split
  · rename_i l2 s begun
    rw [begun] at same
    exact .trans (core_withL2 same) (continues_afterSend _ use s)
  · rename_i l2 node frame begun
    rw [begun] at same
    exact ⟨core_withL2 same, rfl⟩

theorem continues_afterPut (d : Deployment) (key : String) (block : BlockRef) (use : PutUse)
    (s : Status) : d.Continues (d.afterPut key block use s) := by
  cases use with
  | direct | promotion => exact ⟨rfl, rfl⟩
  | offload =>
    have same := core_startCopy d (.read block)
    simp only [afterPut]
    split
    · split <;> exact ⟨rfl, rfl⟩
    · split
      · rename_i d' e started
        rw [started] at same
        exact .trans same (continues_endOffload d' _)
      · rename_i d' copying started
        rw [started] at same
        exact ⟨same, rfl⟩

theorem continues_afterGet (d : Deployment) (key : String) (dest : BlockRef) (use : GetUse)
    (s : Status) : d.Continues (d.afterGet key dest use s) := by
  cases use with
  | direct => exact ⟨rfl, rfl⟩
  | fetch =>
    have same := d.l2.uncounted_beginGet key
    simp only [afterGet]
    split
    · exact ⟨rfl, rfl⟩
    · split
      all_goals
        rename_i begun
        rw [begun] at same
        exact ⟨core_withL2 same, rfl⟩

theorem continues_afterRead (d : Deployment) (key : String) (use : ReadUse) (data : Option Bytes) :
    d.Continues (d.afterRead key use data) := by
  cases use with
  | direct => exact ⟨rfl, rfl⟩
  | writeThrough =>
    cases data with
    | none => exact ⟨rfl, rfl⟩
    | some data => exact continues_sendFor d key data .writeThrough

theorem continues_probe (d : Deployment) (key : String) (use : ProbeUse)
    (refused : Status → Answer) : d.Continues (d.probe key use refused) := by
  have same := d.l2.uncounted_route key
  unfold probe
  split
  all_goals
    rename_i routed
    rw [routed] at same
    exact ⟨core_withL2 same, rfl⟩

theorem continues_afterContains (d : Deployment) (key : String) (use : ContainsUse)
    (found : Bool) : d.Continues (d.afterContains key use found) := by
  cases use with
  | direct => exact ⟨rfl, rfl⟩
  | check =>
    simp only [afterContains]
    split
    · exact ⟨rfl, rfl⟩
    · exact continues_probe d key _ _
  | residency before rest => cases rest <;> exact ⟨rfl, rfl⟩

theorem continues_afterReceive (d : Deployment) (key : String) (dest : BlockRef) (s : Status) :
    d.Continues (d.afterReceive key dest s) := by
  unfold afterReceive
  split
  · exact ⟨rfl, rfl⟩
  · split
    · exact ⟨rfl, rfl⟩
    · dsimp only
      split <;> exact ⟨rfl, rfl⟩

theorem continues_afterCopy (d : Deployment) (c : Copying) (use : CopyUse)
    (r : Except TransferError CopyReport) : d.Continues (d.afterCopy c use r) := by
  cases use with
  | report | buffer => exact ⟨rfl, rfl⟩
  | fallback key rejection =>
    cases r with
    | error e => exact continues_endOffload d _
    | ok report => exact continues_sendFor d key c.data _
  | restore key dest => cases r <;> exact ⟨rfl, rfl⟩

theorem continues_begin (d : Deployment) (c : Call) : d.Continues (d.begin c) := by
  cases c with
  | offload key block timeout => simp only [begin]; split <;> exact ⟨rfl, rfl⟩
  | fetch key dest timeout => simp only [begin]; split <;> exact ⟨rfl, rfl⟩
  | residency keys => cases keys <;> exact ⟨rfl, rfl⟩
  | l2Put key data => exact continues_sendFor d key data .direct
  | l2Get key =>
    have same := d.l2.uncounted_beginGet key
    simp only [begin]
    split
    all_goals
      rename_i begun
      rw [begun] at same
      exact ⟨core_withL2 same, rfl⟩
  | l2Exists key => exact continues_probe d key _ _
  | copy c =>
    have same := core_startCopy d c
    simp only [begin]
    split
    all_goals
      rename_i started
      rw [started] at same
      exact ⟨same, rfl⟩
  | readDevice src =>
    have same := core_startCopy d (.read src)
    simp only [begin]
    split
    all_goals
      rename_i started
      rw [started] at same
      exact ⟨same, rfl⟩
  | _ => exact ⟨rfl, rfl⟩

end Deployment

end Sidecar

end BlockTier
