import BlockTier.Proofs.Sidecar.LoneReceive
import BlockTier.Proofs.Sidecar.Upkeep
/-!
Offloads under write-through on a fleet that answers and has room. Each step of one keeps what it
needs to end with its key on the fleet.
-/
namespace BlockTier.Sidecar

variable {content : String → Bytes} {key : String} {block : BlockRef} {d d' : Deployment}

namespace Deployment

/-- Every block that comes into the first tier can be mirrored. -/
structure Mirrors (d : Deployment) : Prop where
  policy : d.policy = .writeThrough
  unlimited : d.defaultTimeout = none
  ring : d.l2.ring.isEmpty = false
  fleet : d.fleet.Dependable

/-- The owner of the key has a frame for it. -/
def Mirrored (d : Deployment) (key : String) : Prop :=
  ∃ node, d.l2.owner? key = some node ∧ (d.fleet.frame? node.id key).isSome = true

theorem Grows.owner? (grows : d.Grows d') (key : String) : d'.l2.owner? key = d.l2.owner? key :=
  congrArg (fun l2 => l2.owner? key) grows.l2

theorem Mirrors.grows (mirrors : d.Mirrors) (grows : d.Grows d') : d'.Mirrors := by
  refine ⟨grows.policy.trans mirrors.policy, grows.defaultTimeout.trans mirrors.unlimited, ?_,
    grows.fleet.dependable mirrors.fleet⟩
  have ring : d'.l2.ring = d.l2.ring := congrArg (fun l2 => l2.ring) grows.l2
  rw [ring]
  exact mirrors.ring

theorem Mirrors.owner? (mirrors : d.Mirrors) (key : String) :
    ∃ node, d.l2.owner? key = some node := by
  cases owner : d.l2.owner? key with
  | some node => exact ⟨node, rfl⟩
  | none =>
    have empty := (d.l2.owner?_eq_none_iff key).mp owner
    rw [mirrors.ring] at empty
    cases empty

theorem Mirrored.grows (mirrored : d.Mirrored key) (grows : d.Grows d') : d'.Mirrored key := by
  obtain ⟨node, owner, held⟩ := mirrored
  exact ⟨node, (grows.owner? key).trans owner, grows.fleet.held node.id key held⟩

theorem Mirrored.brings (mirrored : d.Mirrored key) (mirrors : d.Mirrors)
    (intact : d.Intact content) : d.Brings key (content key) := by
  obtain ⟨node, owner, held⟩ := mirrored
  obtain ⟨frame, there⟩ := Option.isSome_iff_exists.mp held
  refine ⟨node, frame, owner, ?_, intact.stored node.id key frame there⟩
  rw [L2.Fleet.get_eq, mirrors.fleet.reach, there]
  rfl

end Deployment

/-- What an offload needs where it waits. It has found the content of its key, and the first tier
has the block while its copy for the second one is still to be read. -/
def Stage.Secures (content : String → Bytes) (d : Deployment) : Stage → Prop
  | .entering (.put _ block _) => 0 < block.size
  | .entering (.read key _) => content key ≠ [] ∧ ∃ e, d.tier.cache.find? key = some e
  | .storing s _ _ _ => content s.key ≠ []
  | .copying _ (.fallback key _) _ => content key ≠ []
  | .sending node key _ _ _ => content key ≠ [] ∧ d.l2.owner? key = some node
  | _ => True

/-- An offload of the key that succeeds leaves the key on the fleet. -/
def Turn.Secures (content : String → Bytes) (d : Deployment) (key : String) : Turn → Prop
  | .wait s => s.Secures content d
  | .done a => ∀ s, a = .status s → s.success = true → content key ≠ [] ∧ d.Mirrored key

namespace Deployment

/-- An offload goes on and leaves the devices alone. -/
structure Secured (content : String → Bytes) (key : String) (d : Deployment)
    (r : Deployment × Turn) : Prop where
  devices : r.1.tier.copier.devices = d.tier.copier.devices
  secures : r.2.Secures content r.1 key

theorem Secured.of_devices {r : Deployment × Turn} (secured : Secured content key d' r)
    (devices : d'.tier.copier.devices = d.tier.copier.devices) : Secured content key d r :=
  ⟨secured.devices.trans devices, secured.secures⟩

theorem secures_of_failed {s : Status} (failure : s.success = false) :
    (Turn.done (.status s)).Secures content d key := by
  rintro _ ⟨⟩ success
  rw [failure] at success
  cases success

theorem content_ne_nil {data : Bytes} (read : d.tier.copier.readDevice block = .ok data)
    (positive : 0 < block.size) (same : data = content key) : content key ≠ [] := by
  rw [← Copier.length_readDevice read, same] at positive
  exact List.ne_nil_of_length_pos positive

theorem secured_sendFor (mirrors : d.Mirrors) (nonempty : content key ≠ []) (data : Bytes)
    (use : SendUse) : Secured content key d (d.sendFor key data use) := by
  obtain ⟨node, owner⟩ := mirrors.owner? key
  simp only [sendFor, L2.Connector.beginPut, L2.Connector.route, owner]
  exact ⟨rfl, nonempty, owner⟩

/-- A block that the first tier has rejected. -/
theorem secured_rejected {tier : L1.Tier} {s : Status} (positive : 0 < block.size)
    (devices : tier.copier.devices = d.tier.copier.devices)
    (finds : ∀ data, d.tier.copier.readDevice block = .ok data → data = content key)
    (failure : s.success = false) :
    Secured content key d ((d.withTier tier).unlock.afterPut key block .offload s) := by
  have continues := (d.withTier tier).unlock.continues_afterPut key block .offload s
  have same := devices_of_core continues.core
  refine ⟨same.trans devices, ?_⟩
  simp only [afterPut, failure, Bool.false_eq_true, ↓reduceIte]
  split
  · exact secures_of_failed rfl
  · rename_i d' copying started
    obtain ⟨data, read, rfl⟩ := startCopy_read started
    have there : d.tier.copier.readDevice block = .ok data := by
      rw [← Copier.readDevice_congr devices]
      exact read
    exact content_ne_nil there positive (finds data there)

/-- A block that the first tier has. -/
theorem secured_stored {tier : L1.Tier} {e : Extent} {s : Status} (mirrors : d.Mirrors)
    (nonempty : content key ≠ []) (devices : tier.copier.devices = d.tier.copier.devices)
    (found : tier.cache.find? key = some e) (success : s.success = true) :
    Secured content key d ((d.withTier tier).unlock.afterPut key block .offload s) := by
  have policy : ((d.withTier tier).unlock.countTally fun t =>
    { t with offloadsL1 := t.offloadsL1 + 1 }).policy = .writeThrough := mirrors.policy
  simp only [afterPut, success, ↓reduceIte, policy]
  exact ⟨devices, nonempty, e, found⟩

theorem secured_entering (intact : d.Intact content) (mirrors : d.Mirrors)
    (positive : 0 < block.size)
    (finds : ∀ data, d.tier.copier.readDevice block = .ok data → data = content key) :
    Secured content key d (d.enter (.put key block .offload)) := by
  have begins := d.tier.beginPut_begins key block
  have devices := begins.sameRegions.devices
  simp only [enter]
  generalize d.tier.beginPut key block = begun at begins devices ⊢
  cases begins with
  | resident e s found size success =>
    have there := L1.Cache.find?_beginPut_of_resident found size
    have read := intact.resident key e found
    have nonempty : content key ≠ [] := by
      rw [← size, ← Copier.length_readPool read] at positive
      exact List.ne_nil_of_length_pos positive
    exact secured_stored mirrors nonempty devices there success
  | refused refusal refused =>
    refine secured_rejected positive devices finds ?_
    cases refusal <;> rfl
  | unread e evicted error taken unread => exact secured_rejected positive devices finds rfl
  | reading e evicted data taken read size =>
    exact ⟨devices, content_ne_nil read positive (finds data read)⟩

theorem secured_storing (mirrors : d.Mirrors) {s : L1.Storing} {due : Nat}
    (positive : 0 < block.size)
    (finds : ∀ data, d.tier.copier.readDevice block = .ok data → data = content s.key)
    (target : s.copying = .toPool (content s.key) s.extent) (nonempty : content s.key ≠ []) :
    Secured content s.key d (d.resume (.storing s block .offload due)) := by
  have ends := d.tier.finishPut_ends s
  have devices := ends.devices ⟨_, target⟩
  simp only [resume]
  generalize d.tier.finishPut s = ended at ends devices ⊢
  cases ends with
  | stored placed copier status written same success =>
    have found := (L1.Cache.find?_commitPut d.tier.cache s.key s.extent s.key).trans (if_pos rfl)
    exact secured_stored mirrors nonempty devices found success
  | failed e unwritten => exact secured_rejected positive devices finds rfl

theorem secured_copying (mirrors : d.Mirrors) {moved : Copying} {rejection : String} {due : Nat}
    (target : moved = .toBuffer (content key)) (nonempty : content key ≠ []) :
    Secured content key d (d.resume (.copying moved (.fallback key rejection) due)) := by
  subst target
  simp only [resume, Copier.finish, Copier.place, afterCopy]
  refine (secured_sendFor ?_ nonempty _ _).of_devices ?_
  · exact mirrors.grows ⟨rfl, rfl, rfl, .refl _⟩
  · rfl

theorem secured_reading (intact : d.Intact content) (mirrors : d.Mirrors)
    (nonempty : content key ≠ []) {e : Extent} (found : d.tier.cache.find? key = some e) :
    Secured content key d (d.enter (.read key .writeThrough)) := by
  have read : d.tier.read? key = some (content key) := by
    simp only [L1.Tier.read?, found, intact.resident key e found]
    rfl
  simp only [enter, read, afterRead]
  refine (secured_sendFor ?_ nonempty _ _).of_devices ?_
  · exact mirrors.grows ⟨rfl, rfl, rfl, .refl _⟩
  · rfl

theorem secured_sending (mirrors : d.Mirrors) {node : Node} {frame : Bytes} {use : SendUse}
    {due : Nat} (nonempty : content key ≠ []) (owner : d.l2.owner? key = some node) :
    Secured content key d (d.resume (.sending node key frame use due)) := by
  have taken := mirrors.fleet.put node key frame
  have grows := d.fleet.grows_put node key frame
  have held := L2.Fleet.frame?_put taken node.id key
  rw [if_pos ⟨rfl, rfl⟩] at held
  simp only [resume, taken, L2.Connector.finishPut]
  generalize (d.fleet.put node key frame).1 = fleet at grows held ⊢
  have mirrored : Mirrored { d with fleet } key := ⟨node, owner, by rw [held]; rfl⟩
  cases use <;> exact ⟨rfl, fun _ _ _ => ⟨nonempty, mirrored⟩⟩

/-- Each wait that is over leads an offload on towards the fleet. -/
theorem secured_resume {timeout : Option Nat} {stage : Stage} (intact : d.Intact content)
    (mirrors : d.Mirrors) (positive : 0 < block.size)
    (finds : (Call.offload key block timeout).Finds content d)
    (carries : stage.Carries content d (.offload key block timeout))
    (secures : stage.Secures content d) : Secured content key d (d.resume stage) := by
  have found := fun data => finds key block timeout data rfl
  -- where the stage is not one of an offload, what it carries belongs to another call
  cases stage with
  | entering errand =>
    cases errand with
    | put key block use =>
      cases use with
      | direct => cases carries
      | offload =>
        obtain ⟨_, ⟨⟩⟩ := carries
        exact secured_entering intact mirrors positive found
      | promotion => obtain ⟨_, ⟨_, ⟨⟩⟩, _⟩ := carries.dest
    | get key dest use =>
      cases use with
      | direct => cases carries
      | fetch => obtain ⟨_, ⟨⟩⟩ := carries
    | read key use =>
      cases use with
      | direct => cases carries
      | writeThrough =>
        obtain ⟨_, _, ⟨⟩⟩ := carries
        obtain ⟨nonempty, e, resident⟩ := secures
        exact secured_reading intact mirrors nonempty resident
    | contains key use => cases use <;> cases carries
    | evict | makeRoom | l1Stats | stats => cases carries
  | storing s block use due =>
    cases use with
    | direct => cases carries
    | offload =>
      obtain ⟨⟨_, ⟨⟩⟩, target⟩ := carries
      exact secured_storing mirrors positive found target secures
    | promotion => obtain ⟨_, ⟨_, ⟨⟩⟩, _⟩ := carries.1.dest
  | loading l dest use due =>
    cases use with
    | direct => cases carries
    | fetch => obtain ⟨⟨_, ⟨⟩⟩, _⟩ := carries
  | copying moved use due =>
    cases use with
    | report | buffer => cases carries
    | fallback key rejection =>
      obtain ⟨⟨_, _, ⟨⟩⟩, target⟩ := carries
      exact secured_copying mirrors target secures
    | restore key dest => obtain ⟨⟨_, ⟨⟩⟩, _⟩ := carries
  | sending node owned frame use due =>
    have sends : (Call.offload key block timeout).IsOffload owned := by
      cases use with
      | direct => cases carries
      | fallback | writeThrough => exact carries.1
    obtain ⟨_, _, ⟨⟩⟩ := sends
    exact secured_sending mirrors secures.1 secures.2
  | receiving node key use due =>
    cases use with
    | direct => cases carries
    | fetch dest => obtain ⟨_, ⟨⟩⟩ := carries
  | probing node key use due => cases use <;> cases carries
  | resting due => cases carries

end Deployment

end BlockTier.Sidecar
