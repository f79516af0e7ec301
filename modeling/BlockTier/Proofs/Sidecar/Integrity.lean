import BlockTier.Proofs.L2.Storage
import BlockTier.Proofs.Sidecar.Effects
/-!
One content for each key. If the pool and the fleet hold a key's content wherever they hold the key,
and every call carries the content of its key, then a call that goes on keeps it so.
-/
namespace BlockTier.Sidecar

variable (content : String → Bytes)

/-- The first tier and the fleet hold for a key its content, or nothing. -/
structure Deployment.Intact (d : Deployment) : Prop where
  resident : ∀ key e, d.tier.cache.find? key = some e →
    d.tier.copier.readPool e = .ok (content key)
  stored : ∀ id key frame, d.fleet.frame? id key = some frame →
    d.l2.codec.decode frame = .ok (content key)
  lawful : d.l2.codec.scheme.Lawful

namespace Call

/-- The calls of the cache manager. -/
def IsManaged : Call → Prop
  | offload .. | fetch .. | check _ | makeRoom _ | stats => True
  | _ => False

/-- The device region of a call. -/
def region? : Call → Option BlockRef
  | offload _ block _ => some block
  | fetch _ dest _ => some dest
  | _ => none

def IsOffload (c : Call) (key : String) : Prop := ∃ block timeout, c = .offload key block timeout

def IsFetch (c : Call) (key : String) (dest : BlockRef) : Prop :=
  ∃ timeout, c = .fetch key dest timeout

/-- The device block of every offload holds the content of its key. -/
def Offers (c : Call) (d : Deployment) : Prop :=
  ∀ key block timeout, c = .offload key block timeout →
    d.tier.copier.readDevice block = .ok (content key)

/-- What an offload finds in its device block, if it can read it, is the content of its key. -/
def Finds (c : Call) (d : Deployment) : Prop :=
  ∀ key block timeout data, c = .offload key block timeout →
    d.tier.copier.readDevice block = .ok data → data = content key

/-- A fetch that has succeeded has left the content at the start of its destination. -/
def Served (c : Call) (d : Deployment) (a : Answer) : Prop :=
  ∀ key dest timeout s, c = .fetch key dest timeout → a = .status s → s.success = true →
    d.tier.copier.readDevice (dest.withSize (content key).length) = .ok (content key)

/-- The call is a fetch whose content has been written, and `block` is where. -/
structure Restored (c : Call) (d : Deployment) (key : String) (block : BlockRef) : Prop where
  dest : ∃ dest, c.IsFetch key dest ∧ block = dest.withSize (content key).length ∧
    (content key).length ≤ dest.size
  read : d.tier.copier.readDevice block = .ok (content key)

end Call

/-- Where a managed call can wait, with what it carries there. -/
def Stage.Carries (d : Deployment) (c : Call) : Stage → Prop
  | .entering (.put key block .offload) => ∃ timeout, c = .offload key block timeout
  | .entering (.put key block .promotion) => c.Restored content d key block
  | .entering (.get key dest .fetch) => c.IsFetch key dest
  | .entering (.read key .writeThrough) => c.IsOffload key
  | .entering (.contains key .check) => c = .check key
  | .entering (.makeRoom needed) => c = .makeRoom needed
  | .entering (.stats _) => c = .stats
  | .storing s block .offload _ =>
    (∃ timeout, c = .offload s.key block timeout) ∧ s.copying = .toPool (content s.key) s.extent
  | .storing s block .promotion _ =>
    c.Restored content d s.key block ∧ s.copying = .toPool (content s.key) s.extent
  | .loading l dest .fetch _ =>
    c.IsFetch l.key dest ∧ l.copying = .toDevice (content l.key) dest
  | .copying moved (.fallback key _) _ => c.IsOffload key ∧ moved = .toBuffer (content key)
  | .copying moved (.restore key dest) _ =>
    c.IsFetch key dest ∧ moved = .toDevice (content key) dest
  | .sending _ key frame (.fallback _) _ | .sending _ key frame .writeThrough _ =>
    c.IsOffload key ∧ d.l2.codec.decode frame = .ok (content key)
  | .receiving _ key (.fetch dest) _ => c.IsFetch key dest
  | .probing _ key .check _ => c = .check key
  | _ => False

def Turn.Carries (d : Deployment) (c : Call) : Turn → Prop
  | .done a => c.Served content d a
  | .wait s => s.Carries content d c

variable {content}

namespace Call

variable {c : Call} {d d' : Deployment} {key : String} {dest block : BlockRef}

theorem IsOffload.served (is : c.IsOffload key) (d : Deployment) (a : Answer) :
    c.Served content d a := by
  obtain ⟨block, timeout, rfl⟩ := is
  intro _ _ _ _ absent
  cases absent

theorem served_of_failed (c : Call) (d : Deployment) {s : Status} (failed : s.success = false) :
    c.Served content d (.status s) := by
  intro key dest timeout s' _ same success
  cases same
  rw [failed] at success
  cases success

theorem IsFetch.served (is : c.IsFetch key dest) {a : Answer}
    (read : d.tier.copier.readDevice (dest.withSize (content key).length) = .ok (content key)) :
    c.Served content d a := by
  obtain ⟨timeout, rfl⟩ := is
  intro _ _ _ _ same _ _
  cases same
  exact read

theorem Restored.served (restored : c.Restored content d key block) (a : Answer) :
    c.Served content d a := by
  obtain ⟨dest, is, rfl, _⟩ := restored.dest
  exact is.served restored.read

theorem Restored.of_devices (restored : c.Restored content d key block)
    (same : d'.tier.copier.devices = d.tier.copier.devices) : c.Restored content d' key block := by
  refine ⟨restored.dest, ?_⟩
  rw [Copier.readDevice_congr same]
  exact restored.read

theorem Finds.of_devices (finds : c.Finds content d)
    (same : d'.tier.copier.devices = d.tier.copier.devices) : c.Finds content d' := by
  intro key block timeout data is read
  rw [Copier.readDevice_congr same] at read
  exact finds key block timeout data is read

theorem Offers.finds (offers : c.Offers content d) : c.Finds content d := by
  intro key block timeout data is read
  rw [offers key block timeout is] at read
  exact (Except.ok.inj read).symm

end Call

end BlockTier.Sidecar
