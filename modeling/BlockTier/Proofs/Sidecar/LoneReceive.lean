import BlockTier.Proofs.L2.Storage
import BlockTier.Proofs.Sidecar.LoneCall
/-!
A fetch that the first tier does not serve, alone from there on. It ends as the second tier makes it
end.
-/
namespace BlockTier.Sidecar.Deployment

variable {d d' : Deployment} {key : String} {dest block : BlockRef} {data : Bytes} {s : Status}

/-- The owner of the key can be reached and does not hold it. -/
def Lacks (d : Deployment) (key : String) : Prop :=
  ∃ node, d.l2.owner? key = some node ∧ d.fleet.holds node key = .ok false

/-- The second tier gives these bytes for the key. -/
def Brings (d : Deployment) (key : String) (data : Bytes) : Prop :=
  ∃ node frame, d.l2.owner? key = some node ∧ d.fleet.get node key = .ok (some frame) ∧
    d.l2.codec.decode frame = .ok data

theorem not_lacks_of_brings (brings : d.Brings key data) : ¬ d.Lacks key := by
  rintro ⟨node, owner, absent⟩
  obtain ⟨node', frame, owner', held, _⟩ := brings
  cases owner.symm.trans owner'
  rw [L2.Fleet.get_eq_none_iff.mpr absent] at held
  cases held

theorem brings_unique {data' : Bytes} (brings : d.Brings key data) (brings' : d.Brings key data') :
    data' = data := by
  obtain ⟨node, frame, owner, held, decoded⟩ := brings
  obtain ⟨node', frame', owner', held', decoded'⟩ := brings'
  cases owner.symm.trans owner'
  cases held.symm.trans held'
  cases decoded.symm.trans decoded'
  rfl

/-- The owner of the key can be reached. -/
def Reaches (d : Deployment) (key : String) : Prop :=
  ∃ node, d.l2.owner? key = some node ∧ d.fleet.reach node = .ok ()

theorem reaches_of_get {node : Node} {frame? : Option Bytes} (owner : d.l2.owner? key = some node)
    (got : d.fleet.get node key = .ok frame?) : d.Reaches key := by
  refine ⟨node, owner, ?_⟩
  rw [L2.Fleet.get_eq] at got
  cases reached : d.fleet.reach node with
  | ok => rfl
  | error e =>
    rw [reached] at got
    cases got

theorem reaches_of_lacks (lacks : d.Lacks key) : d.Reaches key := by
  obtain ⟨node, owner, absent⟩ := lacks
  exact reaches_of_get owner (L2.Fleet.get_eq_none_iff.mpr absent)

theorem reaches_of_brings (brings : d.Brings key data) : d.Reaches key := by
  obtain ⟨node, frame, owner, got, _⟩ := brings
  exact reaches_of_get owner got

/-- The first tier holds the same blocks, and the deadline of calls is the same. -/
structure Rests (d d' : Deployment) : Prop where
  cache : d'.tier.cache.uncounted = d.tier.cache.uncounted
  pool : d'.tier.copier.pool = d.tier.copier.pool
  defaultTimeout : d'.defaultTimeout = d.defaultTimeout

theorem Rests.trans {d'' : Deployment} (first : d.Rests d') (second : d'.Rests d'') :
    d.Rests d'' :=
  ⟨second.cache.trans first.cache, second.pool.trans first.pool,
    second.defaultTimeout.trans first.defaultTimeout⟩

/-- The second tier and the devices are the same, and so are the blocks of the first tier. -/
structure Backs (d d' : Deployment) : Prop where
  l2 : d'.l2.uncounted = d.l2.uncounted
  fleet : d'.fleet = d.fleet
  devices : d'.tier.copier.devices = d.tier.copier.devices
  rests : d.Rests d'

theorem Backs.of_core (same : d'.core = d.core) : d.Backs d' :=
  ⟨congrArg (fun d => d.l2) same, fleet_of_core same, devices_of_core same,
    congrArg (fun d => d.tier.cache.uncounted) same, pool_of_core same,
    congrArg (fun d => d.defaultTimeout) same⟩

theorem Backs.owner? (backs : d.Backs d') (key : String) : d'.l2.owner? key = d.l2.owner? key :=
  congrArg (fun l2 => l2.owner? key) backs.l2

theorem Backs.lacks (backs : d.Backs d') : d'.Lacks key ↔ d.Lacks key := by
  simp only [Lacks, backs.owner?, backs.fleet]

theorem Backs.brings (backs : d.Backs d') : d'.Brings key data ↔ d.Brings key data := by
  have codec : d'.l2.codec = d.l2.codec := congrArg (fun l2 => l2.codec) backs.l2
  simp only [Brings, backs.owner?, backs.fleet, codec]

theorem Backs.reaches (backs : d.Backs d') : d'.Reaches key ↔ d.Reaches key := by
  simp only [Reaches, backs.owner?, backs.fleet]

theorem Backs.accepts (backs : d.Backs d') {n : Nat} :
    d'.tier.copier.Accepts dest n ↔ d.tier.copier.Accepts dest n :=
  Copier.accepts_congr backs.devices

/-- The bytes are at the start of the destination, and no other byte of a device has changed. -/
def Leaves (d : Deployment) (dest : BlockRef) (data : Bytes) (d' : Deployment) : Prop :=
  ∃ placed, d.tier.copier.writeDevice dest data = .ok placed ∧
    d'.tier.copier.devices = placed.devices

theorem Leaves.accepts (leaves : d.Leaves dest data d') :
    d.tier.copier.Accepts dest data.length := by
  obtain ⟨placed, written, _⟩ := leaves
  exact Copier.accepts_iff.mpr ⟨placed, written⟩

theorem Leaves.of_devices {d₁ : Deployment} (leaves : d₁.Leaves dest data d')
    (same : d₁.tier.copier.devices = d.tier.copier.devices) : d.Leaves dest data d' := by
  obtain ⟨placed, written, devices⟩ := leaves
  obtain ⟨fits, region, result, device, spliced, rfl⟩ := Copier.writeDevice_eq_ok_iff.mp written
  rw [same] at device devices
  refine ⟨{ d.tier.copier with devices := d.tier.copier.devices.set dest.device result }, ?_,
    devices⟩
  exact Copier.writeDevice_eq_ok_iff.mpr ⟨fits, region, result, device, spliced, rfl⟩

/-- The call has ended with the promotion of the bytes that it has left at the destination. -/
def Refills (d : Deployment) (key : String) (dest : BlockRef) (data : Bytes)
    (r : Deployment × Answer) : Prop :=
  ∃ d₁, d.Rests d₁ ∧ d.Leaves dest data d₁ ∧
    d₁.carry (.entering (.put key (dest.withSize data.length) .promotion)) = r

theorem Refills.of_backs {r : Deployment × Answer} (refills : d'.Refills key dest data r)
    (backs : d.Backs d') : d.Refills key dest data r := by
  obtain ⟨d₁, rests, leaves, carried⟩ := refills
  exact ⟨d₁, backs.rests.trans rests, leaves.of_devices backs.devices, carried⟩

/-- What becomes of a fetch that the first tier does not serve. -/
inductive Backed (d : Deployment) (key : String) (dest : BlockRef) : Deployment × Answer → Prop
  | missed (d' : Deployment) (s : Status) (lacks : d.Lacks key) (code : s.code = .notFound)
    (failure : s.success = false) : Backed d key dest (d', .status s)
  | restored (d' : Deployment) (s : Status) (data : Bytes) (brings : d.Brings key data)
    (leaves : d.Leaves dest data d') (success : s.success = true) (code : s.code = .ok)
    (refills : d.Refills key dest data (d', .status s)) : Backed d key dest (d', .status s)
  | failed (d' : Deployment) (s : Status) (there : ¬ d.Lacks key)
    (rejected : ∀ data, d.Brings key data → ¬ d.tier.copier.Accepts dest data.length)
    (code : s.code ≠ .notFound) (failure : s.success = false)
    (unreached : ¬ d.Reaches key → s.code = .unavailable) : Backed d key dest (d', .status s)

theorem Backed.of_backs {r : Deployment × Answer} (backed : d'.Backed key dest r)
    (backs : d.Backs d') : d.Backed key dest r := by
  cases backed with
  | missed d'' s lacks code failure => exact .missed d'' s (backs.lacks.mp lacks) code failure
  | restored d'' s data brings leaves success code refills =>
    exact .restored d'' s data (backs.brings.mp brings) (leaves.of_devices backs.devices) success
      code (refills.of_backs backs)
  | failed d'' s there rejected code failure unreached =>
    refine .failed d'' s (fun lacks => there (backs.lacks.mpr lacks)) (fun data brings => ?_) code
      failure (fun cut => unreached (fun reaches => cut (backs.reaches.mp reaches)))
    exact fun accepts => rejected data (backs.brings.mpr brings) (backs.accepts.mpr accepts)

theorem carry_promotion (d : Deployment) (key : String) (block : BlockRef) : ∃ d' s,
    d.carry (.entering (.put key block .promotion)) = (d', .status s) ∧ s.success = true ∧
      s.code = .ok ∧ d'.tier.copier.devices = d.tier.copier.devices := by
  have begins := (d.wake (.entering (.put key block .promotion))).tier.beginPut_begins key block
  rw [carry_eq, resume, enter]
  cases begun : (d.wake (.entering (.put key block .promotion))).tier.beginPut key block with
  | mk tier out =>
    rw [begun] at begins
    cases out with
    | inl s => exact ⟨_, _, rfl, rfl, rfl, begins.sameRegions.devices⟩
    | inr storing =>
      have target : ∃ data, storing.copying = .toPool data storing.extent := by
        cases begins with
        | reading e evicted data taken read size => exact ⟨data, rfl⟩
      have ends := tier.finishPut_ends storing
      have devices := (ends.devices target).trans begins.sameRegions.devices
      simp only [conclude, arrive]
      rw [carry_eq]
      exact ⟨_, _, rfl, rfl, rfl, devices⟩

theorem carry_restore (d : Deployment) (key : String) (dest : BlockRef) (data : Bytes) (due : Nat) :
    (∃ d' s, d.carry (.copying (.toDevice data dest) (.restore key dest) due) = (d', .status s) ∧
        s.success = true ∧ s.code = .ok ∧ d.Leaves dest data d' ∧
        d.Refills key dest data (d', .status s)) ∨
      ∃ d' s, d.carry (.copying (.toDevice data dest) (.restore key dest) due) = (d', .status s) ∧
        s.code ≠ .notFound ∧ s.success = false ∧ ¬ d.tier.copier.Accepts dest data.length := by
  rw [carry_eq]
  simp only [resume, wake]
  rcases d.tier.copier.finish_eq (.toDevice data dest) with
    ⟨placed, written, same, report⟩ | ⟨e, unwritten, failed⟩
  · refine Or.inl ?_
    simp only [report, afterCopy, conclude]
    obtain ⟨d', s, carried, success, code, devices⟩ :=
      carry_promotion _ key (dest.withSize data.length)
    refine ⟨d', s, carried, success, code, ⟨placed, written, devices.trans same.devices⟩, _,
      ⟨?_, same.pool.trans (Copier.pool_writeDevice written), ?_⟩, ⟨placed, written, same.devices⟩,
      carried⟩
    · rfl
    · rfl
  · refine Or.inr ?_
    rw [failed]
    refine ⟨_, _, rfl, (fun missing => by cases missing), rfl, fun accepts => ?_⟩
    obtain ⟨placed, written⟩ := Copier.accepts_iff.mp accepts
    rw [Copier.place, written] at unwritten
    cases unwritten

theorem afterReceive_failed (d : Deployment) (key : String) (dest : BlockRef)
    (failure : s.success = false) (code : s.code ≠ .notFound) :
    d.afterReceive key dest s = (d, .done (.status (s.annotate "L1 miss; L2 unavailable"))) := by
  have other : s.isMiss = false := by simp [Status.isMiss, code]
  simp only [afterReceive, other, failure, Bool.false_eq_true, Bool.not_false, ↓reduceIte]

theorem afterReceive_found (d : Deployment) (key : String) (dest : BlockRef) (message : String)
    (data : Bytes) :
    (dest.size < data.length ∧ ∃ s, s.code = .invalidArgument ∧ s.success = false ∧
        d.afterReceive key dest (.okWithPayload message data) = (d, .done (.status s))) ∨
      d.afterReceive key dest (.okWithPayload message data) =
        (d, .wait (.copying (.toDevice data dest) (.restore key dest) d.copyDue)) := by
  rw [show d.afterReceive key dest (.okWithPayload message data) =
    if dest.size < data.length then _ else _ from rfl]
  split
  · rename_i short
    exact Or.inl ⟨short, _, rfl, rfl, rfl⟩
  · exact Or.inr rfl

theorem backed_afterReceive (brings : d.Brings key data) (backs : d.Backs d')
    (message : String) :
    d.Backed key dest (conclude (d'.afterReceive key dest (.okWithPayload message data))) := by
  rcases d'.afterReceive_found key dest message data with
    ⟨short, s, code, failure, ended⟩ | waits
  · rw [ended]
    refine .failed d' s (not_lacks_of_brings brings) (fun data' brings' accepts => ?_)
      (by rw [code]; decide) failure (absurd (reaches_of_brings brings))
    rw [brings_unique brings brings'] at accepts
    exact absurd accepts.1 (Nat.not_le_of_lt short)
  · rw [waits]
    show d.Backed key dest (d'.carry _)
    rcases d'.carry_restore key dest data d'.copyDue with
      ⟨d'', s, carried, success, code, leaves, refills⟩ |
        ⟨d'', s, carried, code, failure, rejects⟩
    · rw [carried]
      exact .restored d'' s data brings (leaves.of_devices backs.devices) success code
        (refills.of_backs backs)
    · rw [carried]
      refine .failed d'' s (not_lacks_of_brings brings) (fun data' brings' accepts => ?_) code
        failure (absurd (reaches_of_brings brings))
      rw [brings_unique brings brings'] at accepts
      exact rejects (backs.accepts.mpr accepts)

theorem code_transportFailure (l2 : L2.Connector) (e : L2.TransportError) :
    (l2.transportFailure e).2.success = false ∧ (l2.transportFailure e).2.code ≠ .notFound := by
  unfold L2.Connector.transportFailure
  split <;> exact ⟨rfl, by simp [Status.failure, Status.unavailable]⟩

theorem code_of_unreached (l2 : L2.Connector) {node : Node} {e : L2.TransportError}
    (unreached : d.fleet.get node key = .error e) :
    (l2.transportFailure e).2.code = .unavailable := by
  rw [L2.Fleet.get_eq] at unreached
  unfold L2.Fleet.reach at unreached
  split at unreached
  · cases unreached
    rfl
  · cases unreached

theorem backed_carry {node : Node} (owner : d.l2.owner? key = some node) (due : Nat) :
    d.Backed key dest (d.carry (.receiving node key (.fetch dest) due)) := by
  have lacks_iff : d.Lacks key ↔ d.fleet.get node key = .ok none := by
    simp only [Lacks, owner, Option.some.injEq, exists_eq_left', L2.Fleet.get_eq_none_iff]
  have brings_iff (data : Bytes) : d.Brings key data ↔
      ∃ frame, d.fleet.get node key = .ok (some frame) ∧ d.l2.codec.decode frame = .ok data := by
    simp only [Brings, owner, Option.some.injEq, exists_and_left, exists_eq_left']
  rw [carry_eq]
  simp only [resume, wake]
  cases got : d.fleet.get node key with
  | error e =>
    rw [got] at lacks_iff brings_iff
    obtain ⟨failure, code⟩ := code_transportFailure d.l2 e
    rw [L2.Connector.finishGet, afterReceive_failed _ _ _ failure code]
    refine .failed _ _ (fun lacks => ?_) (fun data brings => ?_) code failure
      (fun _ => code_of_unreached d.l2 got)
    · cases lacks_iff.mp lacks
    · obtain ⟨_, held, _⟩ := (brings_iff data).mp brings
      cases held
  | ok frame? =>
    rw [got] at lacks_iff brings_iff
    cases frame? with
    | none => exact .missed _ _ (lacks_iff.mpr rfl) rfl rfl
    | some frame =>
      simp only [L2.Connector.finishGet]
      cases decoded : d.l2.codec.decode frame with
      | error e =>
        dsimp only
        rw [afterReceive_failed _ _ _ rfl (by simp [Status.failure])]
        refine .failed _ _ (fun lacks => ?_) (fun data brings => ?_)
          (by simp [Status.failure, Status.annotate]) rfl (absurd (reaches_of_get owner got))
        · cases lacks_iff.mp lacks
        obtain ⟨_, held, good⟩ := (brings_iff data).mp brings
        cases held
        rw [decoded] at good
        cases good
      | ok data =>
        dsimp only
        refine backed_afterReceive ((brings_iff data).mpr ⟨frame, rfl, decoded⟩) ?_ _
        exact ⟨rfl, rfl, rfl, rfl, rfl, rfl⟩

theorem backed_afterGet (failure : s.success = false) :
    d.Backed key dest (conclude (d.afterGet key dest .fetch s)) := by
  have backs := Backs.of_core (core_withL2 (d := d) (d.l2.uncounted_beginGet key))
  simp only [afterGet, failure, Bool.false_eq_true, ↓reduceIte]
  cases owner : d.l2.owner? key with
  | none =>
    simp only [L2.Connector.beginGet, L2.Connector.route, owner, conclude]
    refine .failed _ _ ?_ (fun data => ?_) ?_ rfl (fun _ => rfl)
    · rintro ⟨node, owner', _⟩
      rw [owner] at owner'
      cases owner'
    · rintro ⟨node, _, owner', _⟩
      rw [owner] at owner'
      cases owner'
    · simp [Status.annotate, Status.unavailable, Status.failure]
  | some node =>
    simp only [L2.Connector.beginGet, L2.Connector.route, owner] at backs ⊢
    exact .of_backs (backed_carry (backs.owner? key ▸ owner) _) backs

end BlockTier.Sidecar.Deployment
