import BlockTier.Sidecar.Call
/-!
How a call goes on from where it waits. An offload tries the first tier and falls back to the
second one; a fetch tries the first tier, then the second one, and promotes what it finds there.
-/
namespace BlockTier.Sidecar

namespace Deployment

variable (d : Deployment)

def copyDue : Nat := d.after d.tier.copier.latency

def fleetDue : Nat := d.after d.fleet.latency

def withTier (tier : L1.Tier) : Deployment := { d with tier }

def unlock : Deployment := { d with lock := d.lock.release }

def countTally (f : Tally → Tally) : Deployment := { d with tally := f d.tally }

/-- Begins a copy outside the first tier. -/
def startCopy (c : Copy) : Deployment × Except TransferError Copying :=
  let (copier, r) := d.tier.copier.start c
  (d.withTier { d.tier with copier }, r)

/-- Ends an offload: each one that fails is counted. -/
def endOffload (s : Status) : Deployment × Turn :=
  (if s.success then d
    else d.countTally (fun t => { t with offloadFailures := t.offloadFailures + 1 }),
    .done (.status s))

/-- What the fleet made of a put, in the words of the call that it is part of. -/
def afterSend (use : SendUse) (s : Status) : Deployment × Turn :=
  match use with
  | .direct => (d, .done (.status s))
  | .fallback rejection =>
    if s.success then
      (d.countTally (fun t => { t with offloadsL2 := t.offloadsL2 + 1 })).endOffload
        (s.annotate "promoted to L2")
    else d.endOffload (s.annotate s!"L1 rejected ({rejection}); L2 offload failed")
  | .writeThrough =>
    (d, .done (.status (.ok
      (if s.success then "stored in L1 and L2"
        else s!"stored in L1 (L2 mirror failed: {s.message})"))))

def sendFor (key : String) (data : Bytes) (use : SendUse) : Deployment × Turn :=
  match d.l2.beginPut key data with
  | (l2, .error s) => { d with l2 }.afterSend use s
  | (l2, .ok (node, frame)) => ({ d with l2 }, .wait (.sending node key frame use d.fleetDue))

def afterPut (key : String) (block : BlockRef) (use : PutUse) (s : Status) : Deployment × Turn :=
  match use with
  | .direct => (d, .done (.status s))
  | .promotion =>
    (d, .done (.status (.ok (if s.success then "hit in L2 (promoted to L1)" else "hit in L2"))))
  | .offload =>
    if s.success then
      let d := d.countTally (fun t => { t with offloadsL1 := t.offloadsL1 + 1 })
      match d.policy with
      | .exclusive => (d, .done (.status (.ok "stored in L1")))
      | .writeThrough => (d, .wait (.entering (.read key .writeThrough)))
    else
      match d.startCopy (.read block) with
      | (d, .error e) =>
        d.endOffload (.failure .transferFailed s!"device read failed: {e.message}")
      | (d, .ok copying) => (d, .wait (.copying copying (.fallback key s.message) d.copyDue))

def afterGet (key : String) (dest : BlockRef) (use : GetUse) (s : Status) : Deployment × Turn :=
  match use with
  | .direct => (d, .done (.status s))
  | .fetch =>
    if s.success then
      (d.countTally (fun t => { t with l1Hits := t.l1Hits + 1 }),
        .done (.status (.ok "hit in L1")))
    else
      match d.l2.beginGet key with
      | (l2, .error s) =>
        ({ d with l2 }, .done (.status (s.annotate "L1 miss; L2 unavailable")))
      | (l2, .ok node) => ({ d with l2 }, .wait (.receiving node key (.fetch dest) d.fleetDue))

def afterRead (key : String) (use : ReadUse) (data : Option Bytes) : Deployment × Turn :=
  match use, data with
  | .direct, _ => (d, .done (.bytes data))
  | .writeThrough, none =>
    (d, .done (.status (.ok "stored in L1 (L2 mirror skipped: block already evicted)")))
  | .writeThrough, some data => d.sendFor key data .writeThrough

def probe (key : String) (use : ProbeUse) (refused : Status → Answer) : Deployment × Turn :=
  match d.l2.route key with
  | (l2, .error s) => ({ d with l2 }, .done (refused s))
  | (l2, .ok node) => ({ d with l2 }, .wait (.probing node key use d.fleetDue))

def probeAnswer : ProbeUse → Status → Answer
  | .direct, s => .status s
  | .check, s => .flag s.success

def afterContains (key : String) (use : ContainsUse) (found : Bool) : Deployment × Turn :=
  match use with
  | .direct => (d, .done (.flag found))
  | .check => if found then (d, .done (.flag true)) else d.probe key .check (probeAnswer .check)
  | .residency before [] => (d, .done (.flags (found :: before).reverse))
  | .residency before (next :: rest) =>
    (d, .wait (.entering (.contains next (.residency (found :: before) rest))))

/-- What the fleet made of a get that is part of a fetch. -/
def afterReceive (key : String) (dest : BlockRef) (s : Status) : Deployment × Turn :=
  if s.isMiss then
    (d.countTally (fun t => { t with misses := t.misses + 1 }),
      .done (.status (.notFound "cache miss")))
  else if !s.success then (d, .done (.status (s.annotate "L1 miss; L2 unavailable")))
  else
    let data := s.payload.getD []
    if dest.size < data.length then
      (d, .done (.status (.failure .invalidArgument
        s!"destination holds {dest.size} bytes, block is {data.length} bytes")))
    else
      (d, .wait (.copying (.toDevice data dest) (.restore key dest) d.copyDue))

def afterCopy (c : Copying) (use : CopyUse) (r : Except TransferError CopyReport) :
    Deployment × Turn :=
  match use with
  | .report => (d, .done (.copied r))
  | .buffer => (d, .done (.read (r.map (fun _ => c.data))))
  | .fallback key rejection =>
    match r with
    | .error e => d.endOffload (.failure .transferFailed s!"device read failed: {e.message}")
    | .ok _ => d.sendFor key c.data (.fallback rejection)
  | .restore key dest =>
    match r with
    | .error e =>
      (d, .done (.status (.failure .transferFailed s!"device write failed: {e.message}")))
    | .ok _ =>
      (d.countTally (fun t => { t with l2Hits := t.l2Hits + 1 }),
        .wait (.entering (.put key (dest.withSize c.data.length) .promotion)))

/-- Does what the lock was taken for. The lock is kept only for a copy. -/
def enter : Errand → Deployment × Turn
  | .put key block use =>
    match d.tier.beginPut key block with
    | (tier, .inl s) => (d.withTier tier).unlock.afterPut key block use s
    | (tier, .inr storing) => (d.withTier tier, .wait (.storing storing block use d.copyDue))
  | .get key dest use =>
    match d.tier.beginGet key dest with
    | (tier, .inl s) => (d.withTier tier).unlock.afterGet key dest use s
    | (tier, .inr loading) => (d.withTier tier, .wait (.loading loading dest use d.copyDue))
  | .read key use => d.unlock.afterRead key use (d.tier.read? key)
  | .contains key use => d.unlock.afterContains key use (d.tier.cache.contains key)
  | .evict key =>
    let (tier, wasResident) := d.tier.evict key
    ((d.withTier tier).unlock, .done (.flag wasResident))
  | .makeRoom needed =>
    let (tier, s) := d.tier.makeRoom needed
    ((d.withTier tier).unlock, .done (.status s))
  | .l1Stats => (d.unlock, .done (.l1Stats d.tier.cache.stats))
  | .stats tally => (d.unlock, .done (.stats (d.stats tally)))

def resume : Stage → Deployment × Turn
  | .entering errand => d.enter errand
  | .storing storing block use _ =>
    let (tier, s) := d.tier.finishPut storing
    (d.withTier tier).unlock.afterPut storing.key block use s
  | .loading loading dest use _ =>
    let (tier, s) := d.tier.finishGet loading
    (d.withTier tier).unlock.afterGet loading.key dest use s
  | .copying copying use _ =>
    let (copier, r) := d.tier.copier.finish copying
    (d.withTier { d.tier with copier }).afterCopy copying use r
  | .sending node key frame use _ =>
    let (fleet, r) := d.fleet.put node key frame
    let (l2, s) := d.l2.finishPut node r
    { d with fleet, l2 }.afterSend use s
  | .receiving node key use _ =>
    let (l2, s) := d.l2.finishGet node (d.fleet.get node key)
    match use with
    | .direct => ({ d with l2 }, .done (.status s))
    | .fetch dest => { d with l2 }.afterReceive key dest s
  | .probing node key use _ =>
    let (l2, s) := d.l2.finishExists node (d.fleet.holds node key)
    ({ d with l2 }, .done (probeAnswer use s))
  | .resting _ => (d, .done .rested)

/-- Why a call is refused before it touches a tier. -/
def refusal? (key : String) (size : Nat) : Option Status :=
  if key.isEmpty then some (.failure .invalidArgument "empty cache key")
  else if size = 0 then some (.failure .invalidArgument "zero-sized block")
  else none

def begin : Call → Deployment × Turn
  | .offload key block _ =>
    match refusal? key block.size with
    | some s => (d, .done (.status s))
    | none => (d, .wait (.entering (.put key block .offload)))
  | .fetch key dest _ =>
    match refusal? key dest.size with
    | some s => (d, .done (.status s))
    | none => (d, .wait (.entering (.get key dest .fetch)))
  | .check key => (d, .wait (.entering (.contains key .check)))
  | .makeRoom needed => (d, .wait (.entering (.makeRoom needed)))
  | .stats => (d, .wait (.entering (.stats d.tally)))
  | .l1Put key block => (d, .wait (.entering (.put key block .direct)))
  | .l1Get key dest => (d, .wait (.entering (.get key dest .direct)))
  | .l1Read key => (d, .wait (.entering (.read key .direct)))
  | .l1Contains key => (d, .wait (.entering (.contains key .direct)))
  | .l1Evict key => (d, .wait (.entering (.evict key)))
  | .l1Stats => (d, .wait (.entering .l1Stats))
  | .residency [] => (d, .done (.flags []))
  | .residency (key :: rest) => (d, .wait (.entering (.contains key (.residency [] rest))))
  | .l2Put key data => d.sendFor key data .direct
  | .l2Get key =>
    match d.l2.beginGet key with
    | (l2, .error s) => ({ d with l2 }, .done (.status s))
    | (l2, .ok node) => ({ d with l2 }, .wait (.receiving node key .direct d.fleetDue))
  | .l2Exists key => d.probe key .direct (probeAnswer .direct)
  | .copy c =>
    match d.startCopy c with
    | (d, .error e) => (d, .done (.copied (.error e)))
    | (d, .ok copying) => (d, .wait (.copying copying .report d.copyDue))
  | .readDevice src =>
    match d.startCopy (.read src) with
    | (d, .error e) => (d, .done (.read (.error e)))
    | (d, .ok copying) => (d, .wait (.copying copying .buffer d.copyDue))
  | .rest ms => (d, .wait (.resting (d.after ms)))

end Deployment

end BlockTier.Sidecar
