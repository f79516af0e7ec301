import BlockTier.Sidecar.Deployment
/-!
Calls on a sidecar, their answers and the places where a call waits. A call waits for the lock of
the first tier, for the copy engine or for the fleet; while it works in the first tier, copying
included, it holds the lock.
-/
namespace BlockTier.Sidecar

inductive Call
  | offload (key : String) (block : BlockRef) (timeout : Option Nat)
  | fetch (key : String) (dest : BlockRef) (timeout : Option Nat)
  | check (key : String)
  | makeRoom (needed : Nat)
  | stats
  | l1Put (key : String) (block : BlockRef)
  | l1Get (key : String) (dest : BlockRef)
  | l1Read (key : String)
  | l1Contains (key : String)
  | l1Evict (key : String)
  | l1Stats
  | residency (keys : List String)
  | l2Put (key : String) (data : Bytes)
  | l2Get (key : String)
  | l2Exists (key : String)
  | copy (c : Copy)
  | readDevice (src : BlockRef)
  | rest (ms : Nat)
  deriving DecidableEq

inductive Answer
  | status (s : Status)
  | flag (b : Bool)
  | flags (l : List Bool)
  | bytes (b : Option Bytes)
  | stats (s : Stats)
  | l1Stats (s : L1.Stats)
  | copied (r : Except TransferError CopyReport)
  | read (r : Except TransferError Bytes)
  | rested

/-- What a put into the first tier is part of. -/
inductive PutUse
  | direct | offload | promotion
  deriving DecidableEq

inductive GetUse
  | direct | fetch
  deriving DecidableEq

inductive ReadUse
  | direct | writeThrough
  deriving DecidableEq

inductive ContainsUse
  | direct
  | check
  /-- One of several keys, with the answers so far, latest first, and the keys still to come. -/
  | residency (found : List Bool) (rest : List String)

/-- What to do in the first tier once the lock is held. -/
inductive Errand
  | put (key : String) (block : BlockRef) (use : PutUse)
  | get (key : String) (dest : BlockRef) (use : GetUse)
  | read (key : String) (use : ReadUse)
  | contains (key : String) (use : ContainsUse)
  | evict (key : String)
  | makeRoom (needed : Nat)
  | l1Stats
  | stats (tally : Tally)

/-- What a copy outside the first tier is part of. -/
inductive CopyUse
  | report
  | buffer
  /-- Reading a block that the first tier rejected. -/
  | fallback (key : String) (rejection : String)
  /-- Writing a block that came from the fleet. -/
  | restore (key : String) (dest : BlockRef)

/-- What a put on the fleet is part of. -/
inductive SendUse
  | direct
  | fallback (rejection : String)
  | writeThrough

inductive ReceiveUse
  | direct
  | fetch (dest : BlockRef)

inductive ProbeUse
  | direct | check

/-- Where a call waits. `due` is the time at which the engine or the fleet is done. -/
inductive Stage
  | entering (errand : Errand)
  | storing (s : L1.Storing) (block : BlockRef) (use : PutUse) (due : Nat)
  | loading (l : L1.Loading) (dest : BlockRef) (use : GetUse) (due : Nat)
  | copying (c : Copying) (use : CopyUse) (due : Nat)
  | sending (node : Node) (key : String) (frame : Bytes) (use : SendUse) (due : Nat)
  | receiving (node : Node) (key : String) (use : ReceiveUse) (due : Nat)
  | probing (node : Node) (key : String) (use : ProbeUse) (due : Nat)
  | resting (due : Nat)

namespace Stage

/-- When the wait ends by itself; a wait for the lock has no such time. -/
def due? : Stage → Option Nat
  | entering _ => none
  | storing _ _ _ due | loading _ _ _ due | copying _ _ due | sending _ _ _ _ due
  | receiving _ _ _ due | probing _ _ _ due | resting due => some due

/-- Whether the block is in the first tier already and only its copy in the second is pending. -/
def isWriteThrough : Stage → Bool
  | entering (.read _ .writeThrough) | sending _ _ _ .writeThrough _ => true
  | _ => false

/-- A bound on the waits still to come. -/
def rank : Stage → Nat
  | entering (.put _ _ .direct) => 2
  | entering (.put _ _ .offload) => 4
  | entering (.put _ _ .promotion) => 2
  | entering (.get _ _ .direct) => 2
  | entering (.get _ _ .fetch) => 6
  | entering (.read _ .direct) => 1
  | entering (.read _ .writeThrough) => 2
  | entering (.contains _ .direct) => 1
  | entering (.contains _ .check) => 2
  | entering (.contains _ (.residency _ rest)) => rest.length + 1
  | entering (.evict _) | entering (.makeRoom _) | entering .l1Stats | entering (.stats _) => 1
  | storing _ _ .offload _ => 3
  | storing _ _ .direct _ | storing _ _ .promotion _ => 1
  | loading _ _ .direct _ => 1
  | loading _ _ .fetch _ => 5
  | copying _ .report _ | copying _ .buffer _ => 1
  | copying _ (.fallback ..) _ => 2
  | copying _ (.restore ..) _ => 3
  | sending .. => 1
  | receiving _ _ .direct _ => 1
  | receiving _ _ (.fetch _) _ => 4
  | probing .. => 1
  | resting _ => 1

end Stage

/-- What a call does next: it is answered, or it waits. -/
inductive Turn
  | done (a : Answer)
  | wait (s : Stage)

end BlockTier.Sidecar
