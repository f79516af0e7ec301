import BlockTier.Sidecar.Job
/-!
Jobs that run side by side. All begin at the same time, in order. Time passes only while every job
waits; it goes straight to the next moment at which one can go on or has to be dropped. Jobs that
can go on do so before the loops that are due at the same time.
-/
namespace BlockTier.Sidecar

inductive Batch (β : Type)
  | one (b : β)
  | group (members : List (Batch β))

namespace Batch

variable {β : Type}

instance : Inhabited (Batch β) := ⟨.group []⟩

mutual

def leaves : Batch β → List β
  | .one b => [b]
  | .group members => leavesOf members

def leavesOf : List (Batch β) → List β
  | [] => []
  | m :: rest => leaves m ++ leavesOf rest

end

mutual

def size : Batch β → Nat
  | .one _ => 1
  | .group members => sizeOf members + 1

def sizeOf : List (Batch β) → Nat
  | [] => 0
  | m :: rest => size m + sizeOf rest

end

mutual

/-- Numbers the jobs in order, from a number on. -/
def number (next : Nat) : Batch β → Batch Nat
  | .one _ => .one next
  | .group members => .group (numberAll next members)

def numberAll (next : Nat) : List (Batch β) → List (Batch Nat)
  | [] => []
  | m :: rest => number next m :: numberAll (next + (leaves m).length) rest

end

end Batch

structure Board (α : Type) where
  world : World
  slots : List (Slot α)
  /-- The jobs that are to go on, in the order in which they were woken. -/
  woken : List Nat
  looks : Nat := 0

namespace Board

variable {α : Type}

/-- Looks at a job. When the lock goes over to another one, that one is woken. -/
def pollJob (b : Board α) (id : Nat) : Board α :=
  match b.slots[id]? with
  | none => b
  | some s =>
    let (world, s) := s.poll b.looks id b.world
    let others := b.woken.filter (· ≠ id)
    let woken :=
      match world.deployment.lock.holder with
      | none => others
      | some next =>
        if some next = b.world.deployment.lock.holder || next = id || others.contains next then
          others
        else others ++ [next]
    ⟨world, b.slots.set id s, woken, b.looks + 1⟩

def hasLanded (b : Board α) (jobs : List Nat) : Bool :=
  jobs.all (fun id => (b.slots[id]?.map Slot.isLanded).getD true)

def isWoken (b : Board α) (jobs : List Nat) : Bool := b.woken.any jobs.contains

def unlanded (b : Board α) (members : List (Batch Nat)) : Nat :=
  members.countP (fun m => !b.hasLanded m.leaves)

/-- Larger groups are not looked through. -/
def maxLookedThrough : Nat := 30

/-- The looks at members of a large group since one was done last: how many members are left, how
many of them have been looked at, and how many were woken again while they were. -/
structure Turns where
  left : Nat
  looked : Nat := 0
  again : Nat := 0

mutual

/-- Looks at the members of a group, at each one in a small group and in a large group at those that
have been woken. `fuel` above the batch's size and the sum of the jobs' ranks is enough. -/
def poll : (fuel : Nat) → Batch Nat → Board α → Board α
  | 0, _, b => b
  | _ + 1, .one id, b => b.pollJob id
  | fuel + 1, .group members, b =>
    if members.length ≤ maxLookedThrough then members.foldl (fun b m => poll fuel m b) b
    else serve fuel members ⟨unlanded b members, 0, 0⟩ b

/-- Looks at the woken members of a large group in the order in which they were woken. When each
one that is left has been looked at and none is done, the others get a turn. -/
def serve : (fuel : Nat) → List (Batch Nat) → Turns → Board α → Board α
  | 0, _, _, b => b
  | fuel + 1, members, turns, b =>
    let next := b.woken.findSome? (fun id => members.find? (fun m => m.leaves.contains id))
    match next with
    | none => b
    | some m =>
      let b := poll fuel m b
      if b.hasLanded m.leaves then serve fuel members ⟨unlanded b members, 0, 0⟩ b
      else
        let turns : Turns :=
          { turns with
            looked := turns.looked + 1
            again := turns.again + (b.isWoken m.leaves).toNat }
        if turns.looked = turns.left || 2 ≤ turns.again then b
        else serve fuel members turns b

end

def rank (b : Board α) : Nat := @List.sum Nat _ ⟨0⟩ (b.slots.map Slot.rank)

/-- Wakes the jobs that have a look to show, in the order of these looks. -/
def wake (b : Board α) (look? : Slot α → Option Nat) : Board α :=
  let found := b.slots.zipIdx.filterMap (fun (s, id) => (look? s).map (·, id))
  let jobs := (found.mergeSort (fun x y => x.1 ≤ y.1)).map (·.2)
  { b with woken := b.woken ++ jobs.filter (fun id => !b.woken.contains id) }

/-- Gives the loops that are due now a turn. The jobs that gave way go on after it. -/
def giveWay (b : Board α) : Board α :=
  { b with world := b.world.runLoops b.world.deployment.now }.wake Slot.givesWaySince?

/-- Lets time pass until a job can go on or has to be dropped. The jobs are woken in the order in
which they set their alarms. -/
def skip? (b : Board α) : Option (Board α) :=
  (b.slots.filterMap Slot.wakeTime?).min?.map fun time =>
    { b with world := (b.world.runLoops (time - 1)).setNow time }.wake (Slot.alarm? time)

/-- Lets the jobs go on until all are done. Each time that they are polled at least one of them
comes nearer to its end, so the sum of the jobs' ranks is `fuel` enough. -/
def advance : (fuel : Nat) → Batch Nat → Board α → Board α
  | 0, _, b => b
  | fuel + 1, batch, b =>
    let b := poll (b.rank + batch.size + 1) batch b
    if b.slots.all Slot.isLanded then b
    else
      let b := b.giveWay
      if b.woken.isEmpty then
        match b.skip? with
        | none => b
        | some b => advance fuel batch b
      else advance fuel batch b

end Board

/-- Starts the jobs of a batch at the same instant and lets them run side by side. -/
def World.run {α : Type} (w : World) (batch : Batch (Job α)) : World × List (Result α) :=
  let slots := batch.leaves.map Slot.pending
  let b : Board α := { world := w, slots, woken := List.range slots.length }
  let b := b.advance (b.rank + 1) (batch.number 0)
  (b.world, b.slots.filterMap Slot.result?)

end BlockTier.Sidecar
