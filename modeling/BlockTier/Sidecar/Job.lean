import BlockTier.Sidecar.Flight
import BlockTier.Sidecar.Loops
/-!
Jobs: calls, and acts on the world that take no time. A job is looked at from time to time until it
is done; each look brings it as far as no waiting is needed.
-/
namespace BlockTier.Sidecar

/-- What comes of an act. One that gives way is done only after the loops have had a turn. -/
structure Outcome (α : Type) where
  answer : α
  givesWay : Bool := false

inductive Job (α : Type)
  | call (c : Call)
  | act (f : World → World × Outcome α)

abbrev Result (α : Type) := Answer ⊕ α

/-- A job that has not been looked at, is under way, gives way or is done. -/
inductive Slot (α : Type)
  | pending (j : Job α)
  /-- The call's deadline was set at look `started`; it has waited where it is since look
  `since`. -/
  | flying (f : Flight) (started since : Nat)
  | givingWay (r : Result α) (since : Nat)
  | landed (r : Result α)

namespace Slot

variable {α : Type}

/-- What a look at a call leaves. A sleep gives way when its time is over. -/
def ofPoll (started since look : Nat) : Answer ⊕ Flight → Slot α
  | .inl .rested => .givingWay (.inl .rested) look
  | .inl a => .landed (.inl a)
  | .inr f => .flying f started since

/-- Whether a call has come to its copy in the second tier, for which the deadline is set anew. -/
def beginsWriteThrough (f : Flight) : Answer ⊕ Flight → Bool
  | .inl _ => false
  | .inr next => next.stage.isWriteThrough && !f.stage.isWriteThrough

/-- Looks at job `id`; the looks are counted. -/
def poll (look id : Nat) (w : World) : Slot α → World × Slot α
  | .pending (.call c) =>
    let (deployment, r) := w.deployment.start id c
    ({ w with deployment }, ofPoll look look look r)
  | .pending (.act f) =>
    let (w, o) := f w
    (w, if o.givesWay then .givingWay (.inr o.answer) look else .landed (.inr o.answer))
  | .flying f started since =>
    let since := if w.deployment.isReady f.id f.stage then look else since
    let (deployment, r) := w.deployment.poll f
    let started := if beginsWriteThrough f r then look else started
    ({ w with deployment }, ofPoll started since look r)
  | .givingWay r _ => (w, .landed r)
  | .landed r => (w, .landed r)

/-- The next time at which the job can go on or has to be dropped. -/
def wakeTime? : Slot α → Option Nat
  | .flying f _ _ =>
    match f.stage.due?, f.limit.map (·.expires) with
    | some a, some b => some (min a b)
    | some a, none => some a
    | none, b => b
  | _ => none

/-- The look at which the job set the alarm that rings at a time, if it set one. -/
def alarm? (time : Nat) : Slot α → Option Nat
  | .flying f started since =>
    if f.limit.any (·.expires ≤ time) then some started
    else if f.stage.due?.any (· ≤ time) then some since
    else none
  | _ => none

/-- The look since which the job gives way, if it does. -/
def givesWaySince? : Slot α → Option Nat
  | .givingWay _ since => some since
  | _ => none

def result? : Slot α → Option (Result α)
  | .landed r => some r
  | _ => none

def isLanded (s : Slot α) : Bool := s.result?.isSome

/-- A bound on the looks that bring the job on. -/
def rank : Slot α → Nat
  | .pending (.call (.residency keys)) => keys.length + 9
  | .pending _ => 9
  | .flying f _ _ => f.stage.rank + 1
  | .givingWay .. => 1
  | .landed _ => 0

end Slot

end BlockTier.Sidecar
