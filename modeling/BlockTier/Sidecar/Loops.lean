import BlockTier.Sidecar.Deployment
/-!
The loops that work beside the calls: one sweeps the controller, one refreshes the ring. Each comes
round once in every period; of two that come round at the same time the one that has waited longer
goes first.
-/
namespace BlockTier.Sidecar

/-- What is done every `period` milliseconds, next at `due`. A period of zero never comes round. -/
structure Ticker where
  period : Nat
  due : Nat
  deriving DecidableEq

/-- Whether the ticker comes round up to a time. -/
def Ticker.isDueBy (t : Ticker) (time : Nat) : Bool := 0 < t.period && t.due ≤ time

inductive Chore
  | sweep | refresh
  deriving DecidableEq

/-- What a loop does when it comes round next. A refresh loop does nothing the first time. -/
inductive Phase
  | starting | running | ending
  deriving DecidableEq

structure Loop where
  chore : Chore
  phase : Phase := .starting
  ticker : Ticker
  deriving DecidableEq

structure World where
  deployment : Deployment
  /-- The loops, in the order in which they have waited. -/
  loops : List Loop := []

namespace World

def setNow (w : World) (now : Nat) : World :=
  { w with deployment := { w.deployment with now := max w.deployment.now now } }

/-- The loop that comes round next, if one does up to a time, and the others. -/
def takeNext? (time : Nat) : List Loop → Option (Loop × List Loop)
  | [] => none
  | l :: rest =>
    match takeNext? time rest with
    | some (next, others) =>
      if l.ticker.isDueBy time && l.ticker.due ≤ next.ticker.due then some (l, rest)
      else some (next, l :: others)
    | none => if l.ticker.isDueBy time then some (l, rest) else none

/-- Does what a loop has come round for, now or when it is due. -/
def work (d : Deployment) (l : Loop) : Deployment :=
  match l.chore, l.phase with
  | .sweep, .ending | .refresh, .starting => d
  | .sweep, _ => d.sweep.1
  | .refresh, .running => d.refresh.1
  | .refresh, .ending => d.close

/-- The loop as it waits for its next round, unless it has ended. -/
def again? (now : Nat) (l : Loop) : Option Loop :=
  match l.phase with
  | .ending => none
  | _ => some ⟨l.chore, .running, { l.ticker with due := now + l.ticker.period }⟩

/-- Lets a loop do its work and wait again, behind the others. -/
def tick (w : World) (l : Loop) (others : List Loop) : World :=
  let d := (w.setNow l.ticker.due).deployment
  ⟨work d l, others ++ (again? d.now l).toList⟩

/-- How often a loop may come round up to a time. -/
def ticksLeft (time : Nat) (l : Loop) : Nat :=
  if l.ticker.isDueBy time then time + 1 - l.ticker.due else 0

/-- How often the loops may come round up to a time. -/
def loopsLeft (time : Nat) (loops : List Loop) : Nat :=
  @List.sum Nat _ ⟨0⟩ (loops.map (ticksLeft time))

theorem isDueBy_of_takeNext? {time : Nat} {loops others : List Loop} {l : Loop}
    (h : takeNext? time loops = some (l, others)) : l.ticker.isDueBy time = true := by
  induction loops generalizing l others with
  | nil => simp [takeNext?] at h
  | cons first rest ih =>
    simp only [takeNext?] at h
    split at h
    · next next found => grind
    · grind

theorem loopsLeft_of_takeNext? {time : Nat} {loops others : List Loop} {l : Loop}
    (h : takeNext? time loops = some (l, others)) :
    loopsLeft time loops = ticksLeft time l + loopsLeft time others := by
  induction loops generalizing l others with
  | nil => simp [takeNext?] at h
  | cons first rest ih =>
    simp only [takeNext?] at h
    split at h
    · next next more found =>
      have := ih found
      simp only [loopsLeft, List.map_cons, List.sum_cons] at *
      split at h <;> simp only [Option.some.injEq, Prod.mk.injEq] at h <;> obtain ⟨rfl, rfl⟩ := h
      · simp only [this]
      · simp only [List.map_cons, List.sum_cons]
        omega
    · split at h <;> simp only [Option.some.injEq, Prod.mk.injEq, reduceCtorEq] at h
      obtain ⟨rfl, rfl⟩ := h
      simp [loopsLeft]

theorem ticksLeft_again_lt {time now : Nat} {l : Loop} (isDue : l.ticker.isDueBy time = true)
    (late : l.ticker.due ≤ now) :
    loopsLeft time (again? now l).toList < ticksLeft time l := by
  simp only [Ticker.isDueBy, Bool.and_eq_true, decide_eq_true_eq] at isDue
  unfold again?
  split <;>
    simp only [loopsLeft, ticksLeft, Ticker.isDueBy, Option.toList, List.map_nil, List.map_cons,
      List.sum_nil, List.sum_cons, Bool.and_eq_true, decide_eq_true_eq, isDue, and_self, true_and,
      ↓reduceIte]
  · omega
  · split <;> omega

theorem loopsLeft_tick_lt {w : World} {time : Nat} {l : Loop} {others : List Loop}
    (h : takeNext? time w.loops = some (l, others)) :
    loopsLeft time (w.tick l others).loops < loopsLeft time w.loops := by
  have :=
    ticksLeft_again_lt (isDueBy_of_takeNext? h) (Nat.le_max_right w.deployment.now l.ticker.due)
  have := loopsLeft_of_takeNext? h
  simp only [loopsLeft, tick, setNow, List.map_append, List.sum_append] at *
  omega

/-- Lets the loops run up to a time, each when it comes round. -/
def runLoops (w : World) (time : Nat) : World :=
  match _h : takeNext? time w.loops with
  | none => w
  | some (l, others) => (w.tick l others).runLoops time
termination_by loopsLeft time w.loops
decreasing_by exact loopsLeft_tick_lt _h

/-- Ends the loop of a chore, if there is one, when the loops get their next turn. -/
def stop (w : World) (chore : Chore) : World × Bool :=
  let isMeant (l : Loop) : Bool := l.chore = chore && l.phase ≠ .ending
  let stopped (l : Loop) : Loop :=
    if isMeant l then ⟨chore, .ending, { l.ticker with due := w.deployment.now }⟩ else l
  ({ w with loops := w.loops.map stopped }, w.loops.any isMeant)

/-- Starts a loop in place of the one of its chore that runs. It comes round at once. -/
def start (w : World) (chore : Chore) (period : Nat) : World :=
  let w := (w.stop chore).1
  { w with loops := w.loops ++ [⟨chore, .starting, ⟨period, w.deployment.now⟩⟩] }

end World

end BlockTier.Sidecar
