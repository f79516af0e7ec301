import BlockTier.Proofs.Memory.Copies
/-!
Copies that are under way at the same time. Each one that ends leaves its bytes in its destination
or nothing at all, and the counts of the engine are those of the copies that have ended.
-/
namespace BlockTier

/-- A copy that has been asked for and waits to be finished, with the regions as they were then. -/
structure Waiting where
  asked : Copier
  copy : Copy
  copying : Copying

structure Engine where
  copier : Copier
  waiting : List Waiting := []

namespace Engine

/-- How a call ends: with the bytes that it has moved, with an error, or dropped by its caller. -/
inductive Ending
  | done (data : Bytes) (report : CopyReport)
  | failed (error : TransferError)
  | dropped

inductive Event
  | begun (copy : Copy)
  | ended (asked : Copier) (copy : Copy) (ending : Ending)

variable {s s' : Engine} {c₀ : Copier} {event : Event} {log : List Event}

/-- Asks for a copy. It waits, or it fails at once. -/
def begin (s : Engine) (copy : Copy) : Engine × Event :=
  match s.copier.start copy with
  | (copier, .ok copying) => (⟨copier, ⟨s.copier, copy, copying⟩ :: s.waiting⟩, .begun copy)
  | (copier, .error e) => ({ s with copier }, .ended s.copier copy (.failed e))

/-- The engine is done with the copy at index `i`. -/
def finish (s : Engine) (i : Nat) (w : Waiting) : Engine × Event :=
  match s.copier.finish w.copying with
  | (copier, .ok report) =>
    (⟨copier, s.waiting.eraseIdx i⟩, .ended w.asked w.copy (.done w.copying.data report))
  | (copier, .error e) => (⟨copier, s.waiting.eraseIdx i⟩, .ended w.asked w.copy (.failed e))

def drop (s : Engine) (i : Nat) (w : Waiting) : Engine × Event :=
  ({ s with waiting := s.waiting.eraseIdx i }, .ended w.asked w.copy .dropped)

/-- Copies are asked for, finished and dropped in any order. -/
inductive Step (s : Engine) : Event → Engine → Prop
  | begin (copy : Copy) : Step s (s.begin copy).2 (s.begin copy).1
  | finish (i : Nat) (w : Waiting) (waits : s.waiting[i]? = some w) :
    Step s (s.finish i w).2 (s.finish i w).1
  | drop (i : Nat) (w : Waiting) (waits : s.waiting[i]? = some w) :
    Step s (s.drop i w).2 (s.drop i w).1

/-- The events since the engine was idle, latest first. -/
inductive Run (c₀ : Copier) : Engine → List Event → Prop
  | start : Run c₀ { copier := c₀ } []
  | step {s s' : Engine} {event : Event} {log : List Event} (before : Run c₀ s log)
    (step : Step s event s') : Run c₀ s' (event :: log)

/-- What an event leaves of the regions and the counts. -/
inductive Exact (before : Copier) : Event → Copier → Prop
  | begun (copy : Copy) : Exact before (.begun copy) before
  | done (asked : Copier) (copy : Copy) (data : Bytes) (after : Copier) (fits : asked.Fits copy)
    (length : data.length = copy.length)
    (source : ∀ i < copy.length, asked.source? copy i = data[i]?)
    (moved : before.Moved after copy data)
    (counted : after.stats = before.stats.record copy.direction copy.length) :
    Exact before (.ended asked copy (.done data ⟨copy.direction, copy.length⟩)) after
  | failed (asked : Copier) (copy : Copy) (error : TransferError) (unfit : ¬ asked.Fits copy) :
    Exact before (.ended asked copy (.failed error))
      { before with stats := { before.stats with failures := before.stats.failures + 1 } }
  | dropped (asked : Copier) (copy : Copy) : Exact before (.ended asked copy .dropped) before

/-- What waits can be finished as it was asked for. -/
def Sound (s : Engine) : Prop :=
  ∀ w ∈ s.waiting, w.asked.Begins w.copy w.copying ∧ w.asked.SameLengths s.copier

theorem Sound.of_waiting (sound : s.Sound) (fewer : ∀ w ∈ s'.waiting, w ∈ s.waiting)
    (same : s.copier.SameLengths s'.copier) : s'.Sound := by
  intro w member
  obtain ⟨begins, lengths⟩ := sound w (fewer w member)
  exact ⟨begins, lengths.trans same⟩

theorem exact_begin (sound : s.Sound) (copy : Copy) :
    Exact s.copier (s.begin copy).2 (s.begin copy).1.copier ∧ (s.begin copy).1.Sound ∧
      s.copier.SameLengths (s.begin copy).1.copier := by
  unfold begin Copier.start
  cases begun : s.copier.begin? copy with
  | ok copying =>
    refine ⟨.begun copy, fun w member => ?_, .refl _⟩
    rcases List.mem_cons.mp member with rfl | member
    · exact ⟨Copier.begins_of_begin? begun, .refl _⟩
    · exact sound w member
  | error e =>
    have same : s.copier.SameLengths s.copier.countFailure := ⟨rfl, rfl⟩
    exact ⟨.failed _ copy e (Copier.not_fits_of_begin? begun),
      sound.of_waiting (fun _ member => member) same, same⟩

theorem exact_finish (sound : s.Sound) {i : Nat} {w : Waiting} (waits : s.waiting[i]? = some w) :
    Exact s.copier (s.finish i w).2 (s.finish i w).1.copier ∧ (s.finish i w).1.Sound ∧
      s.copier.SameLengths (s.finish i w).1.copier := by
  obtain ⟨begins, lengths⟩ := sound w (List.mem_of_getElem? waits)
  have fewer : ∀ x ∈ s.waiting.eraseIdx i, x ∈ s.waiting :=
    fun _ member => List.mem_of_mem_eraseIdx member
  have places := begins.place_iff lengths
  unfold finish Copier.finish
  cases written : s.copier.place w.copying with
  | ok placed =>
    let after : Copier :=
      { placed with stats := placed.stats.record w.copying.direction w.copying.data.length }
    have placed_same := Copier.sameLengths_place written
    have same : s.copier.SameLengths after := ⟨placed_same.devices, placed_same.pool⟩
    have moved := begins.moved written
    have counted : after.stats = s.copier.stats.record w.copy.direction w.copy.length := by
      rw [← begins.direction, ← begins.length, ← Copier.stats_place written]
    have report : w.copying.report = ⟨w.copy.direction, w.copy.length⟩ := by
      rw [Copying.report, begins.direction, begins.length]
    have exact : Exact s.copier (.ended w.asked w.copy (.done w.copying.data w.copying.report))
        after := by
      rw [report]
      exact .done _ _ _ after (places.mp ⟨placed, written⟩) begins.length (fun _ => begins.source?)
        ⟨moved.target, moved.others⟩ counted
    exact ⟨exact, sound.of_waiting fewer same, same⟩
  | error e =>
    have same : s.copier.SameLengths s.copier.countFailure := ⟨rfl, rfl⟩
    refine ⟨.failed _ _ _ fun fits => ?_, sound.of_waiting fewer same, same⟩
    obtain ⟨placed, other⟩ := places.mpr fits
    rw [written] at other
    cases other

theorem Step.exact (step : Step s event s') (sound : s.Sound) :
    Exact s.copier event s'.copier ∧ s'.Sound ∧ s.copier.SameLengths s'.copier := by
  cases step with
  | begin copy => exact exact_begin sound copy
  | finish i w waits => exact exact_finish sound waits
  | drop i w waits =>
    refine ⟨.dropped _ _, sound.of_waiting (fun x member => ?_) (.refl _), .refl _⟩
    exact List.mem_of_mem_eraseIdx member

/-! ### Counts -/

/-- How many bytes the event has moved in the direction, if it has moved a block in it. -/
def moved? (d : Direction) : Event → Option Nat
  | .ended _ copy (.done _ _) => if copy.direction = d then some copy.length else none
  | _ => none

def isFailure : Event → Bool
  | .ended _ _ (.failed _) => true
  | _ => false

/-- The counts are those from before and those of the log together. -/
structure Counts (before after : TransferStats) (log : List Event) : Prop where
  toHostCopies : after.toHostCopies =
    before.toHostCopies + (log.filterMap (moved? .deviceToHost)).length
  toHostBytes : after.toHostBytes = before.toHostBytes + (log.filterMap (moved? .deviceToHost)).sum
  toDeviceCopies : after.toDeviceCopies =
    before.toDeviceCopies + (log.filterMap (moved? .hostToDevice)).length
  toDeviceBytes : after.toDeviceBytes =
    before.toDeviceBytes + (log.filterMap (moved? .hostToDevice)).sum
  failures : after.failures = before.failures + log.countP isFailure

theorem Counts.step {before : TransferStats} {c c' : Copier} (counts : Counts before c.stats log)
    (exact : Exact c event c') : Counts before c'.stats (event :: log) := by
  obtain ⟨toHostCopies, toHostBytes, toDeviceCopies, toDeviceBytes, failures⟩ := counts
  cases exact with
  | begun copy => exact ⟨toHostCopies, toHostBytes, toDeviceCopies, toDeviceBytes, failures⟩
  | done asked copy data after fits length source moved counted =>
    rw [counted]
    cases direction : copy.direction <;>
      constructor <;>
      simp only [TransferStats.record, List.filterMap_cons, List.countP_cons, moved?, direction,
        isFailure, reduceCtorEq, if_true, if_false, List.length_cons, List.sum_cons,
        Bool.false_eq_true] <;>
      omega
  | failed asked copy error unfit =>
    refine ⟨toHostCopies, toHostBytes, toDeviceCopies, toDeviceBytes, ?_⟩
    rw [List.countP_cons_of_pos rfl, failures, Nat.add_assoc]
  | dropped asked copy => exact ⟨toHostCopies, toHostBytes, toDeviceCopies, toDeviceBytes, failures⟩

theorem Run.sound (run : Run c₀ s log) : s.Sound ∧ c₀.SameLengths s.copier := by
  induction run with
  | start => exact ⟨fun _ member => absurd member List.not_mem_nil, .refl _⟩
  | step before step ih =>
    obtain ⟨_, sound, same⟩ := step.exact ih.1
    exact ⟨sound, ih.2.trans same⟩

theorem Run.counts (run : Run c₀ s log) : Counts c₀.stats s.copier.stats log := by
  induction run with
  | start => exact ⟨rfl, rfl, rfl, rfl, rfl⟩
  | step before step ih => exact ih.step (step.exact before.sound.1).1

/-- However copies overlap, each one is made exactly or leaves everything as it was, one that has
ended is counted once, and one that is dropped never. -/
theorem exact_of_run (run : Run c₀ s log) :
    Counts c₀.stats s.copier.stats log ∧
      ∀ event s', Step s event s' → Exact s.copier event s'.copier :=
  ⟨run.counts, fun _ _ step => (step.exact run.sound.1).1⟩

/-- A store has read its block before it is written over. A range that would wrap round the address
space is refused, and a load is dropped. -/
theorem exact_of_overlapping :
    let c₀ : Copier := { devices := [[1, 2, 3, 4]], pool := [0, 0] }
    ∃ s log, Run c₀ s log ∧ s.copier.devices = [[9, 9, 3, 4]] ∧ s.copier.pool = [1, 2] ∧
      s.copier.stats = ⟨2, 2, 1, 1, 1⟩ ∧ Counts c₀.stats s.copier.stats log ∧
      ∀ event s', Step s event s' → Exact s.copier event s'.copier := by
  intro c₀
  have idle : Run c₀ { copier := c₀ } [] := .start
  have stored := idle.step (.begin (.store ⟨0, 0, 2⟩ ⟨0, 2⟩))
  have written := (stored.step (.begin (.write ⟨0, 0, 4⟩ [9, 9]))).step (.finish 0 _ rfl)
  have refused := written.step (.begin (.read ⟨0, 2 ^ 64 - 1, 2⟩))
  have dropped := (refused.step (.begin (.load ⟨0, 2⟩ ⟨0, 2, 2⟩))).step (.drop 0 _ rfl)
  have run := dropped.step (.finish 0 _ rfl)
  exact ⟨_, _, run, rfl, rfl, rfl, exact_of_run run⟩

end Engine

end BlockTier
