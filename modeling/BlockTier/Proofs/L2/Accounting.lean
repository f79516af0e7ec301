import BlockTier.Proofs.L2.Storage
import BlockTier.Proofs.SortedTable
import Mathlib.Algebra.GroupWithZero.Nat
/-!
What a store says is in use are the lengths of its blocks, after every put, refusal and removal.
Nothing is ever taken from less than it is, so a refusal names the room that there really is.
-/
namespace BlockTier.L2.Store

/-- The lengths of the blocks together. -/
def total (blocks : Table Bytes) : Nat := (blocks.map fun e => e.2.length).sum

/-- The length of a key's block, or zero without one. -/
def held (s : Store) (key : String) : Nat := ((s.get? key).map List.length).getD 0

/-- There is no ceiling, or room below it for the block in place of what its key has. -/
def Fits (s : Store) (key : String) (data : Bytes) : Prop :=
  s.maxBytes = 0 ∨ total (s.blocks.insert key data) ≤ s.maxBytes

variable {s s' : Store} {blocks : Table Bytes} {maxBytes : Nat}

theorem total_insert (sorted : blocks.Sorted) (key : String) (data : Bytes) :
    total (blocks.insert key data) = data.length + total (blocks.erase key) :=
  ((sorted.perm_insert key data).map _).sum_nat

theorem held_add_total (sorted : s.blocks.Sorted) (key : String) :
    s.held key + total (s.blocks.erase key) = total s.blocks := by
  rw [held, get?]
  cases found : s.blocks.find? key with
  | none => rw [Table.erase_of_absent found, Option.map_none, Option.getD_none, Nat.zero_add]
  | some old => exact ((sorted.perm_erase found).map fun e => e.2.length).sum_nat.symm

/-- The blocks are what is in use, and no more than the ceiling allows. -/
structure Balanced (s : Store) : Prop where
  sorted : s.blocks.Sorted
  used : s.used = total s.blocks
  ceiling : 0 < s.maxBytes → s.used ≤ s.maxBytes

theorem Balanced.used_eq (balanced : s.Balanced) (key : String) :
    s.used = s.held key + total (s.blocks.erase key) :=
  balanced.used.trans (held_add_total balanced.sorted key).symm

theorem Balanced.usedByOthers_eq (balanced : s.Balanced) (key : String) :
    s.usedByOthers key = total (s.blocks.erase key) := by
  have used := balanced.used_eq key
  rw [held] at used
  rw [usedByOthers]
  cases found : s.get? key <;> rw [found] at used <;>
    simp only [Option.map_some, Option.map_none, Option.getD_some, Option.getD_none] at used ⊢ <;>
    omega

theorem Balanced.others_le (balanced : s.Balanced) (positive : 0 < s.maxBytes) (key : String) :
    total (s.blocks.erase key) ≤ s.maxBytes := by
  have used := balanced.used_eq key
  have ceiling := balanced.ceiling positive
  omega

theorem Balanced.put_of_fits (balanced : s.Balanced) {key : String} {data : Bytes}
    (fits : s.Fits key data) :
    s.put key data = .ok { s with
      blocks := s.blocks.insert key data
      used := total (s.blocks.insert key data) } := by
  rw [Fits, total_insert balanced.sorted] at fits
  rw [put]
  simp only [balanced.usedByOthers_eq, total_insert balanced.sorted]
  rw [if_neg, Nat.add_comm]
  simp only [Bool.and_eq_true, decide_eq_true_eq]
  omega

theorem Balanced.put_of_not_fits (balanced : s.Balanced) {key : String} {data : Bytes}
    (beyond : ¬ s.Fits key data) :
    s.put key data =
      .error (.full data.length (s.maxBytes - total (s.blocks.erase key))) := by
  rw [Fits, total_insert balanced.sorted] at beyond
  rw [put]
  simp only [balanced.usedByOthers_eq]
  rw [if_pos]
  simp only [Bool.and_eq_true, decide_eq_true_eq]
  omega

/-- What replaces a block that is not shorter fits. -/
theorem Balanced.fits_of_le (balanced : s.Balanced) {key : String} {data : Bytes}
    (shorter : data.length ≤ s.held key) : s.Fits key data := by
  rw [Fits, total_insert balanced.sorted]
  have used := balanced.used_eq key
  have ceiling := balanced.ceiling
  omega

/-! ### Requests and runs -/

inductive Call
  | put (key : String) (data : Bytes)
  | get (key : String)
  | remove (key : String)

inductive Answer
  | stored
  | refused (e : StoreError)
  | block (data : Option Bytes)
  deriving DecidableEq

def call (s : Store) : Call → Store × Answer
  | .put key data =>
    match s.put key data with
    | .ok s' => (s', .stored)
    | .error e => (s, .refused e)
  | .get key => (s, .block (s.get? key))
  | .remove key => ((s.remove key).1, .block (s.remove key).2)

/-- The calls on a store since it was empty, and its answers, latest first. -/
inductive Run (maxBytes : Nat) : Store → List (Call × Answer) → Prop
  | start : Run maxBytes (.new maxBytes) []
  | step {s : Store} {log : List (Call × Answer)} (before : Run maxBytes s log) (c : Call) :
    Run maxBytes (s.call c).1 ((c, (s.call c).2) :: log)

theorem Balanced.call_put_of_not_fits (balanced : s.Balanced) {key : String} {data : Bytes}
    (beyond : ¬ s.Fits key data) :
    s.call (.put key data) =
      (s, .refused (.full data.length (s.maxBytes - total (s.blocks.erase key)))) := by
  rw [call, balanced.put_of_not_fits beyond]

theorem Balanced.stored_iff (balanced : s.Balanced) {key : String} {data : Bytes} :
    (s.call (.put key data)).2 = .stored ↔ s.Fits key data := by
  by_cases fits : s.Fits key data
  · rw [call, balanced.put_of_fits fits]
    exact ⟨fun _ => fits, fun _ => rfl⟩
  · rw [balanced.call_put_of_not_fits fits]
    exact ⟨fun stored => (nomatch stored), fun fits' => absurd fits' fits⟩

/-- A refusal says what the blocks of the other keys leave of the ceiling. -/
theorem Balanced.refused (balanced : s.Balanced) {key : String} {data : Bytes} {e : StoreError}
    (refused : (s.call (.put key data)).2 = .refused e) :
    (s.call (.put key data)).1 = s ∧
      ∃ available, e = .full data.length available ∧
        available + total (s.blocks.erase key) = s.maxBytes := by
  by_cases fits : s.Fits key data
  · rw [balanced.stored_iff.mpr fits] at refused
    cases refused
  · rw [balanced.call_put_of_not_fits fits] at refused ⊢
    cases refused
    refine ⟨rfl, _, rfl, ?_⟩
    have bounded : s.maxBytes ≠ 0 := fun unbounded => fits (Or.inl unbounded)
    have others := balanced.others_le (Nat.pos_of_ne_zero bounded) key
    omega

theorem Balanced.remove (balanced : s.Balanced) (key : String) :
    (s.remove key).1.Balanced ∧ (s.remove key).1.used + s.held key = s.used := by
  have used := balanced.used_eq key
  unfold Store.remove
  cases found : s.get? key with
  | none =>
    refine ⟨balanced, ?_⟩
    simp only [held, found, Option.map_none, Option.getD_none, Nat.add_zero]
  | some old =>
    have length : s.held key = old.length := by
      rw [held, found, Option.map_some, Option.getD_some]
    dsimp only
    refine ⟨⟨balanced.sorted.erase key, ?_, fun positive => ?_⟩, ?_⟩
    · dsimp only
      omega
    · have ceiling := balanced.ceiling positive
      dsimp only
      omega
    · omega

theorem Balanced.call (balanced : s.Balanced) (c : Call) :
    (s.call c).1.Balanced ∧ (s.call c).1.maxBytes = s.maxBytes := by
  cases c with
  | put key data =>
    by_cases fits : s.Fits key data
    · rw [Store.call, balanced.put_of_fits fits]
      refine ⟨⟨balanced.sorted.insert key data, rfl, fun positive => ?_⟩, rfl⟩
      rcases fits with unbounded | fits
      · dsimp only at positive
        omega
      · exact fits
    · rw [Store.call, balanced.put_of_not_fits fits]
      exact ⟨balanced, rfl⟩
  | get key => exact ⟨balanced, rfl⟩
  | remove key =>
    refine ⟨(balanced.remove key).1, ?_⟩
    simp only [Store.call, Store.remove]
    split <;> rfl

/-- What is left of a key's block, if the call is one that changes it. -/
def left? (key : String) : Call × Answer → Option (Option Bytes)
  | (.put k data, .stored) => if k = key then some (some data) else none
  | (.remove k, _) => if k = key then some none else none
  | _ => none

/-- What was stored last and not removed since. -/
def lastStored? (log : List (Call × Answer)) (key : String) : Option Bytes :=
  (log.findSome? (left? key)).join

variable {log : List (Call × Answer)}

theorem Run.balanced (run : Run maxBytes s log) : s.Balanced ∧ s.maxBytes = maxBytes := by
  induction run with
  | start => exact ⟨⟨List.Pairwise.nil, rfl, fun _ => Nat.zero_le _⟩, rfl⟩
  | step before c ih =>
    obtain ⟨balanced, same⟩ := ih.1.call c
    exact ⟨balanced, same.trans ih.2⟩

/-- One call changes the block of its own key, if that of any. -/
theorem get?_call (s : Store) (c : Call) (key : String) :
    (s.call c).1.get? key = (left? key (c, (s.call c).2)).getD (s.get? key) := by
  cases c with
  | put k data =>
    simp only [call]
    cases stored : s.put k data with
    | ok s' =>
      simp only [left?, get?_put stored, eq_comm (a := key)]
      split <;> rfl
    | error e => rfl
  | get k => rfl
  | remove k =>
    simp only [call, left?, get?_remove, eq_comm (a := key)]
    split <;> rfl

theorem Run.get?_eq (run : Run maxBytes s log) (key : String) :
    s.get? key = lastStored? log key := by
  induction run with
  | start => rfl
  | @step s log before c ih =>
    rw [get?_call, ih, lastStored?, lastStored?, List.findSome?_cons]
    cases left? key (c, (s.call c).2) <;> rfl

/-- The account of a store after the calls of a log. -/
structure Accounts (maxBytes : Nat) (s : Store) (log : List (Call × Answer)) : Prop where
  used : s.used = total s.blocks
  ceiling : 0 < maxBytes → s.used ≤ maxBytes
  accepts : ∀ key data, (s.call (.put key data)).2 = .stored ↔
    maxBytes = 0 ∨ total (s.blocks.insert key data) ≤ maxBytes
  replaces : ∀ key data, data.length ≤ s.held key → (s.call (.put key data)).2 = .stored
  /-- A refusal changes nothing and names what the other keys leave of the ceiling. -/
  refuses : ∀ key data e, (s.call (.put key data)).2 = .refused e →
    (s.call (.put key data)).1 = s ∧
      ∃ available, e = .full data.length available ∧
        available + total (s.blocks.erase key) = maxBytes
  /-- What is taken from what is in use is part of it. -/
  takes : ∀ key, s.usedByOthers key + s.held key = s.used ∧
    (s.remove key).1.used + s.held key = s.used
  finds : ∀ key, s.call (.get key) = (s, .block (lastStored? log key))

/-- After any calls the account is right: blocks are taken as long as they fit, whatever is
subtracted is there, and a key has what was last stored for it and not removed. -/
theorem accounts_of_run (run : Run maxBytes s log) : s.Accounts maxBytes log := by
  obtain ⟨balanced, same⟩ := run.balanced
  subst same
  constructor
  · exact balanced.used
  · exact balanced.ceiling
  · exact fun _ _ => balanced.stored_iff
  · exact fun _ _ shorter => balanced.stored_iff.mpr (balanced.fits_of_le shorter)
  · exact fun _ _ _ => balanced.refused
  · intro key
    have used := balanced.used_eq key
    rw [balanced.usedByOthers_eq]
    exact ⟨by omega, (balanced.remove key).2⟩
  · intro key
    rw [call, run.get?_eq]

/-- Under a ceiling of four bytes a block of three is replaced by one of one byte; then three bytes
of another key fit beside it, two more are refused, and the old block stays. -/
theorem accounts_after_refusal : ∃ s log, Run 4 s log ∧
    log.map Prod.snd = [.refused (.full 2 1), .stored, .stored, .stored] ∧
      lastStored? log "k" = some [4] ∧ s.call (.get "k") = (s, .block (some [4])) ∧
      s.Accounts 4 log := by
  have empty : Run 4 (.new 4) [] := .start
  have run := (((empty.step (.put "k" [1, 2, 3])).step (.put "k" [4])).step
    (.put "l" [5, 6, 7])).step (.put "k" [8, 9])
  exact ⟨_, _, run, rfl, rfl, rfl, accounts_of_run run⟩

end BlockTier.L2.Store
