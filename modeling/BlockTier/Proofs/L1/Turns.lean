import BlockTier.Proofs.L1.Admission
import BlockTier.Proofs.L1.Gaps
/-!
How room is made, turn by turn. A put takes its extent when its turns are over, so that giving the
extent back leaves what the turns have left.
-/
namespace BlockTier.L1

inductive Turn
  | evict (key : String)
  /-- The oldest key is made the latest. -/
  | bump
  deriving DecidableEq

namespace Cache

def turn (c : Cache) : Turn → Cache
  | .evict key => (c.evict key).1
  | .bump => { c with recency := c.recency.tail ++ c.recency.head?.toList }

/-- What the turns leave, taken one after the other. -/
def after (c : Cache) (turns : List Turn) : Cache := turns.foldl turn c

/-- The turns until an extent is free or no key may go. -/
def turns (c : Cache) (size : Nat) (pinned : Option String) (bumped : Bool) : List Turn :=
  match c.allocator.allocate size with
  | .ok _ => []
  | .error cause =>
    if !cause.isCapacity then []
    else
      match _h : c.recency with
      | [] => []
      | oldest :: rest =>
        if pinned = some oldest.key then
          if bumped then []
          else .bump :: turns { c with recency := rest ++ [oldest] } size pinned true
        else .evict oldest.key :: turns (c.evict oldest.key).1 size pinned bumped
termination_by (c.recency.length, if bumped then 0 else 1)
decreasing_by
  · simp_all [Prod.lex_def]
  · exact Prod.Lex.left _ _ (length_recency_evict_lt _h)

def turnsToAcquire (c : Cache) (size : Nat) (pinned : Option String) : List Turn :=
  if size = 0 ∨ c.allocator.capacity < size then [] else c.turns size pinned false

/-- The turns of a put that has to copy. If the pool cannot hold both copies the old one goes. -/
def turnsFor (c : Cache) (key : String) (size : Nat) : List Turn :=
  match c.find? key with
  | none => c.turnsToAcquire size none
  | some _ =>
    let first := c.turnsToAcquire size (some key)
    match c.acquire size (some key) with
    | (c', .error refusal) =>
      if refusal.isCapacity && size ≤ c'.allocator.capacity then
        first ++ .evict key :: (c'.evict key).1.turnsToAcquire size none
      else first
    | _ => first

/-- The turns of a put. -/
def turnsToPut (c : Cache) (key : String) (size : Nat) : List Turn :=
  if (c.find? key).map (·.size) = some size then [] else c.turnsFor key size

def turnsUntil (c : Cache) (needed : Nat) : List Turn :=
  if needed ≤ c.allocator.available then []
  else
    match _h : c.recency with
    | [] => []
    | oldest :: _ => .evict oldest.key :: (c.evict oldest.key).1.turnsUntil needed
termination_by c.recency.length
decreasing_by exact length_recency_evict_lt _h

def turnsToMakeRoom (c : Cache) (needed : Nat) : List Turn :=
  if c.allocator.capacity < needed then [] else c.turnsUntil needed

variable {c : Cache} {size : Nat} {pinned : Option String} {bumped : Bool} {key : String}

theorem after_cons (c : Cache) (t : Turn) (ts : List Turn) :
    c.after (t :: ts) = (c.turn t).after ts := rfl

theorem after_append (c : Cache) (ts ts' : List Turn) :
    c.after (ts ++ ts') = (c.after ts).after ts' :=
  List.foldl_append

theorem Consistent.turn {reserved : Option Extent} (h : c.Consistent reserved) (t : Turn) :
    (c.turn t).Consistent reserved := by
  cases t with
  | evict key => exact h.evict key
  | bump =>
    unfold Cache.turn
    cases order : c.recency with
    | nil =>
      have tracked := h.tracked
      rw [order] at tracked
      exact ⟨h.pool, h.sorted, h.live, tracked⟩
    | cons oldest rest => exact h.bump order

theorem Consistent.after {reserved : Option Extent} (h : c.Consistent reserved)
    (ts : List Turn) : (c.after ts).Consistent reserved := by
  induction ts generalizing c with
  | nil => exact h
  | cons t ts ih => exact ih (h.turn t)

theorem Consistent.shrinks_after {reserved : Option Extent} (h : c.Consistent reserved)
    (ts : List Turn) : c.Shrinks (c.after ts) := by
  induction ts generalizing c with
  | nil => exact .refl c
  | cons t ts ih =>
    refine Shrinks.trans ?_ (ih (h.turn t))
    cases t with
    | evict key => exact shrinks_evict h key
    | bump => exact ⟨rfl, fun _ _ found => found⟩

/-- How taking an extent ends when no turn is left. -/
inductive Taken (c : Cache) (size : Nat) : Cache × Except Refusal (Extent × Nat) → Prop
  | refused (refusal : Refusal) : Taken c size (c, .error refusal)
  | acquired (e : Extent) (evicted : Nat) (allocator : Allocator)
    (allocated : c.allocator.allocate size = .ok (e, allocator)) :
    Taken c size ({ c with allocator }, .ok (e, evicted))

theorem turns_of_untracked (order : c.recency = []) : c.turns size pinned bumped = [] := by
  rw [turns]
  split
  · rfl
  · split
    · rfl
    · split
      · rfl
      · rename_i tracked
        rw [order] at tracked
        cases tracked

theorem turns_of_failed {cause : AllocError} {oldest : Tracked} {rest : Recency}
    (failed : c.allocator.allocate size = .error cause) (full : cause.isCapacity = true)
    (order : c.recency = oldest :: rest) :
    c.turns size pinned bumped =
      if pinned = some oldest.key then
        if bumped then []
        else .bump :: turns { c with recency := rest ++ [oldest] } size pinned true
      else .evict oldest.key :: (c.evict oldest.key).1.turns size pinned bumped := by
  rw [turns, failed]
  simp only [full, Bool.not_true, Bool.false_eq_true, ↓reduceIte]
  split
  · rename_i absent
    rw [order] at absent
    cases absent
  · rename_i first others found
    rw [order] at found
    cases found
    rfl

theorem turn_bump {oldest : Tracked} {rest : Recency} (order : c.recency = oldest :: rest) :
    c.turn .bump = { c with recency := rest ++ [oldest] } := by
  rw [turn, order]
  rfl

theorem taken_acquireEvicting (c : Cache) (size : Nat) (pinned : Option String) (bumped : Bool)
    (evicted : Nat) :
    Taken (c.after (c.turns size pinned bumped)) size
      (c.acquireEvicting size pinned bumped evicted) := by
  fun_induction acquireEvicting c size pinned bumped evicted with
  | case1 c bumped evicted e allocator allocated =>
    rw [turns, allocated]
    exact .acquired e evicted allocator allocated
  | case2 c bumped evicted cause failed other =>
    rw [turns, failed]
    simp only [other, ↓reduceIte]
    exact .refused _
  | case3 c bumped evicted cause failed full order =>
    rw [turns_of_untracked order]
    exact .refused _
  | case4 c evicted cause failed full oldest rest order pin =>
    rw [turns_of_failed failed (by simpa using full) order, if_pos pin, if_pos rfl]
    exact .refused _
  | case5 c bumped evicted cause failed full oldest rest order pin first ih =>
    rw [turns_of_failed failed (by simpa using full) order, if_pos pin, if_neg first, after_cons,
      turn_bump order]
    exact ih
  | case6 c bumped evicted cause failed full oldest rest order other ih =>
    rw [turns_of_failed failed (by simpa using full) order, if_neg other, after_cons]
    exact ih

theorem taken_acquire (c : Cache) (size : Nat) (pinned : Option String) :
    Taken (c.after (c.turnsToAcquire size pinned)) size (c.acquire size pinned) := by
  unfold acquire turnsToAcquire
  by_cases zero : size = 0
  · rw [if_pos zero, if_pos (Or.inl zero)]
    exact .refused _
  · rw [if_neg zero]
    by_cases exceeds : c.allocator.capacity < size
    · rw [if_pos exceeds, if_pos (Or.inr exceeds)]
      exact .refused _
    · rw [if_neg exceeds, if_neg (by simp only [zero, exceeds, or_self, not_false_eq_true])]
      exact taken_acquireEvicting c size pinned false 0

/-- What is left when no extent could be taken. -/
theorem Taken.eq_of_refused {r : Cache × Except Refusal (Extent × Nat)} {c' : Cache}
    {refusal : Refusal} (taken : Taken c size r) (refused : r = (c', .error refusal)) : c' = c := by
  cases taken with
  | refused _ =>
    cases refused
    rfl
  | acquired e evicted allocator allocated => cases refused

theorem taken_acquireFor (c : Cache) (key : String) (size : Nat) :
    Taken (c.after (c.turnsFor key size)) size (c.acquireFor key size) := by
  unfold acquireFor turnsFor
  rw [← find?]
  cases c.find? key with
  | none => exact taken_acquire c size none
  | some old =>
    have first := taken_acquire c size (some key)
    dsimp only
    cases tried : c.acquire size (some key) with
    | mk c' out =>
      rw [tried] at first
      cases out with
      | ok taken => exact first
      | error refusal =>
        have left : c' = c.after (c.turnsToAcquire size (some key)) := first.eq_of_refused rfl
        subst left
        dsimp only
        split
        · rw [after_append, after_cons]
          exact taken_acquire _ size none
        · exact .refused _

/-- How a put begins, by the turns that it takes. -/
inductive Begun (c : Cache) (key : String) (size : Nat) : Cache × PutStart → Prop
  | resident (e : Extent) (found : c.find? key = some e) (same : e.size = size) :
    Begun c key size ({ c with recency := c.recency.touch key }, .resident size)
  | refused (refusal : Refusal) :
    Begun c key size ((c.after (c.turnsToPut key size)).countRejection, .refused refusal)
  | acquired (e : Extent) (evicted : Nat) (allocator : Allocator)
    (allocated : (c.after (c.turnsToPut key size)).allocator.allocate size = .ok (e, allocator)) :
    Begun c key size ({ c.after (c.turnsToPut key size) with allocator }, .acquired e evicted)

theorem begun_beginPut (c : Cache) (key : String) (size : Nat) :
    Begun c key size (c.beginPut key size) := by
  unfold beginPut
  rw [← find?]
  by_cases same : (c.find? key).map (·.size) = some size
  · rw [if_pos same]
    obtain ⟨e, found, size_eq⟩ := Option.map_eq_some_iff.mp same
    exact .resident e found size_eq
  · rw [if_neg same]
    have turns : c.turnsToPut key size = c.turnsFor key size := if_neg same
    have taken := taken_acquireFor c key size
    rw [← turns] at taken
    cases acquired : c.acquireFor key size with
    | mk c' out =>
      rw [acquired] at taken
      cases taken with
      | refused refusal => exact .refused refusal
      | acquired e evicted allocator allocated => exact .acquired e evicted allocator allocated

theorem turnsToPut_of_resident {e : Extent} (found : c.find? key = some e)
    (same : e.size = size) : c.turnsToPut key size = [] := by
  rw [turnsToPut, if_pos]
  rw [found, Option.map_some, same]

theorem recency_beginPut_of_resident {e : Extent} (found : c.find? key = some e)
    (same : e.size = size) : (c.beginPut key size).1.recency = c.recency.touch key := by
  rw [beginPut, if_pos]
  rw [← find?, found, Option.map_some, same]

theorem recency_beginPut_of_turns (copies : ∀ n, (c.beginPut key size).2 ≠ .resident n) :
    (c.beginPut key size).1.recency = (c.after (c.turnsToPut key size)).recency := by
  have begun := c.begun_beginPut key size
  generalize c.beginPut key size = left at begun copies
  cases begun with
  | resident e found same => exact absurd rfl (copies size)
  | refused refusal => rfl
  | acquired e evicted allocator allocated => rfl

/-- A put that begins unmaps what its turns unmap. -/
theorem Begun.find? {left : Cache × PutStart} (begun : c.Begun key size left) :
    left.1.find? = (c.after (c.turnsToPut key size)).find? := by
  cases begun with
  | resident e found same =>
    rw [turnsToPut_of_resident found same]
    rfl
  | refused refusal => rfl
  | acquired e evicted allocator allocated => rfl

theorem dropPut_allocated {e : Extent} {allocator : Allocator} (valid : c.allocator.Valid)
    (allocated : c.allocator.allocate size = .ok (e, allocator)) :
    dropPut { c with allocator } e = c := by
  have released := valid.release_allocate allocated
  rw [dropPut]
  simp only [released]

/-- A put that is dropped while it copies has taken its turns and left nothing else. -/
theorem dropPut_beginPut (h : c.Consistent none) {e : Extent} {evicted : Nat}
    (acquired : (c.beginPut key size).2 = .acquired e evicted) :
    (c.beginPut key size).1.dropPut e = c.after (c.turnsToPut key size) := by
  have begun := begun_beginPut c key size
  cases left : c.beginPut key size with
  | mk c' start =>
    rw [left] at begun acquired
    cases begun with
    | resident e' found same => cases acquired
    | refused refusal => cases acquired
    | acquired e' evicted' allocator allocated =>
      cases acquired
      exact dropPut_allocated (h.after _).pool allocated

theorem turnsUntil_of_untracked {needed : Nat} (order : c.recency = []) :
    c.turnsUntil needed = [] := by
  rw [turnsUntil]
  split
  · rfl
  · split
    · rfl
    · rename_i tracked
      rw [order] at tracked
      cases tracked

theorem turnsUntil_of_scarce {needed : Nat} {oldest : Tracked} {rest : Recency}
    (scarce : ¬ needed ≤ c.allocator.available) (order : c.recency = oldest :: rest) :
    c.turnsUntil needed = .evict oldest.key :: (c.evict oldest.key).1.turnsUntil needed := by
  rw [turnsUntil, if_neg scarce]
  split
  · rename_i absent
    rw [order] at absent
    cases absent
  · rename_i first others found
    rw [order] at found
    cases found
    rfl

theorem evictUntil_eq_after (c : Cache) (needed evicted : Nat) :
    (c.evictUntil needed evicted).1 = c.after (c.turnsUntil needed) := by
  fun_induction evictUntil c needed evicted with
  | case1 c evicted enough =>
    rw [turnsUntil, if_pos enough]
    rfl
  | case2 c evicted scarce order =>
    rw [turnsUntil_of_untracked order]
    rfl
  | case3 c evicted scarce oldest rest order ih =>
    rw [turnsUntil_of_scarce scarce order, after_cons]
    exact ih

theorem makeRoom_eq_after (c : Cache) (needed : Nat) :
    (c.makeRoom needed).1 = c.after (c.turnsToMakeRoom needed) := by
  unfold makeRoom turnsToMakeRoom
  by_cases exceeds : c.allocator.capacity < needed
  · rw [if_pos exceeds, if_pos exceeds]
    rfl
  · rw [if_neg exceeds, if_neg exceeds]
    exact evictUntil_eq_after c needed 0

end Cache

end BlockTier.L1
