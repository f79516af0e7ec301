import BlockTier.Proofs.L1.BestFit
/-!
What the allocator holds after any calls, and that it holds it in 64-bit words. Each sum and each
difference is made once more with a check, and no check ever fails. Of the free extents that start
below one that comes back only the last can end there, so the checks look at no other.
-/
namespace BlockTier.L1

/-- The sum, if it is a 64-bit word. -/
def add? (a b : Nat) : Option Nat := if a + b < 2 ^ 64 then some (a + b) else none

/-- The difference, if it is not below zero. -/
def sub? (a b : Nat) : Option Nat := if b ≤ a then some (a - b) else none

theorem add?_of_lt {a b : Nat} (small : a + b < 2 ^ 64) : add? a b = some (a + b) := if_pos small

theorem sub?_of_le {a b : Nat} (enough : b ≤ a) : sub? a b = some (a - b) := if_pos enough

namespace Allocator

variable {a : Allocator} {loose : Option Extent} {e f x : Extent} {offset size capacity : Nat}

/-! ### Requests with checks -/

def takeChecked? (a : Allocator) (free : Extent) (size : Nat) : Option Allocator := do
  let a := a.removeFree free
  let a ←
    if size < free.size then
      (do return a.insertFree ⟨← add? free.offset size, ← sub? free.size size⟩)
    else some a
  let used ← add? a.used size
  return { a with live := insertExtent Extent.startsBefore ⟨free.offset, size⟩ a.live, used }

def allocateChecked? (a : Allocator) (size : Nat) :
    Option (Except AllocError (Extent × Allocator)) :=
  if size = 0 then some (.error (.invalidSize size))
  else do
    let available ← sub? a.capacity a.used
    if available < size then return .error (.full size available)
    else
      match a.bestFit? size with
      | none => return .error (.fragmented size available)
      | some free => return .ok (⟨free.offset, size⟩, ← a.takeChecked? free size)

/-- The last free extent that starts below the offset. -/
def below? (a : Allocator) (offset : Nat) : Option Extent :=
  (a.byOffset.filter (fun f => f.offset < offset)).getLast?

def mergeLeftChecked? (a : Allocator) (e : Extent) : Option (Allocator × Extent) :=
  match a.below? e.offset with
  | some f => do
    let stop ← add? f.offset f.size
    if stop = e.offset then return (a.removeFree f, ⟨f.offset, ← add? f.size e.size⟩)
    else return (a, e)
  | none => some (a, e)

def mergeRightChecked? (a : Allocator) (e : Extent) : Option (Allocator × Extent) := do
  let stop ← add? e.offset e.size
  match a.byOffset.find? (fun f => f.offset = stop) with
  | some f => return (a.removeFree f, ⟨e.offset, ← add? e.size f.size⟩)
  | none => return (a, e)

def freeChecked? (a : Allocator) (e : Extent) : Option (Except AllocError Allocator) :=
  if e ∈ a.live then do
    let used ← sub? a.used e.size
    let (a, e) ← { a with live := a.live.erase e, used }.mergeLeftChecked? e
    let (a, e) ← a.mergeRightChecked? e
    return .ok (a.insertFree e)
  else some (.error (.unknownPointer e))

/-! ### No check fails -/

theorem Partition.takeChecked?_eq (p : a.Valid) (word : a.capacity < 2 ^ 64)
    (member : x ∈ a.byOffset) (fits : size ≤ x.size) (enough : size ≤ a.available) :
    a.takeChecked? x size = some (a.take x size) := by
  have inside := p.fills.inside x (Or.inr (Or.inl member))
  have used := p.used_le_capacity
  rw [available] at enough
  have total : a.used + size < 2 ^ 64 := by omega
  rw [Extent.stop] at inside
  have start : x.offset + size < 2 ^ 64 := by omega
  unfold takeChecked? Allocator.take
  by_cases less : size < x.size
  · simp only [less, if_true, add?_of_lt start, sub?_of_le fits, Option.bind_eq_bind,
      Option.bind_some, Option.pure_def]
    change (add? a.used size).bind _ = _
    rw [add?_of_lt total]
    rfl
  · simp only [less, if_false, Option.bind_eq_bind, Option.bind_some, Option.pure_def]
    change (add? a.used size).bind _ = _
    rw [add?_of_lt total]
    rfl

theorem Partition.allocateChecked?_eq (p : a.Valid) (word : a.capacity < 2 ^ 64) (size : Nat) :
    a.allocateChecked? size = some (a.allocate size) := by
  rcases Nat.eq_zero_or_pos size with rfl | positive
  · rfl
  · have nonzero : size ≠ 0 := by omega
    rw [allocateChecked?, if_neg nonzero, sub?_of_le p.used_le_capacity]
    rcases Nat.lt_or_ge a.available size with scarce | enough
    · rw [allocate_of_scarce scarce]
      exact if_pos scarce
    · rw [allocate_of_enough positive enough]
      refine (if_neg (Nat.not_lt.mpr enough)).trans ?_
      cases found : a.bestFit? size with
      | none => rfl
      | some x =>
        have taken := p.takeChecked?_eq word (p.mem_of_bestFit? found)
          (size_le_of_bestFit? found) enough
        dsimp only
        rw [taken]
        rfl

theorem mem_of_below? (last : a.below? offset = some f) :
    f ∈ a.byOffset :=
  (List.mem_filter.mp (List.mem_of_getLast? last)).1

theorem Partition.below?_stop (p : a.Partition loose) (member : f ∈ a.byOffset) :
    a.below? f.stop = some f := by
  have positive := p.fills.nonempty f (Or.inr (Or.inl member))
  have ordered := p.free_apart.filter (fun g => g.offset < f.stop)
  have starts : f ∈ a.byOffset.filter (fun g => g.offset < f.stop) :=
    List.mem_filter.mpr ⟨member, decide_eq_true (Nat.lt_add_of_pos_right positive)⟩
  cases last : a.below? f.stop with
  | none =>
    rw [List.getLast?_eq_none_iff.mp last] at starts
    exact absurd starts List.not_mem_nil
  | some g =>
    obtain ⟨init, split⟩ := List.getLast?_eq_some_iff.mp last
    have low : g.offset < f.stop := by
      simpa using (List.mem_filter.mp (List.mem_of_getLast? last)).2
    rw [split] at ordered starts
    rcases List.mem_append.mp starts with earlier | final
    · -- another one after `f` would start past its end
      have := (List.pairwise_append.mp ordered).2.2 f earlier g List.mem_cons_self
      omega
    · rw [List.mem_singleton.mp final]

/-- Only the neighbour below can end where the extent starts. -/
theorem Partition.find?_stop_eq (p : a.Partition loose) (offset : Nat) :
    a.byOffset.find? (fun f => f.stop = offset) =
      (a.below? offset).filter (fun f => f.stop = offset) := by
  cases found : a.byOffset.find? (fun f => f.stop = offset) with
  | some f =>
    have touches : f.stop = offset := by simpa using List.find?_some found
    subst touches
    rw [p.below?_stop (List.mem_of_find?_eq_some found), Option.filter_some, if_pos (by simp)]
  | none =>
    cases last : a.below? offset with
    | none => rfl
    | some f =>
      have ends := List.find?_eq_none.mp found f (mem_of_below? last)
      rw [Option.filter_some, if_neg ends]

theorem Partition.mergeLeftChecked?_eq (p : a.Partition (some e)) (word : a.capacity < 2 ^ 64) :
    a.mergeLeftChecked? e = some (a.mergeLeft e) := by
  have inside := p.fills.inside e (Or.inr (Or.inr rfl))
  rw [mergeLeftChecked?, Allocator.mergeLeft, p.find?_stop_eq]
  cases last : a.below? e.offset with
  | none => rfl
  | some f =>
    have stop : add? f.offset f.size = some f.stop := add?_of_lt
      (Nat.lt_of_le_of_lt (p.fills.inside f (Or.inr (Or.inl (mem_of_below? last)))) word)
    simp only [stop, Option.bind_eq_bind, Option.bind_some, Option.filter_some, decide_eq_true_eq]
    by_cases touches : f.stop = e.offset
    · have joined : f.size + e.size < 2 ^ 64 := by
        simp only [Extent.stop] at touches inside
        omega
      rw [if_pos touches, if_pos touches, add?_of_lt joined]
      rfl
    · rw [if_neg touches, if_neg touches]
      rfl

theorem Partition.mergeRightChecked?_eq (p : a.Partition (some e)) (word : a.capacity < 2 ^ 64) :
    a.mergeRightChecked? e = some (a.mergeRight e) := by
  have inside := p.fills.inside e (Or.inr (Or.inr rfl))
  have stop : e.offset + e.size < 2 ^ 64 := Nat.lt_of_le_of_lt inside word
  rw [mergeRightChecked?, add?_of_lt stop, Allocator.mergeRight]
  change (match a.byOffset.find? (fun f => f.offset = e.stop) with
    | some f => _
    | none => _) = _
  cases found : a.byOffset.find? (fun f => f.offset = e.stop) with
  | none => rfl
  | some f =>
    have touches : f.offset = e.stop := by simpa using List.find?_some found
    have last := p.fills.inside f (Or.inr (Or.inl (List.mem_of_find?_eq_some found)))
    have joined : e.size + f.size < 2 ^ 64 := by
      simp only [Extent.stop] at touches last
      omega
    simp only [add?_of_lt joined]
    rfl

theorem Partition.freeChecked?_eq (p : a.Valid) (word : a.capacity < 2 ^ 64) (e : Extent) :
    a.freeChecked? e = some (a.free e) := by
  unfold freeChecked? Allocator.free
  by_cases member : e ∈ a.live
  · have part : e.size ≤ a.used := by
      rw [p.used_eq, ((List.perm_cons_erase member).map Extent.size).sum_nat]
      exact Nat.le_add_right _ _
    have loose := p.takeBack member
    obtain ⟨left, _, _, same⟩ := loose.mergeLeft
    rw [if_pos member, if_pos member, sub?_of_le part]
    have first := loose.mergeLeftChecked?_eq word
    have second := left.mergeRightChecked?_eq (by rw [same]; exact word)
    simp only [Option.bind_eq_bind, Option.bind_some, first, second]
    rfl
  · rw [if_neg member, if_neg member]

/-- The live extents and the gaps between them, listed twice, and the account of both. -/
structure Represented (a : Allocator) (capacity : Nat) : Prop where
  live_inside : ∀ e ∈ a.live, 0 < e.size ∧ e.stop ≤ capacity
  live_apart : a.live.Pairwise Extent.Apart
  free_iff : ∀ x, x ∈ a.byOffset ↔ Gap a.live capacity x
  free_apart : a.byOffset.Pairwise (fun x y => x.stop < y.offset)
  same_free : a.bySize.Perm a.byOffset
  bySize_ordered : a.bySize.Pairwise (fun x y => x.fitsBefore y = true)
  used : a.used = (a.live.map Extent.size).sum ∧ a.used ≤ capacity
  allocates : ∀ size, a.allocateChecked? size = some (a.allocate size)
  frees : ∀ e, a.freeChecked? e = some (a.free e)

/-- Whatever is asked for and whatever is given back, the free extents stay the maximal gaps between
the live ones, and no number leaves its word. -/
theorem represented_of_reachable (word : capacity < 2 ^ 64) (reached : Reachable capacity a) :
    a.Represented capacity := by
  obtain ⟨p, same⟩ := reached.valid
  subst same
  constructor
  · exact fun e live => ⟨p.fills.nonempty e (Or.inl live), p.fills.inside e (Or.inl live)⟩
  · exact p.live_pairwise
  · exact fun _ => p.mem_byOffset_iff
  · exact p.free_apart
  · exact p.same_free
  · exact p.bySize_sorted
  · exact ⟨p.used_eq, p.used_le_capacity⟩
  · exact p.allocateChecked?_eq word
  · exact p.freeChecked?_eq word

/-- The largest pool, cut at its end. A made-up pointer and one that has come back already change
nothing. -/
theorem represented_at_last_word :
    ∃ a, Reachable (2 ^ 64 - 1) a ∧ a.live = [⟨2 ^ 64 - 4, 2⟩] ∧
      a.byOffset = [⟨0, 2 ^ 64 - 4⟩, ⟨2 ^ 64 - 2, 1⟩] ∧ a.Represented (2 ^ 64 - 1) := by
  have empty : Reachable (2 ^ 64 - 1) (.new (2 ^ 64 - 1)) := .new
  have filled := (empty.call (.allocate (2 ^ 64 - 4))).call (.allocate 2)
  have freed := (filled.call (.free ⟨0, 2 ^ 64 - 4⟩)).call (.free ⟨0, 2 ^ 64 - 4⟩)
  have reached := freed.call (.free ⟨2 ^ 64 - 4, 2 ^ 64 - 1⟩)
  exact ⟨_, reached, by cbv, by cbv, represented_of_reachable (by decide) reached⟩

end Allocator

end BlockTier.L1
