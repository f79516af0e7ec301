import BlockTier.Proofs.L1.PoolTransfer
/-!
Allocation and release keep the pool divided. Allocation adds the extent that it returns to the
live ones, release takes exactly the given one away, and an error changes nothing.
-/
namespace BlockTier.L1.Allocator

variable {a a' : Allocator} {e : Extent} {size : Nat}

theorem valid_new (capacity : Nat) : (new capacity).Valid := by
  unfold new
  by_cases h : 0 < capacity
  · simp only [h, ↓reduceIte, Allocator.insertFree, insertExtent]
    refine ⟨⟨?_, ?_, ?_⟩, ?_, ?_, ?_, ?_, ?_, ?_, ?_, ?_⟩ <;> simp [HasPart, Extent.stop, h]
  · simp only [h, ↓reduceIte]
    refine ⟨⟨?_, ?_, ?_⟩, ?_, ?_, ?_, ?_, ?_, ?_, ?_, ?_⟩ <;> simp [HasPart]
    omega

@[simp] theorem capacity_new (capacity : Nat) : (new capacity).capacity = capacity := by
  unfold new
  dsimp only
  split <;> rfl

@[simp] theorem live_new (capacity : Nat) : (new capacity).live = [] := by
  unfold new
  dsimp only
  split <;> rfl

theorem allocate_zero (a : Allocator) : a.allocate 0 = .error (.invalidSize 0) := rfl

theorem allocate_of_scarce (scarce : a.available < size) :
    a.allocate size = .error (.full size a.available) := by
  rw [allocate, if_neg (by omega), if_pos scarce]

theorem allocate_of_enough (positive : 0 < size) (enough : size ≤ a.available) :
    a.allocate size =
      match a.bestFit? size with
      | none => .error (.fragmented size a.available)
      | some x => .ok (⟨x.offset, size⟩, a.take x size) := by
  unfold allocate
  exact (if_neg (by omega)).trans (if_neg (by omega))

theorem isCapacity_of_failed {cause : AllocError} (positive : 0 < size)
    (failed : a.allocate size = .error cause) :
    cause.isCapacity = true := by
  rcases Nat.lt_or_ge a.available size with scarce | enough
  · rw [allocate_of_scarce scarce] at failed
    cases failed
    rfl
  · rw [allocate_of_enough positive enough] at failed
    split at failed
    · cases failed
      rfl
    · cases failed

theorem size_le_of_bestFit? {f : Extent} (h : a.bestFit? size = some f) : size ≤ f.size := by
  simpa using List.find?_some h

theorem Partition.mem_of_bestFit? (p : a.Valid) {f : Extent} (h : a.bestFit? size = some f) :
    f ∈ a.byOffset :=
  p.same_free.mem_iff.mp (List.mem_of_find?_eq_some h)

theorem Partition.take (p : a.Valid) {f : Extent} (member : f ∈ a.byOffset) (positive : 0 < size)
    (fits : size ≤ f.size) : (a.take f size).Valid := by
  have handed := (p.removeFree member).handOut positive fits
  by_cases less : size < f.size
  · simp only [remainder, less, ↓reduceIte] at handed
    have gap (x : Extent) (mx : x ∈ a.byOffset.erase f) :
        x.stop ≠ f.offset + size ∧ f.offset + size + (f.size - size) ≠ x.offset := by
      have other := List.mem_of_mem_erase mx
      have := p.fills.nonempty x (Or.inr (Or.inl other))
      have apart := apart_of_mem_erase p.free_pairwise member mx
      have := p.free_gap member mx
      simp only [Extent.Apart, Extent.stop] at *
      omega
    simp only [Allocator.take, less, ↓reduceIte]
    exact handed.insertFree gap
  · simp only [remainder, less, ↓reduceIte] at handed
    simpa only [Allocator.take, less, ↓reduceIte] using handed

theorem Partition.allocate (p : a.Valid) (h : a.allocate size = .ok (e, a')) :
    a'.Valid ∧ a'.live.Perm (e :: a.live) ∧ e.size = size ∧ a'.capacity = a.capacity := by
  unfold Allocator.allocate at h
  split at h
  · cases h
  · rename_i nonzero
    split at h
    · cases h
    · split at h
      · cases h
      · rename_i f found
        cases h
        have member := p.mem_of_bestFit? found
        have valid := p.take member (Nat.pos_of_ne_zero nonzero) (size_le_of_bestFit? found)
        refine ⟨valid, ?_, rfl, ?_⟩
        · unfold Allocator.take
          dsimp only
          split <;> exact perm_insertExtent _ _ _
        · unfold Allocator.take
          dsimp only
          split <;> rfl

theorem Partition.mergeLeft (p : a.Partition (some e)) :
    (a.mergeLeft e).1.Partition (some (a.mergeLeft e).2) ∧
      (∀ x ∈ (a.mergeLeft e).1.byOffset, x.stop ≠ (a.mergeLeft e).2.offset) ∧
      (a.mergeLeft e).1.live = a.live ∧ (a.mergeLeft e).1.capacity = a.capacity := by
  unfold Allocator.mergeLeft
  split
  · rename_i f found
    have member := List.mem_of_find?_eq_some found
    have touches : f.stop = e.offset := by simpa using List.find?_some found
    have joins : Joins ⟨f.offset, f.size + e.size⟩ e f := by
      refine Or.inl ⟨touches, rfl, ?_⟩
      simp only [Extent.stop] at touches ⊢
      omega
    refine ⟨p.absorb member joins, ?_, rfl, rfl⟩
    intro x mx
    exact (p.free_gap member mx).1
  · rename_i absent
    refine ⟨p, ?_, rfl, rfl⟩
    intro x mx
    simpa using List.find?_eq_none.mp absent x mx

theorem Partition.mergeRight (p : a.Partition (some e))
    (left : ∀ x ∈ a.byOffset, x.stop ≠ e.offset) :
    (a.mergeRight e).1.Partition (some (a.mergeRight e).2) ∧
      (∀ x ∈ (a.mergeRight e).1.byOffset,
        x.stop ≠ (a.mergeRight e).2.offset ∧ (a.mergeRight e).2.stop ≠ x.offset) ∧
      (a.mergeRight e).1.live = a.live ∧ (a.mergeRight e).1.capacity = a.capacity := by
  unfold Allocator.mergeRight
  split
  · rename_i f found
    have member := List.mem_of_find?_eq_some found
    have touches : f.offset = e.stop := by simpa using List.find?_some found
    have joins : Joins ⟨e.offset, e.size + f.size⟩ e f := by
      refine Or.inr ⟨touches.symm, rfl, ?_⟩
      simp only [Extent.stop] at touches ⊢
      omega
    refine ⟨p.absorb member joins, ?_, rfl, rfl⟩
    intro x mx
    have := p.free_gap member mx
    refine ⟨left x (List.mem_of_mem_erase mx), ?_⟩
    simp only [Extent.stop] at this touches ⊢
    omega
  · rename_i absent
    refine ⟨p, ?_, rfl, rfl⟩
    intro x mx
    have gap := List.find?_eq_none.mp absent x mx
    exact ⟨left x mx, fun same => gap (by simp [same])⟩

theorem Partition.free (p : a.Valid) (member : e ∈ a.live) :
    ∃ a', a.free e = .ok a' ∧ a'.Valid ∧ a'.live = a.live.erase e ∧ a'.capacity = a.capacity := by
  let taken : Allocator := { a with live := a.live.erase e, used := a.used - e.size }
  have loose : taken.Partition (some e) := p.takeBack member
  obtain ⟨left, left_gap, left_live, left_capacity⟩ := loose.mergeLeft
  obtain ⟨right, right_gap, right_live, right_capacity⟩ := left.mergeRight left_gap
  refine ⟨_, ?_, right.insertFree right_gap, ?_, ?_⟩
  · simp only [Allocator.free, member, ↓reduceIte]
    rfl
  · exact right_live.trans left_live
  · exact right_capacity.trans left_capacity

theorem Partition.release (p : a.Valid) (member : e ∈ a.live) :
    (a.release e).Valid ∧ (a.release e).live = a.live.erase e ∧
      (a.release e).capacity = a.capacity := by
  obtain ⟨a', freed, valid, live, capacity⟩ := p.free member
  simp only [Allocator.release, freed]
  exact ⟨valid, live, capacity⟩

/-! ### Runs -/

/-- A request, with any size, or an extent that is given back, whether it was handed out or not. -/
inductive Call
  | allocate (size : Nat)
  | free (e : Extent)

/-- What a call leaves and what it answers: the extent that it hands out, if it is to hand one
out. -/
def call (a : Allocator) : Call → Allocator × Except AllocError (Option Extent)
  | .allocate size =>
    match a.allocate size with
    | .ok (e, a') => (a', .ok (some e))
    | .error error => (a, .error error)
  | .free e =>
    match a.free e with
    | .ok a' => (a', .ok none)
    | .error error => (a, .error error)

inductive Reachable (capacity : Nat) : Allocator → Prop
  | new : Reachable capacity (.new capacity)
  | call {a : Allocator} (before : Reachable capacity a) (c : Call) :
    Reachable capacity (a.call c).1

theorem Partition.call (p : a.Valid) (c : Call) :
    (a.call c).1.Valid ∧ (a.call c).1.capacity = a.capacity := by
  cases c with
  | allocate size =>
    simp only [Allocator.call]
    split
    · rename_i e a' allocated
      obtain ⟨valid, _, _, capacity⟩ := p.allocate allocated
      exact ⟨valid, capacity⟩
    · exact ⟨p, rfl⟩
  | free e =>
    simp only [Allocator.call]
    split
    · rename_i a' freed
      by_cases member : e ∈ a.live
      · obtain ⟨b, freed', valid, _, capacity⟩ := p.free member
        cases freed.symm.trans freed'
        exact ⟨valid, capacity⟩
      · rw [Allocator.free, if_neg member] at freed
        cases freed
    · exact ⟨p, rfl⟩

theorem Reachable.valid {capacity : Nat} (reached : Reachable capacity a) :
    a.Valid ∧ a.capacity = capacity := by
  induction reached with
  | new => exact ⟨valid_new capacity, capacity_new capacity⟩
  | call before c ih =>
    obtain ⟨valid, same⟩ := ih.1.call c
    exact ⟨valid, same.trans ih.2⟩

end BlockTier.L1.Allocator
