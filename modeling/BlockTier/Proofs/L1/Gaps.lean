import BlockTier.Proofs.L1.Allocation
/-!
The free extents are the maximal gaps between the live ones, so the live extents tell the whole
state of the allocator: an extent that is taken and given back leaves no trace.
-/
namespace BlockTier.L1.Allocator

variable {a a' b : Allocator} {e x : Extent} {size : Nat}

/-- Space between live extents that reaches as far as it can to both sides. -/
structure Gap (live : List Extent) (capacity : Nat) (x : Extent) : Prop where
  nonempty : 0 < x.size
  inside : x.stop ≤ capacity
  apart : ∀ e ∈ live, e.Apart x
  left : x.offset = 0 ∨ ∃ e ∈ live, e.stop = x.offset
  right : x.stop = capacity ∨ ∃ e ∈ live, e.offset = x.stop

/-- What lies beside a free extent is live, since free extents do not touch. -/
theorem Partition.live_beside (p : a.Valid) (free : x ∈ a.byOffset) {i : Nat}
    (inside : i < a.capacity) (next : i + 1 = x.offset ∨ i = x.stop) :
    ∃ e ∈ a.live, e.offset ≤ i ∧ i < e.stop := by
  obtain ⟨y, live | also | absent, first, last⟩ := p.fills.covered i inside
  · exact ⟨y, live, first, last⟩
  · exfalso
    rcases (mem_iff_of_mem free y).mp also with same | other
    · subst same
      simp only [Extent.stop] at *
      omega
    · have gap := p.free_gap free other
      have apart := apart_of_mem_erase p.free_pairwise free other
      simp only [Extent.Apart, Extent.stop] at *
      omega
  · cases absent

theorem Partition.gap (p : a.Valid) (free : x ∈ a.byOffset) : Gap a.live a.capacity x := by
  have inside := p.fills.inside x (Or.inr (Or.inl free))
  have positive := p.fills.nonempty x (Or.inr (Or.inl free))
  constructor
  · exact positive
  · exact inside
  · intro e live
    exact p.separate e live x free
  · by_cases first : x.offset = 0
    · exact Or.inl first
    · right
      obtain ⟨e, live, start, stop⟩ := p.live_beside free (i := x.offset - 1)
        (by simp only [Extent.stop] at inside; omega) (Or.inl (by omega))
      have apart := p.separate e live x free
      refine ⟨e, live, ?_⟩
      simp only [Extent.Apart, Extent.stop] at *
      omega
  · by_cases last : x.stop = a.capacity
    · exact Or.inl last
    · right
      obtain ⟨e, live, start, stop⟩ := p.live_beside free (i := x.stop) (by omega) (Or.inr rfl)
      have apart := p.separate e live x free
      refine ⟨e, live, ?_⟩
      simp only [Extent.Apart, Extent.stop] at *
      omega

/-- Two gaps that share a byte are one. -/
theorem Gap.unique {live : List Extent} {capacity : Nat} {y : Extent} (gap : Gap live capacity x)
    (other : Gap live capacity y) (positive : ∀ e ∈ live, 0 < e.size)
    (meets : x.offset < y.stop ∧ y.offset < x.stop) : x = y := by
  have first (z w : Extent) (gz : Gap live capacity z) (gw : Gap live capacity w)
      (zw : w.offset < z.stop) : ¬ z.offset < w.offset := by
    intro before
    rcases gw.left with zero | ⟨e, member, same⟩
    · omega
    · have := positive e member
      have := gz.apart e member
      simp only [Extent.Apart, Extent.stop] at *
      omega
  have last (z w : Extent) (gz : Gap live capacity z) (gw : Gap live capacity w)
      (zw : z.offset < w.stop) : ¬ w.stop < z.stop := by
    intro before
    rcases gw.right with whole | ⟨e, member, same⟩
    · have := gz.inside
      omega
    · have := positive e member
      have := gz.apart e member
      simp only [Extent.Apart, Extent.stop] at *
      omega
  have offsets : x.offset = y.offset := by
    have := first x y gap other meets.2
    have := first y x other gap meets.1
    omega
  have stops : x.stop = y.stop := by
    have := last x y gap other meets.1
    have := last y x other gap meets.2
    omega
  cases x
  cases y
  simp only [Extent.stop] at offsets stops
  simp only [Extent.mk.injEq]
  omega

theorem Partition.free_of_gap (p : a.Valid) (gap : Gap a.live a.capacity x) : x ∈ a.byOffset := by
  have positive := gap.nonempty
  have inside := gap.inside
  obtain ⟨y, live | free | absent, first, last⟩ := p.fills.covered x.offset
    (by simp only [Extent.stop] at inside; omega)
  · have apart := gap.apart y live
    simp only [Extent.Apart, Extent.stop] at *
    omega
  · have same : x = y := by
      apply gap.unique (p.gap free) (fun e live => p.fills.nonempty e (Or.inl live))
      simp only [Extent.stop] at *
      omega
    rw [same]
    exact free
  · cases absent

/-- Free are exactly the maximal gaps. -/
theorem Partition.mem_byOffset_iff (p : a.Valid) :
    x ∈ a.byOffset ↔ Gap a.live a.capacity x :=
  ⟨p.gap, p.free_of_gap⟩

/-- Free space is part of a gap. -/
theorem Partition.exists_gap (p : a.Valid) (positive : 0 < x.size) (inside : x.stop ≤ a.capacity)
    (apart : ∀ e ∈ a.live, e.Apart x) :
    ∃ y, Gap a.live a.capacity y ∧ y.offset ≤ x.offset ∧ x.stop ≤ y.stop := by
  obtain ⟨y, live | free | absent, first, last⟩ := p.fills.covered x.offset
    (by simp only [Extent.stop] at inside; omega)
  · have := apart y live
    simp only [Extent.Apart, Extent.stop] at *
    omega
  · have gap := p.gap free
    refine ⟨y, gap, first, ?_⟩
    rcases gap.right with whole | ⟨e, live, next⟩
    · omega
    · have := p.fills.nonempty e (Or.inl live)
      have := apart e live
      simp only [Extent.Apart, Extent.stop] at *
      omega
  · cases absent

theorem Partition.byOffset_nodup (p : a.Valid) : a.byOffset.Nodup := by
  apply p.free_apart.imp_of_mem
  intro x y mx _ before same
  have positive := p.fills.nonempty x (Or.inr (Or.inl mx))
  simp only [same, Extent.stop] at before
  omega

/-- Lists in an order that no two extents share are equal if they have the same members. -/
theorem eq_of_perm {R : Extent → Extent → Prop} {l l' : List Extent}
    (asymmetric : ∀ x y, R x y → ¬ R y x) (ordered : l.Pairwise R) (ordered' : l'.Pairwise R)
    (perm : l.Perm l') : l = l' :=
  perm.eq_of_pairwise (fun x y _ _ xy yx => absurd yx (asymmetric x y xy)) ordered ordered'

theorem pairwise_offset_lt {l : List Extent} (positive : ∀ x ∈ l, 0 < x.size)
    (apart : l.Pairwise (fun x y => x.stop ≤ y.offset)) :
    l.Pairwise (fun x y => x.offset < y.offset) := by
  apply apart.imp_of_mem
  intro x y mx _ before
  have := positive x mx
  simp only [Extent.stop] at before
  omega

theorem Partition.live_ordered (p : a.Valid) :
    a.live.Pairwise (fun x y => x.offset < y.offset) :=
  pairwise_offset_lt (fun x live => p.fills.nonempty x (Or.inl live)) p.live_apart

theorem Partition.free_ordered (p : a.Valid) :
    a.byOffset.Pairwise (fun x y => x.offset < y.offset) :=
  pairwise_offset_lt (fun x free => p.fills.nonempty x (Or.inr (Or.inl free)))
    (p.free_apart.imp Nat.le_of_lt)

/-- The live extents determine the allocator. -/
theorem Partition.eq_of_live (p : a.Valid) (q : b.Valid) (capacity : a.capacity = b.capacity)
    (live : a.live.Perm b.live) : a = b := by
  have offset_asymm (x y : Extent) (before : x.offset < y.offset) : ¬ y.offset < x.offset := by
    omega
  have size_asymm (x y : Extent) (before : x.fitsBefore y = true) : ¬ y.fitsBefore x = true := by
    simp only [Extent.fitsBefore, Bool.or_eq_true, Bool.and_eq_true, decide_eq_true_eq] at *
    omega
  have same_live : a.live = b.live := eq_of_perm offset_asymm p.live_ordered q.live_ordered live
  have free : a.byOffset.Perm b.byOffset := by
    apply (List.perm_ext_iff_of_nodup p.byOffset_nodup q.byOffset_nodup).mpr
    intro x
    rw [p.mem_byOffset_iff, q.mem_byOffset_iff, same_live, capacity]
  have same_free : a.byOffset = b.byOffset :=
    eq_of_perm offset_asymm p.free_ordered q.free_ordered free
  have same_sizes : a.bySize = b.bySize :=
    eq_of_perm size_asymm p.bySize_sorted q.bySize_sorted
      (p.same_free.trans (free.trans q.same_free.symm))
  have used : a.used = b.used := by rw [p.used_eq, q.used_eq, same_live]
  cases a
  cases b
  simp_all

/-- An extent that is given back leaves the allocator as it was before it was taken. -/
theorem Partition.release_allocate (p : a.Valid) (taken : a.allocate size = .ok (e, a')) :
    a'.release e = a := by
  obtain ⟨valid, live, _, capacity⟩ := p.allocate taken
  have member : e ∈ a'.live := live.mem_iff.mpr List.mem_cons_self
  obtain ⟨released, erased, same⟩ := valid.release member
  apply released.eq_of_live p (same.trans capacity)
  rw [erased]
  have shorter := live.erase e
  rwa [List.erase_cons_head] at shorter

end BlockTier.L1.Allocator
