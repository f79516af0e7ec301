import BlockTier.Proofs.L1.PoolPartition
/-!
What the moves of the allocator do to the division of the pool. Allocation takes the allocated
extent to the live ones and release takes it back; in between free neighbours are split or joined.
-/
namespace BlockTier.L1.Allocator

variable {a : Allocator} {e f : Extent}

theorem Partition.removeFree (p : a.Partition none) (member : f ∈ a.byOffset) :
    (a.removeFree f).Partition (some f) := by
  have fewer : a.byOffset.erase f ⊆ a.byOffset := List.erase_subset
  have parts (x : Extent) : (a.removeFree f).HasPart (some f) x ↔ a.HasPart none x := by
    have split := mem_iff_of_mem member x
    simp only [HasPart, Allocator.removeFree, Option.mem_def, reduceCtorEq, or_false, split,
      Option.some.injEq]
    grind
  refine
    { fills := p.fills.congr parts
      live_apart := p.live_apart
      free_apart := p.free_apart.sublist List.erase_sublist
      separate := fun x mx y my => p.separate x mx y (fewer my)
      loose_live := ?_
      loose_free := ?_
      same_free := p.same_free.erase f
      bySize_sorted := p.bySize_sorted.sublist List.erase_sublist
      used_eq := p.used_eq }
  · intro x same y my
    cases same
    exact (p.separate y my f member).symm
  · intro x same y my
    cases same
    exact apart_of_mem_erase p.free_pairwise member my

theorem Partition.insertFree (p : a.Partition (some e))
    (gap : ∀ x ∈ a.byOffset, x.stop ≠ e.offset ∧ e.stop ≠ x.offset) :
    (a.insertFree e).Partition none := by
  have byOffset_perm := perm_insertExtent Extent.startsBefore e a.byOffset
  have bySize_perm := perm_insertExtent Extent.fitsBefore e a.bySize
  have parts (x : Extent) : (a.insertFree e).HasPart none x ↔ a.HasPart (some e) x := by
    simp only [HasPart, Allocator.insertFree, Option.mem_def, reduceCtorEq, or_false,
      byOffset_perm.mem_iff, List.mem_cons, Option.some.injEq]
    grind
  have positive := p.fills.nonempty e (Or.inr (Or.inr rfl))
  have sizes (x : Extent) (member : x ∈ a.byOffset) := p.fills.nonempty x (Or.inr (Or.inl member))
  have apart (x : Extent) (member : x ∈ a.byOffset) := p.loose_free e rfl x member
  refine
    { fills := p.fills.congr parts
      live_apart := p.live_apart
      free_apart := ?_
      separate := ?_
      loose_live := fun _ absent => nomatch absent
      loose_free := fun _ absent => nomatch absent
      same_free := bySize_perm.trans ((p.same_free.cons e).trans byOffset_perm.symm)
      bySize_sorted := ?_
      used_eq := p.used_eq }
  · apply pairwise_insert_startsBefore 1 p.free_apart positive
    intro x member
    have := gap x member
    have := apart x member
    simp only [Extent.Apart, Extent.stop] at *
    omega
  · intro x mx y my
    rcases List.mem_cons.mp (byOffset_perm.mem_iff.mp my) with rfl | my
    · exact (p.loose_live _ rfl x mx).symm
    · exact p.separate x mx y my
  · apply pairwise_insert_fitsBefore p.bySize_sorted
    intro x member
    have free := p.same_free.mem_iff.mp member
    have := sizes x free
    have := apart x free
    simp only [Extent.Apart, Extent.stop] at *
    omega

/-- What is left of an extent when its start is handed out. -/
def remainder (f : Extent) (size : Nat) : Option Extent :=
  if size < f.size then some ⟨f.offset + size, f.size - size⟩ else none

theorem mem_remainder {size : Nat} {x : Extent} (member : x ∈ remainder f size) :
    size < f.size ∧ x.offset = f.offset + size ∧ x.stop = f.stop := by
  unfold remainder at member
  split at member
  · rename_i less
    cases member
    refine ⟨less, rfl, ?_⟩
    simp only [Extent.stop]
    omega
  · cases member

theorem Partition.fills_handOut (p : a.Partition (some f)) {size : Nat} (positive : 0 < size)
    (fits : size ≤ f.size) :
    Fills
      (HasPart { a with live := insertExtent Extent.startsBefore ⟨f.offset, size⟩ a.live }
        (remainder f size)) a.capacity := by
  have live_perm := perm_insertExtent Extent.startsBefore ⟨f.offset, size⟩ a.live
  have whole : f.stop ≤ a.capacity := p.fills.inside f (Or.inr (Or.inr rfl))
  refine ⟨?_, ?_, ?_⟩
  · rintro x (live | free | rest)
    · rcases List.mem_cons.mp (live_perm.mem_iff.mp live) with rfl | live
      · exact positive
      · exact p.fills.nonempty x (Or.inl live)
    · exact p.fills.nonempty x (Or.inr (Or.inl free))
    · have := mem_remainder rest
      simp only [Extent.stop] at this
      omega
  · rintro x (live | free | rest)
    · rcases List.mem_cons.mp (live_perm.mem_iff.mp live) with rfl | live
      · simp only [Extent.stop] at whole ⊢
        omega
      · exact p.fills.inside x (Or.inl live)
    · exact p.fills.inside x (Or.inr (Or.inl free))
    · have := mem_remainder rest
      omega
  · intro i bound
    obtain ⟨x, live | free | same, within⟩ := p.fills.covered i bound
    · exact ⟨x, Or.inl (live_perm.mem_iff.mpr (List.mem_cons_of_mem _ live)), within⟩
    · exact ⟨x, Or.inr (Or.inl free), within⟩
    · cases same
      by_cases h : i < f.offset + size
      · exact ⟨⟨f.offset, size⟩, Or.inl (live_perm.mem_iff.mpr List.mem_cons_self), within.1, h⟩
      · have less : size < f.size := by
          simp only [Extent.stop] at within
          omega
        refine ⟨⟨f.offset + size, f.size - size⟩, Or.inr (Or.inr ?_), by simpa using h, ?_⟩
        · simp [remainder, less]
        · simp only [Extent.stop] at within ⊢
          omega

theorem Partition.handOut (p : a.Partition (some f)) {size : Nat} (positive : 0 < size)
    (fits : size ≤ f.size) :
    Partition
      { a with
        live := insertExtent Extent.startsBefore ⟨f.offset, size⟩ a.live
        used := a.used + size }
      (remainder f size) := by
  have live_perm := perm_insertExtent Extent.startsBefore ⟨f.offset, size⟩ a.live
  refine
    { fills := p.fills_handOut positive fits
      live_apart := pairwise_insert_startsBefore 0 p.live_apart positive ?_
      free_apart := p.free_apart
      separate := ?_
      loose_live := ?_
      loose_free := ?_
      same_free := p.same_free
      bySize_sorted := p.bySize_sorted
      used_eq := ?_ }
  · intro x member
    have := p.loose_live f rfl x member
    simp only [Extent.Apart, Extent.stop] at *
    omega
  · intro x mx y my
    rcases List.mem_cons.mp (live_perm.mem_iff.mp mx) with rfl | mx
    · have := p.loose_free f rfl y my
      simp only [Extent.Apart, Extent.stop] at *
      omega
    · exact p.separate x mx y my
  · intro x rest y my
    have := mem_remainder rest
    rcases List.mem_cons.mp (live_perm.mem_iff.mp my) with rfl | my
    · exact Or.inr (by simp only [Extent.stop]; omega)
    · have := p.loose_live f rfl y my
      simp only [Extent.Apart, Extent.stop] at *
      omega
  · intro x rest y my
    have := mem_remainder rest
    have := p.loose_free f rfl y my
    simp only [Extent.Apart, Extent.stop] at *
    omega
  · have total := (live_perm.map Extent.size).sum_nat
    have before := p.used_eq
    simp only [List.map_cons, List.sum_cons] at total ⊢
    omega

theorem Partition.takeBack (p : a.Partition none) (member : e ∈ a.live) :
    Partition { a with live := a.live.erase e, used := a.used - e.size } (some e) := by
  have fewer : a.live.erase e ⊆ a.live := List.erase_subset
  have parts (x : Extent) :
      HasPart { a with live := a.live.erase e, used := a.used - e.size } (some e) x ↔
        a.HasPart none x := by
    have split := mem_iff_of_mem member x
    simp only [HasPart, Option.mem_def, reduceCtorEq, or_false, split, Option.some.injEq]
    grind
  refine
    { fills := p.fills.congr parts
      live_apart := p.live_apart.sublist List.erase_sublist
      free_apart := p.free_apart
      separate := fun x mx y my => p.separate x (fewer mx) y my
      loose_live := ?_
      loose_free := ?_
      same_free := p.same_free
      bySize_sorted := p.bySize_sorted
      used_eq := ?_ }
  · intro x same y my
    cases same
    exact apart_of_mem_erase p.live_pairwise member my
  · intro x same y my
    cases same
    exact p.separate e member y my
  · have total := ((List.perm_cons_erase member).map Extent.size).sum_nat
    have before := p.used_eq
    simp only [List.map_cons, List.sum_cons] at total ⊢
    omega

/-- The extent is the union of two that touch. -/
def Joins (joined e f : Extent) : Prop :=
  (f.stop = e.offset ∧ joined.offset = f.offset ∧ joined.stop = e.stop) ∨
    (e.stop = f.offset ∧ joined.offset = e.offset ∧ joined.stop = f.stop)

theorem Partition.fills_absorb (p : a.Partition (some e)) (member : f ∈ a.byOffset)
    {joined : Extent} (joins : Joins joined e f) :
    Fills ((a.removeFree f).HasPart (some joined)) a.capacity := by
  have fewer : a.byOffset.erase f ⊆ a.byOffset := List.erase_subset
  have e_part : a.HasPart (some e) e := Or.inr (Or.inr rfl)
  have f_part : a.HasPart (some e) f := Or.inr (Or.inl member)
  refine ⟨?_, ?_, ?_⟩
  · rintro x (live | free | same)
    · exact p.fills.nonempty x (Or.inl live)
    · exact p.fills.nonempty x (Or.inr (Or.inl (fewer free)))
    · cases same
      have := p.fills.nonempty e e_part
      simp only [Joins, Extent.stop] at joins
      omega
  · rintro x (live | free | same)
    · exact p.fills.inside x (Or.inl live)
    · exact p.fills.inside x (Or.inr (Or.inl (fewer free)))
    · cases same
      have := p.fills.inside e e_part
      have := p.fills.inside f f_part
      simp only [Joins, Extent.stop] at *
      omega
  · intro i bound
    obtain ⟨x, part, within⟩ := p.fills.covered i bound
    by_cases h : joined.offset ≤ i ∧ i < joined.stop
    · exact ⟨joined, Or.inr (Or.inr rfl), h⟩
    · refine ⟨x, ?_, within⟩
      rcases part with live | free | same
      · exact Or.inl live
      · rcases (mem_iff_of_mem member x).mp free with rfl | free
        · exfalso
          simp only [Joins, Extent.stop] at *
          omega
        · exact Or.inr (Or.inl free)
      · cases same
        exfalso
        simp only [Joins, Extent.stop] at *
        omega

theorem Partition.absorb (p : a.Partition (some e)) (member : f ∈ a.byOffset) {joined : Extent}
    (joins : Joins joined e f) : (a.removeFree f).Partition (some joined) := by
  have fewer : a.byOffset.erase f ⊆ a.byOffset := List.erase_subset
  refine
    { fills := p.fills_absorb member joins
      live_apart := p.live_apart
      free_apart := p.free_apart.sublist List.erase_sublist
      separate := fun x mx y my => p.separate x mx y (fewer my)
      loose_live := ?_
      loose_free := ?_
      same_free := p.same_free.erase f
      bySize_sorted := p.bySize_sorted.sublist List.erase_sublist
      used_eq := p.used_eq }
  · intro x same y my
    cases same
    have := p.fills.nonempty y (Or.inl my)
    have := p.loose_live e rfl y my
    have := p.separate y my f member
    simp only [Joins, Extent.Apart, Extent.stop] at *
    omega
  · intro x same y my
    cases same
    have := p.fills.nonempty y (Or.inr (Or.inl (fewer my)))
    have := p.loose_free e rfl y (fewer my)
    have := apart_of_mem_erase p.free_pairwise member my
    simp only [Joins, Extent.Apart, Extent.stop] at *
    omega

end BlockTier.L1.Allocator
