import BlockTier.Proofs.L1.Gaps
/-!
Which extent is handed out and why a request fails, by the gaps between the live extents: the
order of the free extents by size is the order of the best fit.
-/
namespace BlockTier.L1.Allocator

variable {a a' : Allocator} {e x : Extent} {size capacity : Nat} {error : AllocError}

/-- The shortest gap that is long enough, the lowest one among equals. -/
structure BestFit (live : List Extent) (capacity size : Nat) (x : Extent) : Prop where
  gap : Gap live capacity x
  fits : size ≤ x.size
  shortest : ∀ y, Gap live capacity y → size ≤ y.size →
    x.size < y.size ∨ x.size = y.size ∧ x.offset ≤ y.offset

theorem Partition.mem_bySize_iff (p : a.Valid) :
    x ∈ a.bySize ↔ Gap a.live a.capacity x := by
  rw [p.same_free.mem_iff, p.mem_byOffset_iff]

theorem Partition.bestFit_of_found (p : a.Valid) (found : a.bestFit? size = some x) :
    BestFit a.live a.capacity size x := by
  obtain ⟨fits, before, after, parts, short⟩ := List.find?_eq_some_iff_append.mp found
  have ordered := p.bySize_sorted
  rw [parts] at ordered
  refine ⟨p.gap (p.mem_of_bestFit? found), by simpa using fits, fun y gap long => ?_⟩
  have member := p.mem_bySize_iff.mpr gap
  rw [parts] at member
  rcases List.mem_append.mp member with earlier | later
  · have := short y earlier
    simp only [Bool.not_eq_true', decide_eq_false_iff_not] at this
    omega
  · rcases List.mem_cons.mp later with rfl | later
    · exact Or.inr ⟨rfl, Nat.le_refl _⟩
    · have order := (List.pairwise_cons.mp (List.pairwise_append.mp ordered).2.1).1 y later
      simp only [Extent.fitsBefore, Bool.or_eq_true, Bool.and_eq_true, decide_eq_true_eq] at order
      omega

theorem Partition.bestFit?_eq_none_iff (p : a.Valid) :
    a.bestFit? size = none ↔ ∀ x, Gap a.live a.capacity x → x.size < size := by
  simp only [bestFit?, List.find?_eq_none, decide_eq_true_eq, Nat.not_le, p.mem_bySize_iff]

/-- What is live and a gap that is handed out have room beside each other. -/
theorem Partition.size_le_available (p : a.Valid) (gap : Gap a.live a.capacity x)
    (positive : 0 < size) (fits : size ≤ x.size) : size ≤ a.available := by
  have taken := (p.take (p.free_of_gap gap) positive fits).used_le_capacity
  have used : (a.take x size).used = a.used + size := by
    unfold Allocator.take
    dsimp only
    split <;> rfl
  have same : (a.take x size).capacity = a.capacity := by
    unfold Allocator.take
    dsimp only
    split <;> rfl
  rw [used, same] at taken
  rw [available]
  omega

/-! ### Requests -/

/-- How a request is answered. -/
inductive Answers (a : Allocator) (size : Nat) : Except AllocError (Extent × Allocator) → Prop
  | zero (zero : size = 0) : Answers a size (.error (.invalidSize size))
  | full (scarce : a.available < size) : Answers a size (.error (.full size a.available))
  | fragmented (positive : 0 < size) (enough : size ≤ a.available)
    (short : ∀ x, Gap a.live a.capacity x → x.size < size) :
    Answers a size (.error (.fragmented size a.available))
  | handed (x : Extent) (positive : 0 < size) (enough : size ≤ a.available)
    (fit : BestFit a.live a.capacity size x) :
    Answers a size (.ok (⟨x.offset, size⟩, a.take x size))

theorem Partition.answers (p : a.Valid) (size : Nat) : a.Answers size (a.allocate size) := by
  rcases Nat.eq_zero_or_pos size with rfl | positive
  · exact .zero rfl
  · rcases Nat.lt_or_ge a.available size with scarce | enough
    · rw [allocate_of_scarce scarce]
      exact .full scarce
    · rw [allocate_of_enough positive enough]
      cases found : a.bestFit? size with
      | none => exact .fragmented positive enough (p.bestFit?_eq_none_iff.mp found)
      | some x => exact .handed x positive enough (p.bestFit_of_found found)

theorem Partition.allocate_ok_iff (p : a.Valid) :
    (∃ e a', a.allocate size = .ok (e, a')) ↔
      0 < size ∧ ∃ x, Gap a.live a.capacity x ∧ size ≤ x.size := by
  have answers := p.answers size
  generalize a.allocate size = answer at answers
  cases answers with
  | zero zero =>
    refine ⟨fun ⟨_, _, absent⟩ => (nomatch absent), fun ⟨positive, _⟩ => ?_⟩
    omega
  | full scarce =>
    refine ⟨fun ⟨_, _, absent⟩ => (nomatch absent), fun ⟨positive, x, gap, fits⟩ => ?_⟩
    have := p.size_le_available gap positive fits
    omega
  | fragmented positive enough short =>
    refine ⟨fun ⟨_, _, absent⟩ => (nomatch absent), fun ⟨_, x, gap, fits⟩ => ?_⟩
    have := short x gap
    omega
  | handed x positive enough fit =>
    exact ⟨fun _ => ⟨positive, x, fit.gap, fit.fits⟩, fun _ => ⟨_, _, rfl⟩⟩

theorem Partition.allocate_invalid_iff (p : a.Valid) :
    a.allocate size = .error (.invalidSize size) ↔ size = 0 := by
  constructor
  · intro failed
    have answers := p.answers size
    rw [failed] at answers
    cases answers with
    | zero zero => exact zero
  · rintro rfl
    exact a.allocate_zero

theorem Partition.allocate_full_iff (p : a.Valid) :
    a.allocate size = .error (.full size a.available) ↔ a.available < size := by
  constructor
  · intro failed
    have answers := p.answers size
    rw [failed] at answers
    cases answers with
    | full scarce => exact scarce
  · exact allocate_of_scarce

theorem Partition.allocate_fragmented_iff (p : a.Valid) :
    a.allocate size = .error (.fragmented size a.available) ↔
      0 < size ∧ size ≤ a.available ∧ ∀ x, Gap a.live a.capacity x → x.size < size := by
  constructor
  · intro failed
    have answers := p.answers size
    rw [failed] at answers
    cases answers with
    | fragmented positive enough short => exact ⟨positive, enough, short⟩
  · rintro ⟨positive, enough, short⟩
    rw [allocate_of_enough positive enough, p.bestFit?_eq_none_iff.mpr short]

theorem Partition.bestFit_of_allocated (p : a.Valid) (allocated : a.allocate size = .ok (e, a')) :
    ∃ x, BestFit a.live a.capacity size x ∧ e = ⟨x.offset, size⟩ := by
  have answers := p.answers size
  rw [allocated] at answers
  cases answers with
  | handed x positive enough fit => exact ⟨x, fit, rfl⟩

theorem Partition.inside_of_allocated (p : a.Valid) (allocated : a.allocate size = .ok (e, a')) :
    e.stop ≤ a.capacity ∧ (∀ y ∈ a.live, y.Apart e) ∧ a'.live.Perm (e :: a.live) := by
  obtain ⟨valid, live, _, capacity⟩ := p.allocate allocated
  have handed : e ∈ a'.live := live.mem_iff.mpr List.mem_cons_self
  refine ⟨capacity ▸ valid.fills.inside e (Or.inl handed), fun y member => ?_, live⟩
  have apart := live.pairwise valid.live_pairwise Extent.Apart.symm
  exact ((List.pairwise_cons.mp apart).1 y member).symm

theorem free_ok_iff : (∃ a', a.free e = .ok a') ↔ e ∈ a.live := by
  unfold Allocator.free
  by_cases member : e ∈ a.live
  · rw [if_pos member]
    exact ⟨fun _ => member, fun _ => ⟨_, rfl⟩⟩
  · rw [if_neg member]
    exact ⟨fun ⟨_, absent⟩ => (nomatch absent), fun live => absurd live member⟩

theorem call_of_failed {c : Call} (failed : (a.call c).2 = .error error) : (a.call c).1 = a := by
  cases c with
  | allocate size =>
    simp only [call] at failed ⊢
    split at failed <;> rename_i answered
    · cases failed
    · rfl
  | free e =>
    simp only [call] at failed ⊢
    split at failed <;> rename_i answered
    · cases failed
    · rfl

/-- Every request is answered by the gaps between the live extents, and what is given back has to be
live as it stands. -/
structure AnswersByGaps (a : Allocator) (capacity : Nat) : Prop where
  used : a.used = (a.live.map Extent.size).sum ∧ a.used ≤ capacity
  allocates : ∀ size, (∃ e a', a.allocate size = .ok (e, a')) ↔
    0 < size ∧ ∃ x, Gap a.live capacity x ∧ size ≤ x.size
  best : ∀ size e a', a.allocate size = .ok (e, a') →
    ∃ x, BestFit a.live capacity size x ∧ e = ⟨x.offset, size⟩
  inside : ∀ size e a', a.allocate size = .ok (e, a') →
    e.stop ≤ capacity ∧ (∀ y ∈ a.live, y.Apart e) ∧ a'.live.Perm (e :: a.live)
  invalid : ∀ size, a.allocate size = .error (.invalidSize size) ↔ size = 0
  full : ∀ size, a.allocate size = .error (.full size (capacity - a.used)) ↔
    capacity - a.used < size
  fragmented : ∀ size, a.allocate size = .error (.fragmented size (capacity - a.used)) ↔
    0 < size ∧ size ≤ capacity - a.used ∧ ∀ x, Gap a.live capacity x → x.size < size
  frees : ∀ e, (∃ a', a.free e = .ok a') ↔ e ∈ a.live
  unknown : ∀ e, e ∉ a.live → a.free e = .error (.unknownPointer e)
  unchanged : ∀ c error, (a.call c).2 = .error error → (a.call c).1 = a

/-- After any calls a request gets the start of the best fit or the one error that names its
cause. -/
theorem answersByGaps_of_reachable (reached : Reachable capacity a) : a.AnswersByGaps capacity := by
  obtain ⟨p, same⟩ := reached.valid
  subst same
  exact
    { used := ⟨p.used_eq, p.used_le_capacity⟩
      allocates := fun _ => p.allocate_ok_iff
      best := fun _ _ _ => p.bestFit_of_allocated
      inside := fun _ _ _ => p.inside_of_allocated
      invalid := fun _ => p.allocate_invalid_iff
      full := fun _ => p.allocate_full_iff
      fragmented := fun _ => p.allocate_fragmented_iff
      frees := fun _ => free_ok_iff
      unknown := fun _ unknown => if_neg unknown
      unchanged := fun _ _ => call_of_failed }

/-- Three holes of two bytes: none of them holds three, and two bytes go into the lowest one. -/
theorem answersByGaps_of_holes :
    ∃ a, Reachable 10 a ∧ a.live = [⟨2, 2⟩, ⟨6, 2⟩] ∧
      a.allocate 3 = .error (.fragmented 3 6) ∧
      (a.allocate 2).map Prod.fst = .ok ⟨0, 2⟩ ∧ a.AnswersByGaps 10 := by
  have empty : Reachable 10 (.new 10) := .new
  have filled := (((empty.call (.allocate 2)).call (.allocate 2)).call (.allocate 2)).call
    (.allocate 2)
  have holes := (filled.call (.free ⟨0, 2⟩)).call (.free ⟨4, 2⟩)
  exact ⟨_, holes, by cbv, by cbv, by cbv, answersByGaps_of_reachable holes⟩

end BlockTier.L1.Allocator
