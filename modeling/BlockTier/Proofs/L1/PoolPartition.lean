import BlockTier.L1.Allocator
import Mathlib.Algebra.GroupWithZero.Nat
/-!
The pool as the allocator sees it: live extents and maximal free ones divide it without overlap.
While an extent changes hands it is loose, neither live nor free; each allocation and each release
passes through such states.
-/
namespace BlockTier

/-- No byte lies in both extents. -/
def Extent.Apart (a b : Extent) : Prop := a.stop ≤ b.offset ∨ b.stop ≤ a.offset

theorem Extent.Apart.symm {a b : Extent} (apart : a.Apart b) : b.Apart a := Or.symm apart

namespace L1

variable {precedes : Extent → Extent → Bool} {e : Extent} {l : List Extent}

theorem perm_insertExtent (precedes : Extent → Extent → Bool) (e : Extent) (l : List Extent) :
    (insertExtent precedes e l).Perm (e :: l) := by
  induction l with
  | nil => exact List.Perm.refl _
  | cons x rest ih =>
    simp only [insertExtent]
    split
    · exact List.Perm.refl _
    · exact (ih.cons x).trans (List.Perm.swap _ _ _)

theorem pairwise_insertExtent {R : Extent → Extent → Prop} (ordered : l.Pairwise R)
    (before : ∀ x ∈ l, precedes e x = true → R e x)
    (after : ∀ x ∈ l, precedes e x = false → R x e)
    (onward : ∀ x ∈ l, ∀ y ∈ l, R x y → precedes e x = true → precedes e y = true) :
    (insertExtent precedes e l).Pairwise R := by
  induction l with
  | nil => exact List.pairwise_singleton _ _
  | cons x rest ih =>
    obtain ⟨first, others⟩ := List.pairwise_cons.mp ordered
    simp only [insertExtent]
    by_cases h : precedes e x = true
    · rw [if_pos h]
      refine List.pairwise_cons.mpr ⟨fun y member => ?_, ordered⟩
      rcases List.mem_cons.mp member with rfl | member
      · exact before _ List.mem_cons_self h
      · have later :=
          onward x List.mem_cons_self y (List.mem_cons_of_mem _ member) (first y member) h
        exact before y (List.mem_cons_of_mem _ member) later
    · rw [if_neg h]
      have rest_ordered := ih others
        (fun y member => before y (List.mem_cons_of_mem _ member))
        (fun y member => after y (List.mem_cons_of_mem _ member))
        (fun y my z mz => onward y (List.mem_cons_of_mem _ my) z (List.mem_cons_of_mem _ mz))
      refine List.pairwise_cons.mpr ⟨fun y member => ?_, rest_ordered⟩
      rcases List.mem_cons.mp ((perm_insertExtent precedes e rest).mem_iff.mp member) with
        rfl | member
      · exact after x List.mem_cons_self (by simpa using h)
      · exact first y member

/-- Extents in order of offset keep the space between them when one goes in that leaves as much. -/
theorem pairwise_insert_startsBefore (gap : Nat)
    (ordered : l.Pairwise (fun x y => x.stop + gap ≤ y.offset)) (positive : 0 < e.size)
    (apart : ∀ x ∈ l, x.stop + gap ≤ e.offset ∨ e.stop + gap ≤ x.offset) :
    (insertExtent Extent.startsBefore e l).Pairwise (fun x y => x.stop + gap ≤ y.offset) := by
  apply pairwise_insertExtent ordered
  · intro x member before
    have := apart x member
    simp only [Extent.startsBefore, decide_eq_true_eq, Extent.stop] at *
    omega
  · intro x member after
    have := apart x member
    simp only [Extent.startsBefore, decide_eq_false_iff_not, Extent.stop] at *
    omega
  · intro x _ y _ order before
    simp only [Extent.startsBefore, decide_eq_true_eq, Extent.stop] at *
    omega

theorem pairwise_insert_fitsBefore (ordered : l.Pairwise (fun x y => x.fitsBefore y = true))
    (other : ∀ x ∈ l, x.offset ≠ e.offset) :
    (insertExtent Extent.fitsBefore e l).Pairwise (fun x y => x.fitsBefore y = true) := by
  apply pairwise_insertExtent ordered
  · exact fun _ _ before => before
  · intro x member after
    have := other x member
    simp only [Extent.fitsBefore, Bool.or_eq_false_iff, Bool.and_eq_false_iff,
      decide_eq_false_iff_not, Bool.or_eq_true, Bool.and_eq_true, decide_eq_true_eq] at *
    omega
  · intro x _ y _ order before
    simp only [Extent.fitsBefore, Bool.or_eq_true, Bool.and_eq_true, decide_eq_true_eq] at *
    omega

theorem mem_iff_of_mem (member : e ∈ l) (x : Extent) : x ∈ l ↔ x = e ∨ x ∈ l.erase e := by
  rw [(List.perm_cons_erase member).mem_iff, List.mem_cons]

theorem apart_of_mem_erase (apart : l.Pairwise Extent.Apart) (member : e ∈ l) {x : Extent}
    (other : x ∈ l.erase e) : e.Apart x := by
  have moved := (List.perm_cons_erase member).pairwise apart Extent.Apart.symm
  exact (List.pairwise_cons.mp moved).1 x other

theorem sum_size_le {bound : Nat} (apart : l.Pairwise (fun x y => x.stop ≤ y.offset))
    (inside : ∀ x ∈ l, x.stop ≤ bound) (start : Nat) (above : ∀ x ∈ l, start ≤ x.offset)
    (fits : start ≤ bound) : start + (l.map Extent.size).sum ≤ bound := by
  induction l generalizing start with
  | nil => exact fits
  | cons x rest ih =>
    obtain ⟨first, others⟩ := List.pairwise_cons.mp apart
    have here := inside x List.mem_cons_self
    have rest_fits := ih others (fun y member => inside y (List.mem_cons_of_mem _ member))
      x.stop first here
    have low := above x List.mem_cons_self
    simp only [Extent.stop, List.map_cons, List.sum_cons] at rest_fits ⊢
    omega

namespace Allocator

/-- The parts are nonempty extents that make up the whole pool. -/
structure Fills (part : Extent → Prop) (capacity : Nat) : Prop where
  nonempty : ∀ x, part x → 0 < x.size
  inside : ∀ x, part x → x.stop ≤ capacity
  covered : ∀ i < capacity, ∃ x, part x ∧ x.offset ≤ i ∧ i < x.stop

theorem Fills.congr {part other : Extent → Prop} {capacity : Nat} (fills : Fills part capacity)
    (same : ∀ x, other x ↔ part x) : Fills other capacity := by
  have equal : other = part := funext fun x => propext (same x)
  rw [equal]
  exact fills

/-- The extent is live, free or loose. -/
def HasPart (a : Allocator) (loose : Option Extent) (x : Extent) : Prop :=
  x ∈ a.live ∨ x ∈ a.byOffset ∨ x ∈ loose

/-- The live extents, the free ones and the loose one divide the pool; free extents never touch. -/
structure Partition (a : Allocator) (loose : Option Extent) : Prop where
  fills : Fills (a.HasPart loose) a.capacity
  live_apart : a.live.Pairwise (fun x y => x.stop ≤ y.offset)
  free_apart : a.byOffset.Pairwise (fun x y => x.stop < y.offset)
  separate : ∀ x ∈ a.live, ∀ y ∈ a.byOffset, x.Apart y
  loose_live : ∀ e ∈ loose, ∀ x ∈ a.live, e.Apart x
  loose_free : ∀ e ∈ loose, ∀ x ∈ a.byOffset, e.Apart x
  same_free : a.bySize.Perm a.byOffset
  bySize_sorted : a.bySize.Pairwise (fun x y => x.fitsBefore y = true)
  used_eq : a.used = (a.live.map Extent.size).sum

/-- What holds whenever no extent changes hands. -/
abbrev Valid (a : Allocator) : Prop := a.Partition none

namespace Partition

variable {a : Allocator} {loose : Option Extent}

theorem live_pairwise (p : a.Partition loose) : a.live.Pairwise Extent.Apart :=
  p.live_apart.imp Or.inl

theorem free_pairwise (p : a.Partition loose) : a.byOffset.Pairwise Extent.Apart :=
  p.free_apart.imp (fun before => Or.inl (Nat.le_of_lt before))

theorem free_gap (p : a.Partition loose) {f x : Extent} (member : f ∈ a.byOffset)
    (other : x ∈ a.byOffset.erase f) : x.stop ≠ f.offset ∧ f.stop ≠ x.offset := by
  have gaps : a.byOffset.Pairwise (fun y z => z.stop ≠ y.offset ∧ y.stop ≠ z.offset) := by
    refine p.free_apart.imp_of_mem (fun {y z} _ mz before => ?_)
    have := p.fills.nonempty z (Or.inr (Or.inl mz))
    simp only [Extent.stop] at before ⊢
    omega
  have moved := (List.perm_cons_erase member).pairwise gaps And.symm
  exact (List.pairwise_cons.mp moved).1 x other

theorem live_nodup (p : a.Partition loose) : a.live.Nodup := by
  refine p.live_apart.imp_of_mem (fun {x y} mx _ before => ?_)
  have positive := p.fills.nonempty x (Or.inl mx)
  simp only [Extent.stop] at before
  intro same
  subst same
  omega

theorem used_le_capacity (p : a.Partition loose) : a.used ≤ a.capacity := by
  have bound := sum_size_le p.live_apart (fun x member => p.fills.inside x (Or.inl member)) 0
    (fun _ _ => Nat.zero_le _) (Nat.zero_le _)
  rw [p.used_eq]
  omega

end Partition

end Allocator

end L1

end BlockTier
