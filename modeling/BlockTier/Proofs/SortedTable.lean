import BlockTier.Table
import Mathlib.Data.List.Induction
/-!
Tables in increasing key order: what is found for a key is the one entry with it, and entering or
erasing a key moves no other entry.
-/
namespace BlockTier.Table

variable {β : Type}

def Sorted (t : Table β) : Prop := t.Pairwise (fun a b => a.1 < b.1)

theorem lt_of_not_lt {a k : String} (different : k ≠ a) (above : ¬ k < a) : a < k := by
  have below : a ≤ k := String.not_lt.mp above
  apply String.not_le.mp
  intro same
  exact different (String.le_antisymm same below)

theorem erase_cons_self (k : String) (v : β) (rest : Table β) :
    erase ((k, v) :: rest) k = rest.erase k := by
  simp [erase]

theorem erase_cons_ne {k a : String} (v : β) (rest : Table β) (different : k ≠ a) :
    erase ((a, v) :: rest) k = (a, v) :: rest.erase k := by
  simp [erase, different.symm]

theorem erase_above {k : String} {t : Table β} (above : ∀ e ∈ t, k < e.1) : t.erase k = t := by
  apply List.filter_eq_self.mpr
  intro e member
  have := String.ne_of_lt (above e member)
  simpa using this.symm

theorem erase_of_absent {k : String} {t : Table β} (absent : t.find? k = none) :
    t.erase k = t := by
  induction t with
  | nil => rfl
  | cons e rest ih =>
    obtain ⟨a, v⟩ := e
    simp only [find?] at absent
    split at absent
    · cases absent
    · rename_i different
      rw [erase_cons_ne v rest different, ih absent]

theorem find?_map (t : Table β) (f : β → β) (k : String) :
    find? (t.map (fun e => (e.1, f e.2))) k = (t.find? k).map f := by
  induction t with
  | nil => rfl
  | cons e rest ih =>
    obtain ⟨a, v⟩ := e
    simp only [List.map_cons, find?]
    split
    · rfl
    · exact ih

theorem Sorted.map {t : Table β} (sorted : Sorted t) (f : β → β) :
    Sorted (t.map (fun e => (e.1, f e.2))) :=
  List.pairwise_map.mpr sorted

theorem Sorted.erase {t : Table β} (sorted : Sorted t) (k : String) : Sorted (t.erase k) :=
  List.Pairwise.filter _ sorted

theorem mem_insert {t : Table β} {k : String} {v : β} {e : String × β}
    (member : e ∈ t.insert k v) : e = (k, v) ∨ e ∈ t := by
  induction t with
  | nil => exact Or.inl (List.mem_singleton.mp member)
  | cons first rest ih =>
    obtain ⟨a, w⟩ := first
    simp only [insert] at member
    split at member
    · rcases List.mem_cons.mp member with rfl | member
      · exact Or.inl rfl
      · exact Or.inr (List.mem_cons_of_mem _ member)
    · split at member
      · rcases List.mem_cons.mp member with rfl | member
        · exact Or.inl rfl
        · exact Or.inr member
      · rcases List.mem_cons.mp member with rfl | member
        · exact Or.inr List.mem_cons_self
        · rcases ih member with same | member
          · exact Or.inl same
          · exact Or.inr (List.mem_cons_of_mem _ member)

theorem Sorted.insert {t : Table β} (sorted : Sorted t) (k : String) (v : β) :
    Sorted (t.insert k v) := by
  induction t with
  | nil => exact List.pairwise_singleton _ _
  | cons first rest ih =>
    obtain ⟨a, w⟩ := first
    obtain ⟨above, ordered⟩ := List.pairwise_cons.mp sorted
    simp only [Table.insert]
    split
    · rename_i same
      subst same
      exact List.pairwise_cons.mpr ⟨above, ordered⟩
    · split
      · rename_i before
        refine List.pairwise_cons.mpr ⟨fun e member => ?_, sorted⟩
        rcases List.mem_cons.mp member with rfl | member
        · exact before
        · exact String.lt_trans before (above e member)
      · rename_i different after
        refine List.pairwise_cons.mpr ⟨fun e member => ?_, ih ordered⟩
        rcases mem_insert member with rfl | member
        · exact lt_of_not_lt different after
        · exact above e member

theorem Sorted.perm_insert {t : Table β} (sorted : Sorted t) (k : String) (v : β) :
    (t.insert k v).Perm ((k, v) :: t.erase k) := by
  induction t with
  | nil => exact List.Perm.refl _
  | cons first rest ih =>
    obtain ⟨a, w⟩ := first
    obtain ⟨above, ordered⟩ := List.pairwise_cons.mp sorted
    simp only [Table.insert]
    split
    · rename_i same
      subst same
      rw [erase_cons_self, erase_above above]
    · rename_i different
      rw [erase_cons_ne w rest different]
      split
      · rename_i before
        rw [erase_above (fun e member => String.lt_trans before (above e member))]
      · exact ((ih ordered).cons _).trans (List.Perm.swap _ _ _)

theorem Sorted.perm_erase {t : Table β} (sorted : Sorted t) {k : String} {v : β}
    (found : t.find? k = some v) : t.Perm ((k, v) :: t.erase k) := by
  induction t with
  | nil => cases found
  | cons first rest ih =>
    obtain ⟨a, w⟩ := first
    obtain ⟨above, ordered⟩ := List.pairwise_cons.mp sorted
    simp only [find?] at found
    split at found
    · rename_i same
      subst same
      cases found
      rw [erase_cons_self, erase_above above]
    · rename_i different
      rw [erase_cons_ne w rest different]
      exact ((ih ordered found).cons _).trans (List.Perm.swap _ _ _)

theorem Sorted.find?_eq_some_iff {t : Table β} (sorted : Sorted t) {k : String} {v : β} :
    t.find? k = some v ↔ (k, v) ∈ t := by
  constructor
  · intro found
    exact (sorted.perm_erase found).mem_iff.mpr List.mem_cons_self
  · intro member
    induction t with
    | nil => cases member
    | cons first rest ih =>
      obtain ⟨a, w⟩ := first
      simp only [find?]
      rcases List.mem_cons.mp member with same | member
      · cases same
        simp
      · obtain ⟨above, ordered⟩ := List.pairwise_cons.mp sorted
        rw [if_neg (String.ne_of_lt (above _ member)).symm, ih ordered member]

/-- Entries with keys of their own are all kept. -/
theorem Sorted.foldl_insert {t : Table β} (sorted : Sorted t) {entries : List (String × β)}
    (once : (entries.map Prod.fst).Nodup) (absent : ∀ e ∈ entries, t.find? e.1 = none) :
    (entries.foldl (fun t e => Table.insert t e.1 e.2) t).Perm (entries ++ t) := by
  induction entries generalizing t with
  | nil => exact List.Perm.refl _
  | cons e rest ih =>
    obtain ⟨fresh, once⟩ := List.nodup_cons.mp once
    have entered := sorted.perm_insert e.1 e.2
    rw [erase_of_absent (absent e List.mem_cons_self)] at entered
    have later := ih (sorted.insert e.1 e.2) once (fun x member => ?_)
    · exact later.trans ((entered.append_left rest).trans List.perm_middle)
    · have other : x.1 ≠ e.1 := fun same => fresh (same ▸ List.mem_map_of_mem member)
      rw [find?_insert, if_neg other]
      exact absent x (List.mem_cons_of_mem _ member)

theorem sorted_ofList (entries : List (String × β)) : Sorted (ofList entries) := by
  have kept (t : Table β) (sorted : Sorted t) :
      Sorted (entries.foldl (fun t e => insert t e.1 e.2) t) := by
    induction entries generalizing t with
    | nil => exact sorted
    | cons e rest ih => exact ih _ (sorted.insert e.1 e.2)
  exact kept [] List.Pairwise.nil

theorem perm_ofList {entries : List (String × β)} (once : (entries.map Prod.fst).Nodup) :
    (ofList entries).Perm entries := by
  have kept := Sorted.foldl_insert (t := []) List.Pairwise.nil once (fun _ _ => rfl)
  rwa [List.append_nil] at kept

theorem ofList_concat (entries : List (String × β)) (e : String × β) :
    ofList (entries ++ [e]) = (ofList entries).insert e.1 e.2 := by
  rw [ofList, List.foldl_append]
  rfl

/-- Of several entries for a key the last one counts. -/
theorem find?_ofList (entries : List (String × β)) (k : String) :
    (ofList entries).find? k = (entries.filter (fun e => e.1 = k)).getLast?.map Prod.snd := by
  induction entries using List.reverseRecOn with
  | nil => rfl
  | append_singleton entries e ih =>
    rw [ofList_concat, find?_insert, List.filter_append]
    by_cases same : e.1 = k
    · rw [if_pos same.symm, List.filter_cons_of_pos (by simpa using same), List.filter_nil,
        List.getLast?_concat, Option.map_some]
    · rw [if_neg (Ne.symm same), ih, List.filter_cons_of_neg (by simpa using same),
        List.filter_nil, List.append_nil]

end BlockTier.Table
