import BlockTier.Proofs.L1.Turns
/-!
Whom a turn is about. It is always the oldest key; the key of the put itself is made the latest
when it comes first, and goes only when it is the last one left.
-/
namespace BlockTier.L1.Cache

variable {c c' : Cache} {size : Nat} {pinned : Option String} {bumped : Bool} {key : String}
  {reserved : Option Extent}

/-- The turns are taken from the cache one after the other, for a put of the pinned key or for
none. -/
inductive Makes (pinned : Option String) : Cache → List Turn → Prop
  | done (c : Cache) : Makes pinned c []
  | evict {c : Cache} {oldest : Tracked} {rest : Recency} {ts : List Turn}
    (order : c.recency = oldest :: rest) (alone : pinned = some oldest.key → rest = [])
    (next : Makes pinned (c.turn (.evict oldest.key)) ts) :
    Makes pinned c (.evict oldest.key :: ts)
  | bump {c : Cache} {oldest : Tracked} {rest : Recency} {ts : List Turn}
    (order : c.recency = oldest :: rest) (pin : pinned = some oldest.key)
    (next : Makes pinned (c.turn .bump) ts) : Makes pinned c (.bump :: ts)

theorem Makes.append {ts ts' : List Turn} (first : Makes pinned c ts)
    (second : Makes pinned (c.after ts) ts') : Makes pinned c (ts ++ ts') := by
  induction first with
  | done => exact second
  | evict order alone next ih => exact .evict order alone (ih second)
  | bump order pin next ih => exact .bump order pin (ih second)

/-- The turns up to one of them, and what that one finds. -/
theorem Makes.evicted {before later : List Turn} {victim : String}
    (makes : Makes pinned c (before ++ .evict victim :: later)) :
    Makes pinned c before ∧ ∃ oldest rest, (c.after before).recency = oldest :: rest ∧
      oldest.key = victim ∧ (pinned = some victim → rest = []) := by
  induction before generalizing c with
  | nil =>
    cases makes with
    | evict order alone next => exact ⟨.done c, _, _, order, rfl, alone⟩
  | cons t before ih =>
    cases makes with
    | evict order alone next =>
      obtain ⟨first, found⟩ := ih next
      exact ⟨.evict order alone first, found⟩
    | bump order pin next =>
      obtain ⟨first, found⟩ := ih next
      exact ⟨.bump order pin first, found⟩

/-! ### The keys in their order -/

theorem Consistent.recency_keys (h : c.Consistent reserved) :
    (c.recency.map (·.key)).Perm (c.entries.map Prod.fst) := by
  have keys := h.tracked.map (·.key)
  rwa [List.map_map] at keys

theorem Consistent.recency_nodup (h : c.Consistent reserved) : (c.recency.map (·.key)).Nodup :=
  h.recency_keys.nodup_iff.mpr h.keys_nodup

/-- Tracked are the resident keys. -/
theorem Consistent.tracked_iff (h : c.Consistent reserved) :
    (∃ t ∈ c.recency, t.key = key) ↔ (c.find? key).isSome := by
  rw [← List.mem_map, h.recency_keys.mem_iff, Option.isSome_iff_exists]
  constructor
  · intro member
    obtain ⟨⟨k, e⟩, entry, rfl⟩ := List.mem_map.mp member
    exact ⟨e, h.mem_entries_iff.mpr entry⟩
  · intro found
    obtain ⟨e, found⟩ := found
    exact List.mem_map_of_mem (h.mem_entries_iff.mp found)

theorem Consistent.tracked_of_find? (h : c.Consistent reserved) (found : c.find? key = some e) :
    ∃ t ∈ c.recency, t.key = key :=
  h.tracked_iff.mpr (Option.isSome_of_eq_some found)

theorem turn_evict (c : Cache) (key : String) :
    (c.turn (.evict key)).recency = c.recency.remove key := recency_evict c key

theorem find?_evict_other {k : String} (other : key ≠ k) :
    (c.evict k).1.find? key = c.find? key := by
  unfold evict
  split
  · rfl
  · simp only [find?, Table.find?_erase, other, ↓reduceIte]

/-- A resident key is behind the one that a turn evicts. -/
theorem Makes.behind {before later : List Turn} {victim : String}
    (makes : Makes pinned c (before ++ .evict victim :: later)) (h : c.Consistent reserved)
    (resident : ((c.after before).find? key).isSome) (other : key ≠ victim) :
    Makes pinned c before ∧ ∃ oldest rest x, (c.after before).recency = oldest :: rest ∧
      x ∈ rest ∧ oldest.key = victim ∧ x.key = key ∧ pinned ≠ some victim := by
  obtain ⟨first, oldest, rest, order, victim_eq, alone⟩ := makes.evicted
  obtain ⟨x, member, key_eq⟩ := (h.after before).tracked_iff.mpr resident
  rw [order] at member
  rcases List.mem_cons.mp member with rfl | behind
  · exact absurd (key_eq.symm.trans victim_eq) other
  · refine ⟨first, oldest, rest, x, order, behind, victim_eq, key_eq, fun pin => ?_⟩
    rw [alone pin] at behind
    cases behind

/-- No key comes after this one. -/
def Latest (key : String) (r : Recency) : Prop := r.Pairwise fun t _ => t.key ≠ key

theorem latest_append {r : Recency} {t : Tracked} (others : ∀ x ∈ r, x.key ≠ t.key) :
    Latest t.key (r ++ [t]) := by
  apply List.pairwise_append.mpr
  exact ⟨List.pairwise_of_forall_mem_list fun x member _ _ => others x member,
    List.pairwise_singleton _ _, fun x member _ _ => others x member⟩

theorem Latest.eq_nil {oldest : Tracked} {rest : Recency}
    (latest : Latest oldest.key (oldest :: rest)) : rest = [] := by
  cases rest with
  | nil => rfl
  | cons x rest => exact absurd rfl ((List.pairwise_cons.mp latest).1 x List.mem_cons_self)

theorem Consistent.latest_bump (h : c.Consistent reserved) {oldest : Tracked} {rest : Recency}
    (order : c.recency = oldest :: rest) : Latest oldest.key (c.turn .bump).recency := by
  have nodup := h.recency_nodup
  rw [order, List.map_cons, List.nodup_cons] at nodup
  rw [turn_bump order]
  apply latest_append
  intro x member same
  exact nodup.1 (same ▸ List.mem_map_of_mem member)

theorem Latest.evict {k : String} (latest : Latest key c.recency) :
    Latest key (c.turn (.evict k)).recency := by
  rw [turn_evict]
  exact latest.sublist List.filter_sublist

theorem makes_turns (c : Cache) (size : Nat) (pinned : Option String) (bumped : Bool) :
    Makes pinned c (c.turns size pinned bumped) := by
  fun_induction acquireEvicting c size pinned bumped 0 with
  | case1 c bumped evicted e allocator allocated =>
    rw [turns, allocated]
    exact .done c
  | case2 c bumped evicted cause failed other =>
    rw [turns, failed]
    simp only [other, ↓reduceIte]
    exact .done c
  | case3 c bumped evicted cause failed full order =>
    rw [turns_of_untracked order]
    exact .done c
  | case4 c evicted cause failed full oldest rest order pin =>
    rw [turns_of_failed failed (by simpa using full) order, if_pos pin, if_pos rfl]
    exact .done c
  | case5 c bumped evicted cause failed full oldest rest order pin first ih =>
    rw [turns_of_failed failed (by simpa using full) order, if_pos pin, if_neg first]
    rw [← turn_bump order] at ih ⊢
    exact .bump order pin ih
  | case6 c bumped evicted cause failed full oldest rest order other ih =>
    rw [turns_of_failed failed (by simpa using full) order, if_neg other]
    exact .evict order (fun pin => absurd pin other) ih

theorem makes_turnsToAcquire (c : Cache) (size : Nat) (pinned : Option String) :
    Makes pinned c (c.turnsToAcquire size pinned) := by
  unfold turnsToAcquire
  split
  · exact .done c
  · exact makes_turns c size pinned false

theorem Makes.of_untracked {ts : List Turn} (makes : Makes none c ts)
    (untracked : ∀ t ∈ c.recency, t.key ≠ key) : Makes (some key) c ts := by
  induction makes with
  | done c => exact .done c
  | evict order alone next ih =>
    rename_i c oldest rest ts
    apply Makes.evict order
    · intro pin
      have other := untracked oldest (order ▸ List.mem_cons_self)
      cases pin
      exact absurd rfl other
    · apply ih
      intro t member
      rw [turn_evict] at member
      exact untracked t (List.mem_filter.mp member).1
  | bump order pin next ih => cases pin

/-- When a put of a resident key is refused for want of space, that key is the only one left. -/
theorem alone_of_refused (h : c.Consistent none) (bumped : Bool) (evicted : Nat)
    (tracked : ∃ t ∈ c.recency, t.key = key) (latest : bumped = true → Latest key c.recency)
    {refusal : Refusal} (full : refusal.isCapacity = true)
    (refused : (c.acquireEvicting size (some key) bumped evicted).2 = .error refusal) :
    ∃ t, (c.acquireEvicting size (some key) bumped evicted).1.recency = [t] ∧ t.key = key := by
  generalize pin : some key = pinned at refused ⊢
  fun_induction acquireEvicting c size pinned bumped evicted with
  | case1 => cases refused
  | case2 c bumped evicted cause failed other =>
    cases refused
    cases full
  | case3 c bumped evicted cause failed other order =>
    obtain ⟨t, member, _⟩ := tracked
    rw [order] at member
    cases member
  | case4 c evicted cause failed other oldest rest order pin' =>
    cases pin.trans pin'
    have last := latest rfl
    rw [order] at last
    exact ⟨oldest, by rw [order, last.eq_nil], rfl⟩
  | case5 c bumped evicted cause failed other oldest rest order pin' first ih =>
    cases pin.trans pin'
    have moved : c.turn .bump = { c with recency := rest ++ [oldest] } := turn_bump order
    rw [← moved] at ih refused ⊢
    apply ih (h.turn .bump) _ (fun _ => h.latest_bump order) refused
    exact ⟨oldest, by rw [moved]; exact List.mem_append_right _ List.mem_cons_self, rfl⟩
  | case6 c bumped evicted cause failed other oldest rest order other' ih =>
    obtain ⟨t, member, same⟩ := tracked
    apply ih (h.evict _) _ (fun again => (latest again).evict) refused
    have kept : t.key ≠ oldest.key := by
      intro oldest_key
      rw [← same, oldest_key] at pin
      exact other' pin.symm
    refine ⟨t, ?_, same⟩
    rw [recency_evict]
    exact List.mem_filter.mpr ⟨member, by simpa using kept⟩

theorem alone_of_acquire (h : c.Consistent none) (resident : (c.find? key).isSome)
    {refusal : Refusal} (full : refusal.isCapacity = true)
    (tried : c.acquire size (some key) = (c', .error refusal))
    (fits : size ≤ c'.allocator.capacity) : ∃ t, c'.recency = [t] ∧ t.key = key := by
  unfold acquire at tried
  split at tried
  · cases tried
    cases full
  · split at tried
    · cases tried
      omega
    · have alone := alone_of_refused h false 0 (h.tracked_iff.mpr resident)
        (fun again => nomatch again) full (congrArg Prod.snd tried)
      rwa [tried] at alone

/-- The turns of a put that has to copy. The old copy goes when nothing else is left. -/
theorem makes_turnsFor (h : c.Consistent none) (key : String) (size : Nat) :
    Makes (some key) c (c.turnsFor key size) := by
  unfold turnsFor
  cases found : c.find? key with
  | none =>
    apply (makes_turnsToAcquire c size none).of_untracked
    intro t member same
    have resident := h.tracked_iff.mp ⟨t, member, same⟩
    rw [found] at resident
    cases resident
  | some old =>
    have first := makes_turnsToAcquire c size (some key)
    have taken := taken_acquire c size (some key)
    dsimp only
    cases tried : c.acquire size (some key) with
    | mk c' out =>
      rw [tried] at taken
      cases out with
      | ok got => exact first
      | error refusal =>
        have left : c' = c.after (c.turnsToAcquire size (some key)) := taken.eq_of_refused rfl
        dsimp only
        split
        · rename_i both
          rw [Bool.and_eq_true, decide_eq_true_eq] at both
          obtain ⟨t, alone, same⟩ :=
            alone_of_acquire h (Option.isSome_of_eq_some found) both.1 tried both.2
          subst left same
          apply first.append
          apply Makes.evict alone (fun _ => rfl)
          apply (makes_turnsToAcquire _ size none).of_untracked
          intro x member
          rw [turn_evict] at member
          simpa using (List.mem_filter.mp member).2
        · exact first

theorem makes_turnsToPut (h : c.Consistent none) (key : String) (size : Nat) :
    Makes (some key) c (c.turnsToPut key size) := by
  unfold turnsToPut
  split
  · exact .done c
  · exact makes_turnsFor h key size

theorem makes_turnsUntil (c : Cache) (needed : Nat) : Makes none c (c.turnsUntil needed) := by
  fun_induction evictUntil c needed 0 with
  | case1 c evicted enough =>
    rw [turnsUntil, if_pos enough]
    exact .done c
  | case2 c evicted scarce order =>
    rw [turnsUntil_of_untracked order]
    exact .done c
  | case3 c evicted scarce oldest rest order ih =>
    rw [turnsUntil_of_scarce scarce order]
    exact .evict order (fun pin => by cases pin) ih

theorem makes_turnsToMakeRoom (c : Cache) (needed : Nat) :
    Makes none c (c.turnsToMakeRoom needed) := by
  unfold turnsToMakeRoom
  split
  · exact .done c
  · exact makes_turnsUntil c needed

/-! ### What the turns leave of the order -/

theorem remove_bump {oldest : Tracked} {rest : Recency} (order : c.recency = oldest :: rest) :
    (c.turn .bump).recency.remove oldest.key = c.recency.remove oldest.key := by
  rw [turn_bump order, order]
  simp [Recency.remove]

/-- The other keys stay in their order. -/
theorem Makes.remove_sublist {ts : List Turn} (makes : Makes (some key) c ts) :
    ((c.after ts).recency.remove key).Sublist (c.recency.remove key) := by
  induction makes with
  | done c => exact List.Sublist.refl _
  | evict order alone next ih =>
    rw [turn_evict] at ih
    exact ih.trans (List.filter_sublist.filter _)
  | bump order pin next ih =>
    cases pin
    rw [remove_bump order] at ih
    exact ih

theorem Makes.sublist {ts : List Turn} (makes : Makes pinned c ts) (unbumped : Turn.bump ∉ ts) :
    (c.after ts).recency.Sublist c.recency := by
  induction makes with
  | done c => exact List.Sublist.refl _
  | evict order alone next ih =>
    have kept := ih (fun later => unbumped (List.mem_cons_of_mem _ later))
    rw [turn_evict] at kept
    exact kept.trans List.filter_sublist
  | bump order pin next ih => exact absurd List.mem_cons_self unbumped

theorem Makes.unbumped {ts : List Turn} (makes : Makes none c ts) : Turn.bump ∉ ts := by
  generalize pin : none = pinned at makes
  induction makes with
  | done => exact List.not_mem_nil
  | evict order alone next ih =>
    intro member
    cases member with
    | tail _ later => exact ih later
  | bump order pin' next ih => cases pin.trans pin'

/-- A put that has had its turn as the oldest is the latest. -/
theorem Makes.latest {ts : List Turn} (makes : Makes (some key) c ts) (h : c.Consistent reserved)
    (bumped : Latest key c.recency ∨ Turn.bump ∈ ts) : Latest key (c.after ts).recency := by
  induction makes with
  | done c =>
    rcases bumped with latest | absent
    · exact latest
    · cases absent
  | evict order alone next ih =>
    apply ih (h.turn _)
    rcases bumped with latest | member
    · exact Or.inl latest.evict
    · cases member with
      | tail _ later => exact Or.inr later
  | bump order pin next ih =>
    cases pin
    exact ih (h.turn _) (Or.inl (h.latest_bump order))

/-- A key that the turns unmap is evicted by one of them. -/
theorem evict_mem_of_unmapped {ts : List Turn} (resident : (c.find? key).isSome)
    (gone : (c.after ts).find? key = none) : Turn.evict key ∈ ts := by
  induction ts generalizing c with
  | nil =>
    rw [after, List.foldl_nil] at gone
    rw [gone] at resident
    cases resident
  | cons t ts ih =>
    by_cases here : t = .evict key
    · exact here ▸ List.mem_cons_self
    · apply List.mem_cons_of_mem
      apply ih _ gone
      cases t with
      | evict k =>
        have other : key ≠ k := fun same => here (same ▸ rfl)
        rw [turn, find?_evict_other other]
        exact resident
      | bump => exact resident

end BlockTier.L1.Cache
