import BlockTier.Bytes
/-!
What a written range of bytes reads back as, and what it leaves of the rest.
-/
namespace BlockTier.Bytes

variable {region result data : Bytes} {start first len : Nat}

theorem slice?_eq_some_iff : region.slice? start len = some data ↔
    data.length = len ∧ start + len ≤ region.length ∧
      ∀ i < len, region[start + i]? = data[i]? := by
  constructor
  · intro read
    have length := length_slice? read
    unfold slice? at read
    split at read
    · rename_i inside
      cases read
      refine ⟨length, inside, fun i below => ?_⟩
      rw [List.getElem?_take_of_lt below, List.getElem?_drop]
    · cases read
  · rintro ⟨length, inside, bytes⟩
    rw [slice?, if_pos inside]
    congr 1
    apply List.ext_getElem?
    intro i
    by_cases below : i < len
    · rw [List.getElem?_take_of_lt below, List.getElem?_drop, bytes i below]
    · rw [List.getElem?_eq_none (by simp only [List.length_take]; omega),
        List.getElem?_eq_none (by omega)]

theorem getElem?_splice? (written : region.splice? start data = some result) (i : Nat) :
    result[i]? = if start ≤ i ∧ i < start + data.length then data[i - start]? else region[i]? := by
  unfold splice? at written
  split at written
  · rename_i inside
    cases written
    have head : (region.take start).length = start := by
      rw [List.length_take]
      omega
    by_cases low : i < start
    · rw [if_neg (by omega), List.getElem?_append_left (by rw [List.length_append]; omega),
        List.getElem?_append_left (by omega), List.getElem?_take_of_lt low]
    · by_cases high : i < start + data.length
      · rw [if_pos ⟨by omega, high⟩,
          List.getElem?_append_left (by rw [List.length_append]; omega),
          List.getElem?_append_right (by omega), head]
      · rw [if_neg (by omega), List.getElem?_append_right (by rw [List.length_append]; omega),
          List.length_append, head, List.getElem?_drop]
        congr 1
        omega
  · cases written

theorem splice?_isSome (inside : start + data.length ≤ region.length) :
    ∃ result, region.splice? start data = some result := by
  rw [splice?, if_pos inside]
  exact ⟨_, rfl⟩

theorem inside_of_splice? (written : region.splice? start data = some result) :
    start + data.length ≤ region.length := by
  unfold splice? at written
  split at written
  · assumption
  · cases written

theorem slice?_splice? (written : region.splice? start data = some result) :
    result.slice? start data.length = some data := by
  rw [slice?_eq_some_iff]
  refine ⟨rfl, ?_, fun i below => ?_⟩
  · rw [length_splice? written]
    exact inside_of_splice? written
  · rw [getElem?_splice? written, if_pos (by omega)]
    congr 1
    omega

theorem slice?_splice?_append (written : region.splice? start data = some result) (more : Nat) :
    result.slice? start (data.length + more) =
      (region.slice? (start + data.length) more).map (data ++ ·) := by
  have length := length_splice? written
  unfold splice? at written
  split at written
  · rename_i inside
    cases written
    have head : (region.take start).length = start := by
      rw [List.length_take]
      omega
    unfold slice?
    rw [length, ← Nat.add_assoc]
    by_cases fits : start + data.length + more ≤ region.length
    · rw [if_pos fits, if_pos fits, Option.map_some, List.append_assoc, List.drop_left' head,
        List.take_length_add_append]
    · rw [if_neg fits, if_neg fits, Option.map_none]
  · cases written

theorem slice?_splice?_apart (written : region.splice? start data = some result)
    (apart : start + data.length ≤ first ∨ first + len ≤ start) :
    result.slice? first len = region.slice? first len := by
  have same (i : Nat) (below : i < len) : result[first + i]? = region[first + i]? := by
    rw [getElem?_splice? written, if_neg (by omega)]
  have length := length_splice? written
  apply Option.ext
  intro read
  rw [slice?_eq_some_iff, slice?_eq_some_iff, length]
  constructor
  · rintro ⟨size, inside, bytes⟩
    exact ⟨size, inside, fun i below => (same i below).symm.trans (bytes i below)⟩
  · rintro ⟨size, inside, bytes⟩
    exact ⟨size, inside, fun i below => (same i below).trans (bytes i below)⟩

end BlockTier.Bytes
