import BlockTier.Proofs.Texts
import BlockTier.Url.Percent
/-!
What percent-encoded bytes stand for. Decoding reads every spelling of a text, and encoding gives
one of them.
-/
namespace BlockTier.Url

/-- A percent sign with two digits stands for a byte, and any other byte for itself. -/
inductive Spells : Bytes → Bytes → Prop
  | nil : Spells [] []
  | plain {b : UInt8} {encoded text : Bytes} (other : b ≠ 0x25) (rest : Spells encoded text) :
    Spells (b :: encoded) (b :: text)
  | escaped {x y : UInt8} {h l : Nat} {encoded text : Bytes} (high : Hex.digit? x = some h)
    (low : Hex.digit? y = some l) (rest : Spells encoded text) :
    Spells (0x25 :: x :: y :: encoded) (UInt8.ofNat (16 * h + l) :: text)

variable {encoded text : Bytes}

theorem Spells.go (spells : Spells encoded text) (acc : Bytes) :
    decode.go encoded acc = acc.reverse ++ text := by
  induction spells generalizing acc with
  | nil => rw [decode.go, List.append_nil]
  | plain other rest ih =>
    rw [decode.go, ih, List.reverse_cons, List.append_assoc, List.singleton_append]
    exact fun _ _ _ same => absurd same other
  | escaped high low rest ih =>
    rw [decode.go, high, low]
    dsimp only
    rw [ih, List.reverse_cons, List.append_assoc, List.singleton_append]

theorem Spells.decode (spells : Spells encoded text) : decode encoded = text :=
  spells.go []

theorem Spells.append {encoded' text' : Bytes} (spells : Spells encoded text)
    (more : Spells encoded' text') : Spells (encoded ++ encoded') (text ++ text') := by
  induction spells with
  | nil => exact more
  | plain other rest ih => exact .plain other ih
  | escaped high low rest ih => exact .escaped high low ih

theorem digit?_upperDigit {n : Nat} (small : n < 16) : Hex.digit? (upperDigit n) = some n := by
  decide +revert

theorem spells_encodeByte {mustEncode : UInt8 → Bool} (percent : mustEncode 0x25 = true)
    (b : UInt8) : Spells (encodeByte mustEncode b) [b] := by
  unfold encodeByte
  split
  · have bound := b.toNat_lt
    have high := digit?_upperDigit (n := b.toNat / 16) (by omega)
    have low := digit?_upperDigit (n := b.toNat % 16) (by omega)
    have whole : UInt8.ofNat (16 * (b.toNat / 16) + b.toNat % 16) = b := by
      rw [Nat.div_add_mod]
      exact UInt8.ofNat_toNat
    have spells := Spells.escaped high low .nil
    rwa [whole] at spells
  · rename_i plain
    have other : b ≠ 0x25 := by
      intro same
      exact plain (same ▸ percent)
    exact .plain other .nil

theorem spells_encodeBytes {mustEncode : UInt8 → Bool} (percent : mustEncode 0x25 = true)
    (b : Bytes) : Spells (encodeBytes mustEncode b) b := by
  induction b with
  | nil => exact .nil
  | cons first rest ih => exact (spells_encodeByte percent first).append ih

/-! ### The characters of an encoded segment -/

theorem upperDigit_plain {n : Nat} (small : n < 16) : inSegment (upperDigit n) = false := by
  decide +revert

theorem mem_encodeBytes {b : Bytes} {x : UInt8} (member : x ∈ encodeBytes inSegment b) :
    x = 0x25 ∨ inSegment x = false := by
  obtain ⟨first, _, member⟩ := List.mem_flatMap.mp member
  unfold encodeByte at member
  split at member
  · have bound := first.toNat_lt
    simp only [List.mem_cons, List.not_mem_nil, or_false] at member
    rcases member with rfl | rfl | rfl
    · exact Or.inl rfl
    · exact Or.inr (upperDigit_plain (by omega))
    · exact Or.inr (upperDigit_plain (by omega))
  · rename_i plain
    rw [List.mem_singleton.mp member]
    exact Or.inr (by simpa using plain)

theorem toNat_lt_of_mem_encodeBytes {b : Bytes} {x : UInt8}
    (member : x ∈ encodeBytes inSegment b) : x.toNat < 0x80 := by
  rcases mem_encodeBytes member with rfl | plain
  · decide
  · simp only [inSegment, inPath, inFragment, isControl, Bool.or_eq_false_iff,
      decide_eq_false_iff_not, UInt8.not_lt] at plain
    have bound : x.toNat ≤ 0x7e := plain.1.1.1.2
    omega

theorem toNat_ofNat {n : Nat} (small : n < 0x80) : (Char.ofNat n).toNat = n := by
  decide +revert

theorem ofString_encode (cs : List Char) :
    Bytes.ofString (String.ofList (encode inSegment cs)) =
      encodeBytes inSegment (Bytes.ofString (String.ofList cs)) := by
  rw [Bytes.ofString_ofList, encode, List.flatMap_map]
  have bytes (b : Bytes) (small : ∀ x ∈ b, x.toNat < 0x80) :
      b.flatMap (fun x => String.utf8EncodeChar (Char.ofNat x.toNat)) = b := by
    induction b with
    | nil => rfl
    | cons x rest ih =>
      rw [List.flatMap_cons, utf8EncodeChar_ofNat (small x List.mem_cons_self),
        UInt8.ofNat_toNat, ih fun y member => small y (List.mem_cons_of_mem _ member)]
      rfl
  exact bytes _ fun x member => toNat_lt_of_mem_encodeBytes member

/-- Encoding gives a spelling. -/
theorem spells_encode (cs : List Char) :
    Spells (Bytes.ofString (String.ofList (encode inSegment cs)))
      (Bytes.ofString (String.ofList cs)) := by
  rw [ofString_encode]
  exact spells_encodeBytes (by decide) _

/-- A character that has to be encoded is not there. -/
theorem notMem_encode {c : Char} (reserved : inSegment (UInt8.ofNat c.toNat) = true)
    (other : c ≠ '%') (cs : List Char) : c ∉ encode inSegment cs := by
  intro member
  obtain ⟨x, there, rfl⟩ := List.mem_map.mp member
  rw [toNat_ofNat (toNat_lt_of_mem_encodeBytes there), UInt8.ofNat_toNat] at reserved
  rcases mem_encodeBytes there with rfl | plain
  · exact other rfl
  · rw [plain] at reserved
    cases reserved

end BlockTier.Url
