import BlockTier.Proofs.Url.Spelling
import BlockTier.Url.Host
/-!
Plain hosts: names of letters, digits and hyphens, and IPv4 addresses of four numbers. Each of them
is a host that a URL can have.
-/
namespace BlockTier.Url

/-! ### Characters -/

def isHostChar (c : Char) : Bool := c.isAlphanum || c = '-' || c = '_' || c = '.'

theorem toNat_lt_of_isAlphanum {c : Char} (plain : c.isAlphanum = true) : c.toNat < 128 := by
  rcases Bool.or_eq_true_iff.mp plain with letter | digit
  · rcases Bool.or_eq_true_iff.mp letter with upper | lower
    · have high : c.val ≤ 'Z'.val := (of_decide_eq_true upper).2
      exact Nat.lt_of_le_of_lt (UInt32.le_iff_toNat_le.mp high) (by decide)
    · have high : c.val ≤ 'z'.val := of_decide_eq_true (Bool.and_eq_true_iff.mp lower).2
      exact Nat.lt_of_le_of_lt (UInt32.le_iff_toNat_le.mp high) (by decide)
  · have high : c.val ≤ '9'.val := of_decide_eq_true (Bool.and_eq_true_iff.mp digit).2
    exact Nat.lt_of_le_of_lt (UInt32.le_iff_toNat_le.mp high) (by decide)

theorem toNat_lt_of_isHostChar {c : Char} (plain : isHostChar c = true) : c.toNat < 128 := by
  simp only [isHostChar, Bool.or_eq_true, decide_eq_true_eq] at plain
  rcases plain with ((plain | rfl) | rfl) | rfl
  · exact toNat_lt_of_isAlphanum plain
  · decide
  · decide
  · decide

/-- What holds of those with an ASCII code holds of all. -/
theorem of_isHostChar {p : Char → Prop}
    (ascii : ∀ n < 128, isHostChar (Char.ofNat n) = true → p (Char.ofNat n)) {c : Char}
    (plain : isHostChar c = true) : p c := by
  have holds := ascii c.toNat (toNat_lt_of_isHostChar plain)
  rw [Char.ofNat_toNat] at holds
  exact holds plain

theorem isHostChar_toLower {c : Char} (plain : isHostChar c = true) :
    isHostChar c.toLower = true :=
  of_isHostChar (p := fun c => isHostChar c.toLower = true) (by decide) plain

theorem isHostChar_of_isDigit {c : Char} (digit : c.isDigit = true) : isHostChar c = true := by
  simp [isHostChar, Char.isAlphanum, digit]

theorem isHostChar_toDigits {n : Nat} : ∀ c ∈ Nat.toDigits 10 n, isHostChar c = true :=
  fun _ member =>
    isHostChar_of_isDigit (Nat.isDigit_of_mem_toDigits (by decide) (Nat.le_refl _) member)

/-! ### Pieces -/

section Pieces

variable {isSeparator : Char → Bool} {c : Char}

theorem splitAt_cons_of_separator (separator : isSeparator c = true) (cs : List Char) :
    splitAt isSeparator (c :: cs) = [] :: splitAt isSeparator cs := by
  rw [splitAt, List.foldr_cons, if_pos separator, ← splitAt]

theorem splitAt_cons_of_other (other : isSeparator c = false) {cs piece : List Char}
    {more : List (List Char)} (pieces : splitAt isSeparator cs = piece :: more) :
    splitAt isSeparator (c :: cs) = (c :: piece) :: more := by
  rw [splitAt, List.foldr_cons, ← splitAt, pieces, if_neg (by simp [other])]

theorem exists_splitAt_eq_cons (isSeparator : Char → Bool) (cs : List Char) :
    ∃ piece more, splitAt isSeparator cs = piece :: more := by
  induction cs with
  | nil => exact ⟨[], [], rfl⟩
  | cons c cs ih =>
    obtain ⟨piece, more, pieces⟩ := ih
    cases separator : isSeparator c with
    | true => exact ⟨_, _, splitAt_cons_of_separator separator cs⟩
    | false => exact ⟨_, _, splitAt_cons_of_other separator pieces⟩

theorem splitAt_of_others {piece : List Char} (others : ∀ c ∈ piece, isSeparator c = false) :
    splitAt isSeparator piece = [piece] := by
  induction piece with
  | nil => rfl
  | cons c cs ih =>
    exact splitAt_cons_of_other (others c List.mem_cons_self)
      (ih fun x member => others x (List.mem_cons_of_mem _ member))

theorem splitAt_append {piece : List Char} (others : ∀ c ∈ piece, isSeparator c = false)
    (separator : isSeparator c = true) (rest : List Char) :
    splitAt isSeparator (piece ++ c :: rest) = piece :: splitAt isSeparator rest := by
  induction piece with
  | nil => exact splitAt_cons_of_separator separator rest
  | cons x xs ih =>
    exact splitAt_cons_of_other (others x List.mem_cons_self)
      (ih fun y member => others y (List.mem_cons_of_mem _ member))

theorem mem_of_mem_splitAt {cs piece : List Char} (member : piece ∈ splitAt isSeparator cs) :
    ∀ x ∈ piece, x ∈ cs := by
  induction cs generalizing piece with
  | nil =>
    rw [List.mem_singleton.mp member]
    exact fun _ absent => absent
  | cons c cs ih =>
    cases separator : isSeparator c with
    | true =>
      rw [splitAt_cons_of_separator separator] at member
      rcases List.mem_cons.mp member with rfl | later
      · exact fun _ absent => nomatch absent
      · exact fun x inside => List.mem_cons_of_mem _ (ih later x inside)
    | false =>
      obtain ⟨first, more, pieces⟩ := exists_splitAt_eq_cons isSeparator cs
      rw [splitAt_cons_of_other separator pieces] at member
      rw [pieces] at ih
      rcases List.mem_cons.mp member with rfl | later
      · intro x inside
        rcases List.mem_cons.mp inside with rfl | inside
        · exact List.mem_cons_self
        · exact List.mem_cons_of_mem _ (ih List.mem_cons_self x inside)
      · exact fun x inside => List.mem_cons_of_mem _ (ih (List.mem_cons_of_mem _ later) x inside)

/-- The pieces with the separator between them are the text. -/
theorem intercalate_splitAt (separator : Char) (cs : List Char) :
    [separator].intercalate (splitAt (· = separator) cs) = cs := by
  induction cs with
  | nil => rfl
  | cons c cs ih =>
    obtain ⟨piece, more, pieces⟩ := exists_splitAt_eq_cons (· = separator) cs
    by_cases same : c = separator
    · rw [splitAt_cons_of_separator (by simpa using same), pieces, List.intercalate_cons_cons,
        ← pieces, ih, same]
      rfl
    · rw [splitAt_cons_of_other (by simpa using same) pieces]
      rw [pieces] at ih
      cases more with
      | nil =>
        rw [List.intercalate_singleton] at ih ⊢
        rw [ih]
      | cons second more =>
        rw [List.intercalate_cons_cons] at ih ⊢
        rw [← ih]
        rfl

end Pieces

/-! ### Names -/

variable {cs : List Char}

theorem decode_of_plain (plain : ∀ c ∈ cs, isHostChar c = true) :
    decode (Bytes.ofString (String.ofList cs)) = Bytes.ofString (String.ofList cs) := by
  apply Spells.decode
  rw [Bytes.ofString_ofList]
  induction cs with
  | nil => exact .nil
  | cons c cs ih =>
    have here := plain c List.mem_cons_self
    have small := toNat_lt_of_isHostChar here
    have encoded : String.utf8EncodeChar c = [UInt8.ofNat c.toNat] := by
      have known := utf8EncodeChar_ofNat small
      rwa [Char.ofNat_toNat] at known
    rw [List.flatMap_cons, encoded]
    refine .plain (fun same => ?_) (ih fun x member => plain x (List.mem_cons_of_mem _ member))
    have code := congrArg UInt8.toNat same
    rw [UInt8.toNat_ofNat', Nat.mod_eq_of_lt (by omega)] at code
    have percent : c = '%' := Char.toNat_inj.mp code
    exact of_isHostChar (p := fun c => c ≠ '%') (by decide) here percent

/-- No label is marked as the ASCII form of another text. -/
def Unmarked (name : List Char) : Prop :=
  ∀ label ∈ splitAt (· = '.') name, ¬ Domain.asciiMark <+: label

theorem label?_of_plain {label : List Char} (plain : ∀ c ∈ label, isHostChar c = true)
    (unmarked : ¬ Domain.asciiMark <+: label) : Domain.label? label = some ⟨label, label⟩ := by
  have ascii : label.all Domain.isAscii = true :=
    List.all_eq_true.mpr fun c member => decide_eq_true (toNat_lt_of_isHostChar (plain c member))
  have other : ¬ label.take Domain.asciiMark.length = Domain.asciiMark :=
    fun same => unmarked (List.prefix_iff_eq_take.mpr same.symm)
  rw [Domain.label?, if_neg other, if_pos ascii]
  rfl

theorem mapM_eq_some_map {α β : Type} {f : α → Option β} {g : α → β} {l : List α}
    (each : ∀ x ∈ l, f x = some (g x)) : l.mapM f = some (l.map g) := by
  induction l with
  | nil => rfl
  | cons x rest ih =>
    rw [List.mapM_cons, each x List.mem_cons_self,
      ih fun y member => each y (List.mem_cons_of_mem _ member)]
    rfl

theorem directionsAgree_of_ascii {labels : List (List Nat)}
    (ascii : ∀ label ∈ labels, ∀ code ∈ label, code < 128) :
    Domain.directionsAgree labels = true := by
  have none : labels.any (·.any (Domain.turnsRight ∘ Domain.direction)) = false := by
    simp only [List.any_eq_false, Bool.not_eq_true, Function.comp_apply]
    intro label member code inside
    rw [Domain.direction, if_pos (ascii label member code inside)]
    split
    · rfl
    · split <;> rfl
  rw [Domain.directionsAgree, none]
  rfl

theorem ascii?_of_plain (plain : ∀ c ∈ cs, isHostChar c = true)
    (unmarked : Unmarked (cs.map Char.toLower)) :
    Domain.ascii? cs = some (cs.map Char.toLower) := by
  have ascii : cs.all Domain.isAscii = true :=
    List.all_eq_true.mpr fun c member => decide_eq_true (toNat_lt_of_isHostChar (plain c member))
  have lower : ∀ c ∈ cs.map Char.toLower, isHostChar c = true := by
    intro c member
    obtain ⟨x, inside, rfl⟩ := List.mem_map.mp member
    exact isHostChar_toLower (plain x inside)
  generalize named : cs.map Char.toLower = name at unmarked lower ⊢
  have allowed : name.any Domain.isForbidden = false := by
    simp only [List.any_eq_false, Bool.not_eq_true]
    intro c member
    exact of_isHostChar (p := fun c => Domain.isForbidden c = false) (by decide) (lower c member)
  have inLabel (label : List Char) (member : label ∈ splitAt (· = '.') name) :
      ∀ c ∈ label, isHostChar c = true :=
    fun c inside => lower c (mem_of_mem_splitAt member c inside)
  have labels : (splitAt (· = '.') name).mapM Domain.label? =
      some ((splitAt (· = '.') name).map fun label => ⟨label, label⟩) :=
    mapM_eq_some_map fun label member =>
      label?_of_plain (inLabel label member) (unmarked label member)
  have agree : Domain.directionsAgree
      (((splitAt (· = '.') name).map fun label => (⟨label, label⟩ : Domain.Label)).map
        fun l => l.text.map Char.toNat) = true := by
    apply directionsAgree_of_ascii
    intro codes member code inside
    rw [List.map_map] at member
    obtain ⟨label, here, rfl⟩ := List.mem_map.mp member
    obtain ⟨c, there, rfl⟩ := List.mem_map.mp inside
    exact toNat_lt_of_isHostChar (inLabel label here c there)
  have whole : ((splitAt (· = '.') name).map fun label => (⟨label, label⟩ : Domain.Label)).map
      Domain.Label.ascii = splitAt (· = '.') name := by
    rw [List.map_map]
    exact List.map_id _
  unfold Domain.ascii?
  simp only [ascii, named, allowed, labels, agree, whole, intercalate_splitAt, ↓reduceIte,
    Option.bind_eq_bind, Option.bind_some, Bool.false_eq_true, Bool.not_true]
  rfl

/-- The host of plain characters, in lower case, if it does not have to be an IPv4 address. -/
theorem host_of_plain (nonempty : cs ≠ []) (plain : ∀ c ∈ cs, isHostChar c = true)
    (unmarked : Unmarked (cs.map Char.toLower)) :
    host cs =
      if endsInNumber (cs.map Char.toLower) then
        (ipv4? (cs.map Char.toLower)).elim (.error .invalidIpv4) fun n => .ok (ipv4Text n)
      else .ok (cs.map Char.toLower) := by
  have named : (Bytes.toString? (decode (Bytes.ofString (String.ofList cs)))).bind
      (Domain.ascii? ·.toList) = some (cs.map Char.toLower) := by
    rw [decode_of_plain plain, Bytes.toString?_ofString, Option.bind_some, String.toList_ofList,
      ascii?_of_plain plain unmarked]
  have filled : (cs.map Char.toLower).isEmpty = false := by simpa using nonempty
  unfold host
  split
  · exact absurd rfl nonempty
  · rename_i rest
    exact absurd (plain '[' List.mem_cons_self) (by decide)
  · simp only [named, filled, Bool.false_eq_true, ↓reduceIte]
    cases ipv4? (cs.map Char.toLower) <;> rfl

/-! ### IPv4 addresses -/

theorem ipv4Part?_toDigits {n : Nat} (small : n < 256) :
    ipv4Part? (Nat.toDigits 10 n) = some n := by
  have all : ∀ m < 256, ipv4Part? (Nat.toDigits 10 m) = some m := by decide +kernel
  exact all n small

/-- Four numbers with points between them. -/
def dotted (a b c d : Nat) : List Char :=
  Nat.toDigits 10 a ++ '.' :: (Nat.toDigits 10 b ++ '.' :: (Nat.toDigits 10 c ++ '.' ::
    Nat.toDigits 10 d))

theorem ne_point_of_mem_toDigits {n : Nat} {c : Char} (member : c ∈ Nat.toDigits 10 n) :
    decide (c = '.') = false := by
  rw [decide_eq_false_iff_not]
  rintro rfl
  have digit := Nat.isDigit_of_mem_toDigits (by decide) (Nat.le_refl _) member
  cases digit

variable {a b c d : Nat}

theorem splitAt_dotted (a b c d : Nat) :
    splitAt (· = '.') (dotted a b c d) =
      [Nat.toDigits 10 a, Nat.toDigits 10 b, Nat.toDigits 10 c, Nat.toDigits 10 d] := by
  have point : decide ('.' = '.') = true := rfl
  rw [dotted, splitAt_append (fun _ => ne_point_of_mem_toDigits) point,
    splitAt_append (fun _ => ne_point_of_mem_toDigits) point,
    splitAt_append (fun _ => ne_point_of_mem_toDigits) point,
    splitAt_of_others (fun _ => ne_point_of_mem_toDigits)]

theorem hostParts_dotted (a b c d : Nat) :
    hostParts (dotted a b c d) =
      [Nat.toDigits 10 a, Nat.toDigits 10 b, Nat.toDigits 10 c, Nat.toDigits 10 d] := by
  rw [hostParts, splitAt_dotted]
  simp [Nat.toDigits_ne_nil]

theorem endsInNumber_dotted (a b c d : Nat) : endsInNumber (dotted a b c d) = true := by
  have digits : (Nat.toDigits 10 d).all Char.isDigit = true :=
    List.all_eq_true.mpr fun _ => Nat.isDigit_of_mem_toDigits (by decide) (Nat.le_refl _)
  rw [endsInNumber, hostParts_dotted]
  simp [Nat.toDigits_ne_nil, digits]

theorem ipv4?_dotted (ha : a < 256) (hb : b < 256) (hc : c < 256) (hd : d < 256) :
    ipv4? (dotted a b c d) = some ((256 * (256 * a + b) + c) * 256 + d) := by
  have front : ([a, b, c].any fun n => decide (255 < n)) = false := by
    simp only [List.any_cons, List.any_nil, Bool.or_false, Bool.or_eq_false_iff,
      decide_eq_false_iff_not]
    omega
  rw [ipv4?, hostParts_dotted]
  simp only [List.mapM_cons, List.mapM_nil, ipv4Part?_toDigits, ha, hb, hc, hd,
    Option.bind_eq_bind, Option.bind_some, Option.pure_def]
  simp [front]
  omega

theorem mem_dotted {x : Char} (member : x ∈ dotted a b c d) : x = '.' ∨ x.isDigit = true := by
  have digit {n : Nat} (member : x ∈ Nat.toDigits 10 n) : x.isDigit = true :=
    Nat.isDigit_of_mem_toDigits (by decide) (Nat.le_refl _) member
  simp only [dotted, List.mem_append, List.mem_cons] at member
  rcases member with h | h | h | h | h | h | h
  · exact Or.inr (digit h)
  · exact Or.inl h
  · exact Or.inr (digit h)
  · exact Or.inl h
  · exact Or.inr (digit h)
  · exact Or.inl h
  · exact Or.inr (digit h)

theorem isHostChar_dotted : ∀ x ∈ dotted a b c d, isHostChar x = true := by
  intro x member
  rcases mem_dotted member with rfl | digit
  · decide
  · exact isHostChar_of_isDigit digit

theorem toLower_dotted : (dotted a b c d).map Char.toLower = dotted a b c d := by
  have each : ∀ x ∈ dotted a b c d, x.toLower = x := by
    intro x member
    rcases mem_dotted member with rfl | digit
    · decide
    · exact of_isHostChar (p := fun x => x.isDigit = true → x.toLower = x) (by decide)
        (isHostChar_of_isDigit digit) digit
  exact (List.map_congr_left each).trans (List.map_id _)

theorem unmarked_dotted : Unmarked ((dotted a b c d).map Char.toLower) := by
  rw [toLower_dotted]
  intro label member mark
  have first : 'x' ∈ label := mark.subset (by decide)
  rcases mem_dotted (mem_of_mem_splitAt member 'x' first) with point | digit
  · cases point
  · cases digit

theorem ipv4Text_eq_dotted (n : Nat) :
    ipv4Text n = dotted (n >>> 24) (n >>> 16 % 256) (n >>> 8 % 256) (n % 256) := by
  have point : (toString ".").toList = ['.'] := by decide
  simp only [ipv4Text, dotted, point, String.toList_append, Nat.toString_eq_ofList_toDigits,
    String.toList_ofList, List.append_assoc, List.nil_append, List.cons_append]

theorem dotted_ne_nil : dotted a b c d ≠ [] := by
  simp [dotted]

/-- Four numbers of one byte each are written as they are. -/
theorem host_dotted (ha : a < 256) (hb : b < 256) (hc : c < 256) (hd : d < 256) :
    host (dotted a b c d) = .ok (dotted a b c d) := by
  rw [host_of_plain dotted_ne_nil isHostChar_dotted unmarked_dotted, toLower_dotted,
    endsInNumber_dotted, ipv4?_dotted ha hb hc hd, if_pos rfl, Option.elim_some,
    ipv4Text_eq_dotted]
  congr 2 <;> omega

/-! ### Plain hosts -/

/-- A name or an IPv4 address. No label of a name is marked as the ASCII form of another text, and
the last one is not a number. -/
inductive PlainHost : List Char → Prop
  | name {cs : List Char} (nonempty : cs ≠ []) (plain : ∀ c ∈ cs, isHostChar c = true)
    (unmarked : Unmarked (cs.map Char.toLower))
    (noNumber : endsInNumber (cs.map Char.toLower) = false) : PlainHost cs
  | address {a b c d : Nat} (ha : a < 256) (hb : b < 256) (hc : c < 256) (hd : d < 256) :
    PlainHost (dotted a b c d)

theorem PlainHost.chars (plain : PlainHost cs) : ∀ c ∈ cs, isHostChar c = true := by
  cases plain with
  | name _ chars => exact chars
  | address => exact isHostChar_dotted

theorem PlainHost.host_eq (plain : PlainHost cs) :
    ∃ name, host cs = .ok name ∧ ∀ c ∈ name, isHostChar c = true := by
  cases plain with
  | name nonempty plain unmarked noNumber =>
    refine ⟨cs.map Char.toLower, ?_, fun c member => ?_⟩
    · rw [host_of_plain nonempty plain unmarked, noNumber]
      rfl
    · obtain ⟨x, inside, rfl⟩ := List.mem_map.mp member
      exact isHostChar_toLower (plain x inside)
  | address ha hb hc hd => exact ⟨_, host_dotted ha hb hc hd, isHostChar_dotted⟩

end BlockTier.Url
