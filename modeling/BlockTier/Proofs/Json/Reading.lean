import BlockTier.Json.Format
import BlockTier.Proofs.Json.Lexing
/-!
What the readers make of texts of the grammar. Every value is passed over where none is asked for,
and a reader of a shape takes every text of a value of that shape as the value.
-/
namespace BlockTier.Json

open Format

/-! ### Values that are passed over -/

/-- The tokens are passed over as one value, whether one must come or may come. -/
def Passes (ts : List Token) : Prop :=
  ∀ expect ∈ [Expect.value, .itemOrEnd], ∀ nest rest,
    skip expect nest (ts ++ rest) = skip .after nest rest

theorem skip_cons {expect next : Expect} {nest nest' : List Nest} {t : Token} {rest : List Token}
    (unfinished : ¬ (expect = .after ∧ nest = []))
    (passed : passToken expect nest t = some (next, nest')) :
    skip expect nest (t :: rest) = skip next nest' rest := by
  rw [skip, if_neg unfinished, passed]

theorem skip_done (rest : List Token) : skip .after [] rest = .ok rest := by
  cases rest <;> rfl

theorem passes_single {t : Token}
    (passed : ∀ expect ∈ [Expect.value, .itemOrEnd], ∀ nest,
      passToken expect nest t = some (.after, nest)) : Passes [t] := by
  intro expect asked nest rest
  rw [List.singleton_append, skip_cons _ (passed expect asked nest)]
  rintro ⟨rfl, -⟩
  simp at asked

theorem passes_number (n : Numeral) : Passes [.number n] := by
  apply passes_single
  intro expect asked nest
  simp only [List.mem_cons, List.not_mem_nil, or_false] at asked
  rcases asked with rfl | rfl <;> rfl

section

variable {α : Type} {items : List α} {ts : α → List Token}

theorem skip_items (each : ∀ i ∈ items, Passes (ts i)) (nest : List Nest) (rest : List Token) :
    skip .after (.inList :: nest) (items.flatMap (.comma :: ts ·) ++ .closeList :: rest) =
      skip .after nest rest := by
  induction items with
  | nil => exact skip_cons (by simp) rfl
  | cons i items ih =>
    rw [List.flatMap_cons, List.append_assoc, List.cons_append, skip_cons (by simp) rfl,
      each i List.mem_cons_self .value (by simp)]
    exact ih fun j member => each j (List.mem_cons_of_mem i member)

theorem passes_list (each : ∀ i ∈ items, Passes (ts i)) :
    Passes (.openList :: ([.comma].intercalate (items.map ts) ++ [.closeList])) := by
  intro expect asked nest rest
  have opened (inner : List Token) : skip expect nest (.openList :: inner) =
      skip .itemOrEnd (.inList :: nest) inner := by
    simp only [List.mem_cons, List.not_mem_nil, or_false] at asked
    rcases asked with rfl | rfl <;> exact skip_cons (by simp) rfl
  rw [List.cons_append, opened]
  cases items with
  | nil => exact skip_cons (by simp) rfl
  | cons i items =>
    rw [List.map_cons, intercalate_cons, List.flatMap_map, List.append_assoc, List.append_assoc,
      each i List.mem_cons_self .itemOrEnd (by simp)]
    exact skip_items (fun j member => each j (List.mem_cons_of_mem i member)) nest rest

variable {key : α → Option String}

theorem skip_members (each : ∀ i ∈ items, Passes (ts i)) (nest : List Nest) (rest : List Token) :
    skip .after (.inObject :: nest)
      (items.flatMap (fun i => .comma :: .text (key i) :: .colon :: ts i) ++
        .closeObject :: rest) = skip .after nest rest := by
  induction items with
  | nil => exact skip_cons (by simp) rfl
  | cons i items ih =>
    rw [List.flatMap_cons, List.append_assoc, List.cons_append, skip_cons (by simp) rfl,
      List.cons_append, skip_cons (by simp) rfl, List.cons_append, skip_cons (by simp) rfl,
      each i List.mem_cons_self .value (by simp)]
    exact ih fun j member => each j (List.mem_cons_of_mem i member)

theorem passes_object (each : ∀ i ∈ items, Passes (ts i)) :
    Passes (.openObject :: ([.comma].intercalate
      (items.map fun i => .text (key i) :: .colon :: ts i) ++ [.closeObject])) := by
  intro expect asked nest rest
  have opened (inner : List Token) : skip expect nest (.openObject :: inner) =
      skip .keyOrEnd (.inObject :: nest) inner := by
    simp only [List.mem_cons, List.not_mem_nil, or_false] at asked
    rcases asked with rfl | rfl <;> exact skip_cons (by simp) rfl
  rw [List.cons_append, opened]
  cases items with
  | nil => exact skip_cons (by simp) rfl
  | cons i items =>
    rw [List.map_cons, intercalate_cons, List.flatMap_map, List.append_assoc, List.append_assoc,
      List.cons_append, skip_cons (by simp) rfl, List.cons_append, skip_cons (by simp) rfl,
      each i List.mem_cons_self .value (by simp)]
    exact skip_members (fun j member => each j (List.mem_cons_of_mem i member)) nest rest

end

theorem lexes_blank {gap : Bytes} (blank : Grammar.Blank gap) : Lexes gap [] := by
  have passed := Lexes.blank blank lexes_nil
  rwa [List.append_nil] at passed

theorem Grammar.Key.lexes {text : Bytes} (isKey : Grammar.Key text) :
    ∃ k, Lexes text [.text k] := by
  obtain ⟨isBefore, isQuoted, isAfter⟩ := isKey
  obtain ⟨k, lexes⟩ := isQuoted.lexes
  exact ⟨k, .blank isBefore (lexes.append (stops_blank isAfter) (lexes_blank isAfter))⟩

/-- Whatever value a text is, it is passed over. -/
theorem Grammar.Value.passes {text : Bytes} (isValue : Grammar.Value text) :
    ∃ ts, Lexes text ts ∧ Passes ts := by
  induction isValue with
  | null => exact ⟨_, lexes_null, passes_single (by simp [passToken])⟩
  | true => exact ⟨_, lexes_true, passes_single (by simp [passToken])⟩
  | false => exact ⟨_, lexes_false, passes_single (by simp [passToken])⟩
  | number isNumber =>
    obtain ⟨n, lexes⟩ := isNumber.lexes
    exact ⟨_, lexes, passes_number n⟩
  | string isQuoted =>
    obtain ⟨s, lexes⟩ := isQuoted.lexes
    exact ⟨_, lexes, passes_single (by simp [passToken])⟩
  | emptyList isGap =>
    have none : ∀ i ∈ ([] : List Unit), Passes [] := by simp
    exact ⟨_, (lexes_blank isGap).listed, passes_list none⟩
  | @list items some each ih =>
    choose! ts lexes passes using ih
    have lexed : Lexes ([0x2c].intercalate (items.map id)) _ := lexes_intercalate lexes
    rw [List.map_id] at lexed
    exact ⟨_, lexed.listed, passes_list passes⟩
  | emptyObject isGap =>
    have none : ∀ i ∈ ([] : List Unit), Passes [] := by simp
    exact ⟨_, (lexes_blank isGap).braced, @passes_object Unit [] _ (fun _ => .none) none⟩
  | @object members some keys each ih =>
    have keyed : ∀ m ∈ members, ∃ k, Lexes m.1 [.text k] := fun m member => (keys m member).lexes
    choose! key lexesKey using keyed
    choose! ts lexes passes using ih
    have lexed : ∀ m ∈ members, Lexes (m.1 ++ 0x3a :: m.2) (.text (key m) :: .colon :: ts m) :=
      fun m member => (lexesKey m member).append (stops_cons rfl m.2)
        (.mark (fun _ => rfl) (lexes m member))
    exact ⟨_, (lexes_intercalate lexed).braced, passes_object passes⟩
  | spaced isBefore isValue isAfter ih =>
    obtain ⟨ts, lexes, passes⟩ := ih
    have lexed := lexes.append (stops_blank isAfter) (lexes_blank isAfter)
    rw [List.append_nil] at lexed
    exact ⟨ts, .blank isBefore lexed, passes⟩

/-! ### Values that are read -/

/-- The reader takes the tokens as the value. They begin as an item of a list may. -/
structure Reads (f : Format) (v : Json) (ts : List Token) : Prop where
  begins : ∃ t more, ts = t :: more ∧ t ≠ .closeList ∧ t ≠ .comma
  reads : ∀ rest, f (ts ++ rest) = .ok (v, rest)

variable {defaults : List (String × Json)}

/-- The reader takes every text of the value as the value. -/
def Takes (defaults : List (String × Json)) (f : Format) (v : Json) : Prop :=
  ∀ text, v.Spells defaults text → ∃ ts, Lexes text ts ∧ Reads f v ts

theorem Takes.parse {f : Format} {v : Json} (takes : Takes defaults f v) {text : Bytes}
    (spells : v.Spells defaults text) : Format.parse f text = .ok v := by
  obtain ⟨ts, lexes, reads⟩ := takes text spells
  have read := reads.reads []
  rw [List.append_nil] at read
  rw [Format.parse, lexes.tokens, read]

theorem takes_flat {f : Format} {v : Json} {t : Token} (single : v.isFlat = true)
    (lexes : Lexes v.bytes [t]) (item : t ≠ .closeList ∧ t ≠ .comma)
    (reads : ∀ rest, f (t :: rest) = .ok (v, rest)) : Takes defaults f v := by
  intro text spells
  cases spells with
  | flat => exact ⟨[t], lexes, ⟨t, [], rfl, item⟩, reads⟩
  | list => cases single
  | object => cases single

theorem takes_text (s : String) : Takes defaults text (.str s) :=
  takes_flat rfl (lexes_quote s) (by simp) fun _ => rfl

theorem takes_flag (b : Bool) : Takes defaults flag (.bool b) := by
  cases b with
  | true => exact takes_flat rfl lexes_true (by simp) fun _ => rfl
  | false => exact takes_flat rfl lexes_false (by simp) fun _ => rfl

theorem takes_choice {names : List String} {s : String} (named : s ∈ names) :
    Takes defaults (choice names) (.str s) := by
  refine takes_flat rfl (lexes_quote s) (by simp) fun rest => ?_
  rw [choice, if_pos named]

theorem whole?_plain {k : Nat} (small : k < Numeral.limit) :
    Numeral.whole? { digits := k } = some (k : Int) := by
  have low : -Numeral.bound 63 ≤ (k : Int) :=
    le_trans (Int.neg_nonpos_of_nonneg (Int.natCast_nonneg _)) (Int.natCast_nonneg k)
  have high : (k : Int) < Numeral.bound 64 := Int.ofNat_lt.mpr small
  simp only [Numeral.whole?, Bool.false_and, Bool.not_true, ne_eq, not_true_eq_false, decide_false,
    Bool.or_self, Bool.false_eq_true, ↓reduceIte, low, high, decide_true, Bool.and_self]

theorem takes_word {bits k : Nat} (width : bits ≤ 64) (small : k < 2 ^ bits) :
    Takes defaults (word bits) (.nat k) := by
  have limit : k < Numeral.limit := by
    rw [Numeral.limit, Nat.one_shiftLeft]
    exact Nat.lt_of_lt_of_le small (Nat.pow_le_pow_right (by decide) width)
  have high : (k : Int) ≤ Numeral.bound bits - 1 := by
    rw [Numeral.bound, Nat.one_shiftLeft]
    omega
  refine takes_flat rfl (lexes_nat limit) (by simp) fun rest => ?_
  rw [word, integer, whole?_plain limit]
  simp only [Int.natCast_nonneg, high, decide_true, Bool.and_self, ↓reduceIte]
  rfl

theorem takes_null {f : Format} : Takes defaults (optional f) .null :=
  takes_flat rfl lexes_null (by simp) fun _ => rfl

theorem takes_some {f : Format} {v : Json} (takes : Takes defaults f v)
    (noNull : ∀ ts read, f (.null :: ts) ≠ .ok read) : Takes defaults (Format.optional f) v := by
  intro text spells
  obtain ⟨ts, lexes, ⟨t, more, rfl, item⟩, reads⟩ := takes text spells
  refine ⟨_, lexes, ⟨t, more, rfl, item⟩, fun rest => ?_⟩
  have other : t ≠ .null := by
    rintro rfl
    exact noNull _ _ (reads rest)
  rw [List.cons_append, Format.optional, ← List.cons_append, reads]
  rintro _ same
  exact other (List.cons.inj same).1

/-! ### Lists -/

section

variable {α : Type} {f : Format} {items : List α} {value : α → Json} {ts : α → List Token}

theorem Reads.nextItem {v : Json} {us : List Token} (reads : Reads f v us) (rest : List Token) :
    nextItem true (us ++ rest) = .ok (some (us ++ rest)) ∧
      nextItem false (.comma :: (us ++ rest)) = .ok (some (us ++ rest)) := by
  obtain ⟨t, more, rfl, noEnd, noComma⟩ := reads.begins
  constructor
  · cases t <;> simp_all [Format.nextItem]
  · cases t <;> simp_all [Format.nextItem]

theorem length_le_flatMap {β : Type} (items : List α) (separator : β) (text : α → List β) :
    items.length ≤ (items.flatMap (separator :: text ·)).length := by
  induction items with
  | nil => exact Nat.le_refl 0
  | cons i items ih =>
    rw [List.flatMap_cons, List.length_append, List.length_cons, List.length_cons]
    omega

theorem items_more (each : ∀ i ∈ items, Reads f (value i) (ts i)) {fuel : Nat}
    (enough : items.length < fuel) {done : List Json} (some : done ≠ []) (rest : List Token) :
    Format.items f fuel done (items.flatMap (.comma :: ts ·) ++ .closeList :: rest) =
      .ok (done.reverse ++ items.map value, rest) := by
  induction items generalizing fuel done with
  | nil =>
    obtain ⟨fuel, rfl⟩ := Nat.exists_eq_succ_of_ne_zero (Nat.ne_zero_of_lt enough)
    rw [List.map_nil, List.append_nil]
    rfl
  | cons i items ih =>
    obtain ⟨fuel, rfl⟩ := Nat.exists_eq_succ_of_ne_zero (Nat.ne_zero_of_lt enough)
    have reads := each i List.mem_cons_self
    have filled : done.isEmpty = false := by simpa using some
    rw [Format.items, filled, List.flatMap_cons, List.append_assoc, List.cons_append,
      (reads.nextItem _).2]
    simp only [bind, Except.bind, reads.reads]
    rw [ih (fun j member => each j (List.mem_cons_of_mem i member)) (by simpa using enough)
      (List.cons_ne_nil _ _), List.reverse_cons, List.append_assoc]
    rfl

theorem reads_list (each : ∀ i ∈ items, Reads f (value i) (ts i)) :
    Reads (list f) (.arr (items.map value))
      (.openList :: ([.comma].intercalate (items.map ts) ++ [.closeList])) := by
  refine ⟨⟨_, _, rfl, by simp⟩, fun rest => ?_⟩
  rw [List.cons_append, list]
  cases items with
  | nil => rfl
  | cons i items =>
    have reads := each i List.mem_cons_self
    have enough : items.length <
        ((ts i ++ (items.flatMap (.comma :: ts ·) ++ .closeList :: rest)).length) := by
      have counted := length_le_flatMap items (.comma : Token) ts
      simp only [List.length_append, List.length_cons]
      omega
    rw [List.map_cons, intercalate_cons, List.flatMap_map, List.append_assoc, List.append_assoc,
      List.singleton_append, Format.items, List.isEmpty_nil, (reads.nextItem _).1]
    simp only [bind, Except.bind, reads.reads]
    rw [items_more (fun j member => each j (List.mem_cons_of_mem i member)) enough
      (List.cons_ne_nil _ _)]
    rfl

end

theorem takes_list {f : Format} {vs : List Json} (each : ∀ v ∈ vs, Takes defaults f v) :
    Takes defaults (list f) (.arr vs) := by
  intro text spells
  cases spells with
  | flat single => cases single
  | list items spelled =>
    have taken : ∀ i ∈ items, ∃ ts, Lexes i.2 ts ∧ Reads f i.1 ts := fun i member =>
      each i.1 (List.mem_map_of_mem member) i.2 (spelled i member)
    choose! ts lexes reads using taken
    exact ⟨_, (lexes_intercalate lexes).listed, reads_list reads⟩

/-! ### Records -/

/-- The member is one that the field is there for. It may be left out if the field knows it. -/
structure Format.Field.Holds (defaults : List (String × Json)) (f : Field) (m : String × Json) :
    Prop where
  named : m.1 = f.name
  takes : Takes defaults f.format m.2
  omitted : m ∈ defaults → f.ifAbsent = some m.2

/-- The tokens are what the field asks for under a known key, and any value under another. -/
def Admits (fields : List Field) (e : Entry) (ts : List Token) : Prop :=
  match e.value with
  | some v => ∃ f, fields.find? (fun f => f.name = e.key) = some f ∧ Reads f.format v ts
  | none => fields.find? (fun f => f.name = e.key) = none ∧ Passes ts

section

variable {fields : List Field} {entries : List Entry} {ts : Entry → List Token}

theorem lookup_eq_none {members : List (String × Json)} {key : String}
    (absent : key ∉ members.map Prod.fst) : members.lookup key = none := by
  rw [List.lookup_eq_none_iff]
  intro m member
  rw [bne_iff_ne]
  rintro rfl
  exact absent (List.mem_map_of_mem member)

theorem lookup_eq_some {members : List (String × Json)} (distinct : (members.map Prod.fst).Nodup)
    {m : String × Json} (member : m ∈ members) : members.lookup m.1 = some m.2 := by
  obtain ⟨before, after, rfl⟩ := List.append_of_mem member
  rw [List.map_append, List.nodup_append] at distinct
  refine List.lookup_eq_some_iff.mpr ⟨before, after, rfl, fun other earlier => ?_⟩
  rw [bne_iff_ne]
  exact (distinct.2.2 other.1 (List.mem_map_of_mem earlier) m.1
    (List.mem_map_of_mem List.mem_cons_self)).symm

theorem nodup_kept {ms kept left : List (String × Json)} (all : ms.Perm (kept ++ left))
    (distinct : (ms.map Prod.fst).Nodup) : (kept.reverse.map Prod.fst).Nodup := by
  have parts := (all.map Prod.fst).nodup_iff.mp distinct
  rw [List.map_append, List.nodup_append] at parts
  rw [((List.reverse_perm kept).map Prod.fst).nodup_iff]
  exact parts.1

/-- Of members in any order, those that are there are found and the others are not. -/
theorem lookup_kept {ms kept left : List (String × Json)} (all : ms.Perm (kept ++ left))
    (distinct : (ms.map Prod.fst).Nodup) {m : String × Json} (member : m ∈ ms) :
    kept.reverse.lookup m.1 = some m.2 ∨ kept.reverse.lookup m.1 = none ∧ m ∈ left := by
  rcases List.mem_append.mp (all.mem_iff.mp member) with here | away
  · exact Or.inl (lookup_eq_some (nodup_kept all distinct) (List.mem_reverse.mpr here))
  · refine Or.inr ⟨lookup_eq_none fun here => ?_, away⟩
    have parts := (all.map Prod.fst).nodup_iff.mp distinct
    rw [List.map_append, List.nodup_append] at parts
    rw [List.map_reverse, List.mem_reverse] at here
    exact parts.2.2 m.1 here m.1 (List.mem_map_of_mem away) rfl

/-- One turn of the loop, whether the entry is the first or comes after a comma. -/
theorem members_entry {e : Entry} {us : List Token} (admits : Admits fields e us) {isFirst : Bool}
    {before rest : List Token}
    (next : nextKey isFirst before = .ok (some (e.key, .colon :: (us ++ rest)))) {fuel : Nat}
    {done : List (String × Json)} (fresh : ∀ m ∈ e.member?, m.1 ∉ done.map Prod.fst) :
    members fields (fuel + 1) isFirst done before =
      members fields fuel false (e.member?.toList ++ done) rest := by
  obtain ⟨key, value, text⟩ := e
  rw [members, next]
  cases value with
  | none =>
    obtain ⟨unknown, passes⟩ := admits
    simp only [bind, Except.bind, unknown, passColon, passes .value (by simp), skip_done]
    rfl
  | some v =>
    obtain ⟨f, found, reads⟩ := admits
    have new : (done.lookup key).isSome = false := by
      have absent : key ∉ done.map Prod.fst := fresh (key, v) rfl
      rw [Option.isSome_eq_false_iff, Option.isNone_iff_eq_none]
      exact lookup_eq_none absent
    simp only [bind, Except.bind, found, passColon, new, reads.reads]
    rfl

theorem known_cons (e : Entry) (entries : List Entry) (done : List (String × Json)) :
    ((e :: entries).filterMap Entry.member?).reverse ++ done =
      (entries.filterMap Entry.member?).reverse ++ (e.member?.toList ++ done) := by
  rw [List.filterMap_cons]
  cases e.member? with
  | none => rfl
  | some m =>
    rw [List.reverse_cons, List.append_assoc]
    rfl

theorem members_more (each : ∀ e ∈ entries, Admits fields e (ts e)) {fuel : Nat}
    (enough : entries.length < fuel) {done : List (String × Json)}
    (distinct : (((entries.filterMap Entry.member?).reverse ++ done).map Prod.fst).Nodup)
    (rest : List Token) :
    members fields fuel false done
      (entries.flatMap (fun e => .comma :: .text (some e.key) :: .colon :: ts e) ++
        .closeObject :: rest) =
      .ok ((entries.filterMap Entry.member?).reverse ++ done, rest) := by
  induction entries generalizing fuel done with
  | nil =>
    obtain ⟨fuel, rfl⟩ := Nat.exists_eq_succ_of_ne_zero (Nat.ne_zero_of_lt enough)
    rfl
  | cons e entries ih =>
    obtain ⟨fuel, rfl⟩ := Nat.exists_eq_succ_of_ne_zero (Nat.ne_zero_of_lt enough)
    rw [known_cons] at distinct ⊢
    -- `done` has no key of the entries still to come, which is what refuses a second member.
    have fresh : ∀ m ∈ e.member?, m.1 ∉ done.map Prod.fst := by
      intro m own
      rw [Option.mem_def.mp own, List.map_append, List.nodup_append] at distinct
      exact (List.nodup_cons.mp distinct.2.1).1
    rw [List.flatMap_cons, List.append_assoc, List.cons_append, List.cons_append, List.cons_append,
      members_entry (each e List.mem_cons_self) rfl fresh]
    exact ih (fun d member => each d (List.mem_cons_of_mem e member)) (by simpa using enough)
      distinct

theorem record_object (each : ∀ e ∈ entries, Admits fields e (ts e))
    (distinct : ((entries.filterMap Entry.member?).reverse.map Prod.fst).Nodup)
    (rest : List Token) :
    record fields (.openObject :: ([.comma].intercalate
        (entries.map fun e => .text (some e.key) :: .colon :: ts e) ++ .closeObject :: rest)) = do
      let read := (entries.filterMap Entry.member?).reverse
      return (.obj (← fields.mapM (fun f => f.complete (read.lookup f.name))), rest) := by
  rw [record]
  cases entries with
  | nil => rfl
  | cons e entries =>
    have counted := length_le_flatMap entries (.comma : Token)
      (fun e => .text (some e.key) :: .colon :: ts e)
    have known := known_cons e entries []
    rw [List.append_nil] at known
    rw [List.map_cons, intercalate_cons, List.flatMap_map, List.append_assoc, List.cons_append,
      List.cons_append, members_entry (each e List.mem_cons_self) rfl (by simp),
      members_more (fun d member => each d (List.mem_cons_of_mem e member)) _ (known ▸ distinct),
      ← known]
    · rfl
    · simp only [List.length_cons, List.length_append]
      omega

theorem find?_name (distinct : (fields.map Field.name).Nodup) {f : Field} (member : f ∈ fields) :
    fields.find? (fun g => g.name = f.name) = some f := by
  obtain ⟨before, after, rfl⟩ := List.append_of_mem member
  rw [List.map_append, List.nodup_append] at distinct
  refine List.find?_eq_some_iff_append.mpr ⟨decide_eq_true rfl, before, after, rfl, ?_⟩
  intro g earlier
  have other := distinct.2.2 g.name (List.mem_map_of_mem earlier) f.name
    (List.mem_map_of_mem List.mem_cons_self)
  simpa using other

variable {ms : List (String × Json)}

theorem keys_eq_names (held : List.Forall₂ (Field.Holds defaults) fields ms) :
    ms.map Prod.fst = fields.map Field.name := by
  induction held with
  | nil => rfl
  | cons holds held ih => rw [List.map_cons, List.map_cons, ih, holds.named]

theorem exists_field (held : List.Forall₂ (Field.Holds defaults) fields ms) {m : String × Json}
    (member : m ∈ ms) : ∃ f ∈ fields, f.Holds defaults m := by
  induction held with
  | nil => cases member
  | @cons f n fields ms holds held ih =>
    rcases List.mem_cons.mp member with rfl | member
    · exact ⟨f, List.mem_cons_self, holds⟩
    · obtain ⟨g, inside, holds⟩ := ih member
      exact ⟨g, List.mem_cons_of_mem f inside, holds⟩

theorem complete_fields {read : List (String × Json)}
    (held : List.Forall₂ (Field.Holds defaults) fields ms)
    (complete : ∀ m ∈ ms, read.lookup m.1 = some m.2 ∨
      read.lookup m.1 = none ∧ m ∈ defaults) :
    fields.mapM (fun f => f.complete (read.lookup f.name)) = .ok ms := by
  induction held with
  | nil => rfl
  | @cons f m fields members holds held ih =>
    have own : f.complete (read.lookup f.name) = .ok m := by
      rw [← holds.named]
      rcases complete m List.mem_cons_self with found | ⟨absent, default⟩
      · simp only [found, Field.complete, ← holds.named]
      · simp only [absent, Field.complete, holds.omitted default, ← holds.named]
    rw [List.mapM_cons, own, ih fun n member => complete n (List.mem_cons_of_mem m member)]
    rfl

/-- Every entry of a text of the object is one that the fields ask for or one to pass over. -/
theorem exists_admitted (held : List.Forall₂ (Field.Holds defaults) fields ms)
    (distinct : (fields.map Field.name).Nodup) {left : List (String × Json)}
    (all : ms.Perm (entries.filterMap Entry.member? ++ left))
    (known : ∀ e ∈ entries, ∀ v, e.value = some v → Spells defaults v e.text)
    (unknown : ∀ e ∈ entries, e.value = none →
      Grammar.Value e.text ∧ e.key ∉ ms.map Prod.fst) :
    ∀ e ∈ entries, ∃ us, Lexes e.text us ∧ Admits fields e us := by
  rintro ⟨key, value, text⟩ member
  cases value with
  | none =>
    obtain ⟨isValue, foreign⟩ := unknown _ member rfl
    obtain ⟨us, lexes, passes⟩ := isValue.passes
    refine ⟨us, lexes, List.find?_eq_none.mpr fun f inside same => ?_, passes⟩
    have named : f.name = key := of_decide_eq_true same
    have listed : f.name ∈ ms.map Prod.fst := by
      rw [keys_eq_names held]
      exact List.mem_map_of_mem inside
    exact foreign (named ▸ listed)
  | some v =>
    have there : (key, v) ∈ ms := by
      rw [all.mem_iff, List.mem_append, List.mem_filterMap]
      exact Or.inl ⟨_, member, rfl⟩
    obtain ⟨f, inside, holds⟩ := exists_field held there
    obtain ⟨us, lexes, reads⟩ := holds.takes text (known _ member v rfl)
    have found := find?_name distinct inside
    rw [← holds.named] at found
    exact ⟨us, lexes, f, found, reads⟩

/-- A record is read from every text of an object with a member for every field. -/
theorem takes_record (held : List.Forall₂ (Field.Holds defaults) fields ms)
    (distinct : (fields.map Field.name).Nodup) : Takes defaults (record fields) (.obj ms) := by
  have own : (ms.map Prod.fst).Nodup := keys_eq_names held ▸ distinct
  intro text spells
  cases spells with
  | flat single => cases single
  | @object _ left entries all omitted known unknown =>
    have admitted := exists_admitted held distinct all known unknown
    choose! ts lexes admits using admitted
    have lexed : ∀ e ∈ entries, Lexes e.bytes (.text (some e.key) :: .colon :: ts e) :=
      fun e member => (lexes_quote e.key).append (stops_cons rfl e.text)
        (.mark (fun _ => rfl) (lexes e member))
    have complete : ∀ m ∈ ms,
        (entries.filterMap Entry.member?).reverse.lookup m.1 = some m.2 ∨
          (entries.filterMap Entry.member?).reverse.lookup m.1 = none ∧ m ∈ defaults :=
      fun m member => (lookup_kept all own member).imp_right (And.imp_right (omitted m))
    refine ⟨_, (lexes_intercalate lexed).braced, ⟨_, _, rfl, by simp⟩, fun rest => ?_⟩
    rw [List.cons_append, List.append_assoc, List.singleton_append,
      record_object admits (nodup_kept all own)]
    dsimp only
    rw [complete_fields held complete]
    rfl

end

end BlockTier.Json
