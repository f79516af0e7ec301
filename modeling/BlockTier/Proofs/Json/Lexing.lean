import BlockTier.Proofs.Json.Grammar
import BlockTier.Proofs.Texts
import Mathlib.Tactic.IntervalCases
/-!
What the lexer makes of texts of the grammar. A number does not tell where it ends, so that a
text is lexed in front of a byte that goes on with no number.
-/
namespace BlockTier.Json

/-- The tokens that come of the bytes still to be read. -/
def Lexer.read (x : Lexer) (text : Bytes) : List Token := (text.foldl feed x).finish

theorem Lexer.read_append (x : Lexer) (text rest : Bytes) :
    x.read (text ++ rest) = (text.foldl feed x).read rest := by
  rw [read, read, List.foldl_append]

def continuesNumber (b : UInt8) : Bool :=
  Lexer.isDigit b || b = 0x2e || b = 0x65 || b = 0x45

def Stops (rest : Bytes) : Prop := ∀ b ∈ rest.head?, continuesNumber b = false

theorem Stops.append {text rest : Bytes} (first : Stops text) (second : Stops rest) :
    Stops (text ++ rest) := by
  cases text with
  | nil => exact second
  | cons b text => exact first

theorem stops_cons {b : UInt8} (stop : continuesNumber b = false) (rest : Bytes) :
    Stops (b :: rest) := by
  intro c head
  cases head
  exact stop

/-- Between tokens, the text is read as the tokens. -/
def Lexes (text : Bytes) (ts : List Token) : Prop :=
  ∀ done rest, Stops rest →
    Lexer.read ⟨.between, done⟩ (text ++ rest) = Lexer.read ⟨.between, ts.reverse ++ done⟩ rest

theorem Lexes.tokens {text : Bytes} {ts : List Token} (lexes : Lexes text ts) :
    tokens text = ts := by
  have read := lexes [] [] (by simp [Stops])
  rw [List.append_nil, List.append_nil] at read
  exact read.trans (List.reverse_reverse ts)

theorem lexes_of_foldl {text : Bytes} {ts : List Token}
    (feed : ∀ done, text.foldl Lexer.feed ⟨.between, done⟩ = ⟨.between, ts.reverse ++ done⟩) :
    Lexes text ts := by
  intro done rest stops
  rw [Lexer.read_append, feed]

theorem lexes_nil : Lexes [] [] := lexes_of_foldl fun _ => rfl

section

variable {text more : Bytes} {ts us : List Token}

theorem Lexes.append (first : Lexes text ts) (stops : Stops more) (second : Lexes more us) :
    Lexes (text ++ more) (ts ++ us) := by
  intro done rest restStops
  rw [List.append_assoc, first done (more ++ rest) (stops.append restStops),
    second _ rest restStops, List.reverse_append, List.append_assoc]

/-- A byte that is a token by itself. -/
theorem Lexes.mark {b : UInt8} {t : Token}
    (emits : ∀ done, Lexer.feed ⟨.between, done⟩ b = ⟨.between, t :: done⟩)
    (lexes : Lexes more us) : Lexes (b :: more) (t :: us) := by
  intro done rest stops
  rw [List.reverse_cons, List.append_assoc, List.singleton_append, ← lexes (t :: done) rest stops,
    ← emits done]
  rfl

theorem Lexes.blank {gap : Bytes} (blank : Grammar.Blank gap) (lexes : Lexes more us) :
    Lexes (gap ++ more) us := by
  have passed (done : List Token) : gap.foldl Lexer.feed ⟨.between, done⟩ = ⟨.between, done⟩ := by
    induction gap with
    | nil => rfl
    | cons b gap ih =>
      have stays : Lexer.feed ⟨.between, done⟩ b = ⟨.between, done⟩ := by
        have member := blank b List.mem_cons_self
        simp only [List.mem_cons, List.not_mem_nil, or_false] at member
        rcases member with rfl | rfl | rfl | rfl <;> rfl
      rw [List.foldl_cons, stays]
      exact ih fun c member => blank c (List.mem_cons_of_mem b member)
  intro done rest stops
  rw [List.append_assoc, Lexer.read_append, passed]
  exact lexes done rest stops

theorem stops_blank {gap : Bytes} (blank : Grammar.Blank gap) : Stops gap := by
  intro b head
  have member := blank b (List.mem_of_mem_head? head)
  simp only [List.mem_cons, List.not_mem_nil, or_false] at member
  rcases member with rfl | rfl | rfl | rfl <;> rfl

theorem Lexes.listed (lexes : Lexes text ts) :
    Lexes (0x5b :: (text ++ [0x5d])) (.openList :: (ts ++ [.closeList])) :=
  .mark (fun _ => rfl) (lexes.append (stops_cons rfl []) (.mark (fun _ => rfl) lexes_nil))

theorem Lexes.braced (lexes : Lexes text ts) :
    Lexes (0x7b :: (text ++ [0x7d])) (.openObject :: (ts ++ [.closeObject])) :=
  .mark (fun _ => rfl) (lexes.append (stops_cons rfl []) (.mark (fun _ => rfl) lexes_nil))

end

section

variable {α : Type} {items : List α} {text : α → Bytes} {ts : α → List Token}

theorem lexes_more (each : ∀ i ∈ items, Lexes (text i) (ts i)) :
    Stops (items.flatMap (0x2c :: text ·)) ∧
      Lexes (items.flatMap (0x2c :: text ·)) (items.flatMap (.comma :: ts ·)) := by
  induction items with
  | nil => exact ⟨by simp [Stops], lexes_nil⟩
  | cons i items ih =>
    obtain ⟨stops, lexes⟩ := ih fun j member => each j (List.mem_cons_of_mem i member)
    exact ⟨stops_cons rfl _,
      .mark (fun _ => rfl) ((each i List.mem_cons_self).append stops lexes)⟩

theorem lexes_intercalate (each : ∀ i ∈ items, Lexes (text i) (ts i)) :
    Lexes ([0x2c].intercalate (items.map text)) ([.comma].intercalate (items.map ts)) := by
  cases items with
  | nil => exact lexes_nil
  | cons i items =>
    obtain ⟨stops, lexes⟩ := lexes_more fun j member => each j (List.mem_cons_of_mem i member)
    rw [List.map_cons, List.map_cons, intercalate_cons, intercalate_cons, List.flatMap_map,
      List.flatMap_map]
    exact (each i List.mem_cons_self).append stops lexes

end

/-! ### Numbers -/

section

variable {part : NumeralPart} {n : Numeral} {negative : Bool}

/-- A number is at its end when the next byte goes on with no number. -/
theorem read_numeral {m : Numeral} {done : List Token} {rest : Bytes}
    (ends : Lexer.endNumeral ⟨.numeral part n negative, done⟩ part n negative =
      ⟨.between, .number m :: done⟩)
    (stops : Stops rest) :
    Lexer.read ⟨.numeral part n negative, done⟩ rest =
      Lexer.read ⟨.between, .number m :: done⟩ rest := by
  cases rest with
  | nil =>
    rw [Lexer.read, Lexer.read, List.foldl_nil, List.foldl_nil, Lexer.finish]
    dsimp only
    rw [ends]
    rfl
  | cons b rest =>
    have stop := stops b rfl
    simp only [continuesNumber, Bool.or_eq_false_iff, decide_eq_false_iff_not] at stop
    obtain ⟨⟨⟨noDigit, noPoint⟩, noMark⟩, noMark'⟩ := stop
    have fed : Lexer.feed ⟨.numeral part n negative, done⟩ b =
        Lexer.feed ⟨.between, .number m :: done⟩ b := by
      have between : Lexer.feed ⟨.between, .number m :: done⟩ b =
          Lexer.feedBetween ⟨.between, .number m :: done⟩ b := rfl
      rw [between, Lexer.feed]
      dsimp only
      cases part with
      | sign | point | exponentMark | exponentSign => cases ends
      | zero | whole | fraction | exponent =>
        simp [Lexer.feedNumeral, noDigit, noPoint, noMark, noMark', ends]
    rw [Lexer.read, Lexer.read, List.foldl_cons, List.foldl_cons, fed]

end

/-- Reading the text leads from one part of a number into another. -/
def Moves (text : Bytes) (part part' : NumeralPart) : Prop :=
  -- What has been read of the number is the same whatever tokens stand before it.
  ∀ n negative, ∃ n' negative', ∀ done,
    text.foldl Lexer.feed ⟨.numeral part n negative, done⟩ = ⟨.numeral part' n' negative', done⟩

/-- Reading the text leads from between tokens into a part of a number. -/
def Leads (text : Bytes) (part : NumeralPart) : Prop :=
  ∃ n negative, ∀ done,
    text.foldl Lexer.feed ⟨.between, done⟩ = ⟨.numeral part n negative, done⟩

section

variable {text more : Bytes} {part part' part'' : NumeralPart}

theorem moves_nil (part : NumeralPart) : Moves [] part part :=
  fun n negative => ⟨n, negative, fun _ => rfl⟩

theorem Moves.append (first : Moves text part part') (second : Moves more part' part'') :
    Moves (text ++ more) part part'' := by
  intro n negative
  obtain ⟨n', negative', fed⟩ := first n negative
  obtain ⟨n'', negative'', fed'⟩ := second n' negative'
  exact ⟨n'', negative'', fun done => by rw [List.foldl_append, fed, fed']⟩

theorem Leads.append (first : Leads text part) (second : Moves more part part') :
    Leads (text ++ more) part' := by
  obtain ⟨n, negative, fed⟩ := first
  obtain ⟨n', negative', fed'⟩ := second n negative
  exact ⟨n', negative', fun done => by rw [List.foldl_append, fed, fed']⟩

theorem moves_digit {b : UInt8} (isDigit : Lexer.isDigit b = true)
    (next : (part, part') ∈ [(.whole, .whole), (.point, .fraction), (.fraction, .fraction),
      (.exponentMark, .exponent), (.exponentSign, .exponent), (.exponent, .exponent)]) :
    Moves [b] part part' := by
  intro n negative
  simp only [List.mem_cons, Prod.mk.injEq, List.not_mem_nil, or_false] at next
  rcases next with ⟨rfl, rfl⟩ | ⟨rfl, rfl⟩ | ⟨rfl, rfl⟩ | ⟨rfl, rfl⟩ | ⟨rfl, rfl⟩ | ⟨rfl, rfl⟩
  all_goals
    simp only [List.foldl_cons, List.foldl_nil, Lexer.feed, Lexer.feedNumeral, isDigit, ↓reduceIte,
      Lexer.goTo]
    exact ⟨_, _, fun _ => rfl⟩

theorem moves_digits {digits : Bytes} (each : ∀ b ∈ digits, Lexer.isDigit b = true)
    (loops : part ∈ [.whole, .fraction, .exponent]) : Moves digits part part := by
  induction digits with
  | nil => exact moves_nil part
  | cons b digits ih =>
    have step : Moves [b] part part := by
      apply moves_digit (each b List.mem_cons_self)
      simp only [List.mem_cons, List.not_mem_nil, or_false] at loops
      rcases loops with rfl | rfl | rfl <;> simp
    exact step.append (ih fun c member => each c (List.mem_cons_of_mem b member))

/-- Some digits, the first of which leads into the part that the others belong to. -/
theorem moves_some {digits : Bytes} (some : Grammar.Digits digits)
    (next : (part, part') ∈ [(.point, .fraction), (.exponentMark, .exponent),
      (.exponentSign, .exponent)]) : Moves digits part part' := by
  obtain ⟨filled, each⟩ := some
  obtain ⟨first, rest, rfl⟩ := List.exists_cons_of_ne_nil filled
  have begins : Moves [first] part part' := by
    apply moves_digit (each first List.mem_cons_self)
    simp only [List.mem_cons, Prod.mk.injEq, List.not_mem_nil, or_false] at next ⊢
    rcases next with next | next | next <;> simp [next]
  have others : ∀ b ∈ rest, Lexer.isDigit b = true := fun b member =>
    each b (List.mem_cons_of_mem first member)
  refine begins.append (moves_digits others ?_)
  simp only [List.mem_cons, Prod.mk.injEq, List.not_mem_nil, or_false] at next ⊢
  rcases next with next | next | next <;> simp [next]

theorem feed_between_digit {b : UInt8} (isDigit : Lexer.isDigit b = true) (nonzero : b ≠ 0x30)
    (done : List Token) : Lexer.feed ⟨.between, done⟩ b =
      ⟨.numeral .whole { digits := Lexer.digit b } false, done⟩ := by
  have other {c : UInt8} (noDigit : Lexer.isDigit c = false) : b ≠ c := by
    rintro rfl
    exact Bool.false_ne_true (noDigit.symm.trans isDigit)
  have between : Lexer.feed ⟨.between, done⟩ b = Lexer.feedBetween ⟨.between, done⟩ b := rfl
  rw [between, Lexer.feedBetween]
  simp only [other (c := 0x20) rfl, other (c := 0x09) rfl, other (c := 0x0a) rfl,
    other (c := 0x0d) rfl, other (c := 0x7b) rfl, other (c := 0x7d) rfl, other (c := 0x5b) rfl,
    other (c := 0x5d) rfl, other (c := 0x2c) rfl, other (c := 0x3a) rfl, other (c := 0x22) rfl,
    other (c := 0x74) rfl, other (c := 0x66) rfl, other (c := 0x6e) rfl, other (c := 0x2d) rfl,
    nonzero, isDigit, decide_false, Bool.or_self, Bool.false_eq_true, ↓reduceIte, Lexer.goTo]

theorem leads_whole {sign whole : Bytes} (signed : sign ∈ [[], [0x2d]])
    (isWhole : Grammar.Whole whole) : ∃ part ∈ [.zero, .whole], Leads (sign ++ whole) part := by
  simp only [List.mem_cons, List.not_mem_nil, or_false] at signed
  cases isWhole with
  | zero =>
    refine ⟨.zero, by simp, ?_⟩
    rcases signed with rfl | rfl <;> exact ⟨_, _, fun _ => rfl⟩
  | @positive first rest digits nonzero =>
    have isDigit := digits.2 first List.mem_cons_self
    have begins : Leads (sign ++ [first]) .whole := by
      rcases signed with rfl | rfl
      · exact ⟨_, _, feed_between_digit isDigit nonzero⟩
      · have negative : Leads [0x2d] .sign := ⟨_, _, fun _ => rfl⟩
        refine negative.append fun n negative => ?_
        simp only [List.foldl_cons, List.foldl_nil, Lexer.feed, Lexer.feedNumeral, nonzero, isDigit,
          ↓reduceIte, Lexer.goTo]
        exact ⟨_, _, fun _ => rfl⟩
    have more : Moves rest .whole .whole :=
      moves_digits (fun b member => digits.2 b (List.mem_cons_of_mem first member)) (by simp)
    refine ⟨.whole, by simp, ?_⟩
    have whole := begins.append more
    rwa [List.append_assoc] at whole

theorem leads_fraction {fraction : Bytes} (isPart : part ∈ [.zero, .whole])
    (leads : Leads text part) (isFraction : Grammar.Fraction fraction) :
    ∃ part' ∈ [.zero, .whole, .fraction], Leads (text ++ fraction) part' := by
  simp only [List.mem_cons, List.not_mem_nil, or_false] at isPart
  cases isFraction with
  | none =>
    rw [List.append_nil]
    refine ⟨part, ?_, leads⟩
    rcases isPart with rfl | rfl <;> simp
  | places some =>
    have point : Moves [0x2e] part .point := by
      rcases isPart with rfl | rfl <;> exact fun _ _ => ⟨_, _, fun _ => rfl⟩
    exact ⟨.fraction, by simp, leads.append (point.append (moves_some some (by simp)))⟩

theorem leads_exponent {exponent : Bytes} (isPart : part ∈ [.zero, .whole, .fraction])
    (leads : Leads text part) (isExponent : Grammar.Exponent exponent) :
    ∃ part' ∈ [.zero, .whole, .fraction, .exponent], Leads (text ++ exponent) part' := by
  simp only [List.mem_cons, List.not_mem_nil, or_false] at isPart
  cases isExponent with
  | none =>
    rw [List.append_nil]
    refine ⟨part, ?_, leads⟩
    rcases isPart with rfl | rfl | rfl <;> simp
  | @power mark sign digits marked signed some =>
    have marks : Moves [mark] part .exponentMark := by
      simp only [List.mem_cons, List.not_mem_nil, or_false] at marked
      rcases marked with rfl | rfl <;> rcases isPart with rfl | rfl | rfl <;>
        exact fun _ _ => ⟨_, _, fun _ => rfl⟩
    have power : Moves (sign ++ digits) .exponentMark .exponent := by
      simp only [List.mem_cons, List.not_mem_nil, or_false] at signed
      rcases signed with rfl | rfl | rfl
      · exact moves_some some (by simp)
      · have sign : Moves [0x2b] .exponentMark .exponentSign := fun _ _ => ⟨_, _, fun _ => rfl⟩
        exact sign.append (moves_some some (by simp))
      · have sign : Moves [0x2d] .exponentMark .exponentSign := fun _ _ => ⟨_, _, fun _ => rfl⟩
        exact sign.append (moves_some some (by simp))
    exact ⟨.exponent, by simp, leads.append (marks.append power)⟩

end

theorem Grammar.Number.lexes {text : Bytes} (isNumber : Grammar.Number text) :
    ∃ n, Lexes text [.number n] := by
  obtain ⟨signed, isWhole, isFraction, isExponent⟩ := isNumber
  obtain ⟨part, isPart, leads⟩ := leads_whole signed isWhole
  obtain ⟨part', isPart', leads'⟩ := leads_fraction isPart leads isFraction
  obtain ⟨part'', isPart'', n, negative, fed⟩ := leads_exponent isPart' leads' isExponent
  have ends : ∃ m, ∀ done, Lexer.endNumeral ⟨.numeral part'' n negative, done⟩ part'' n negative =
      ⟨.between, .number m :: done⟩ := by
    simp only [List.mem_cons, List.not_mem_nil, or_false] at isPart''
    rcases isPart'' with rfl | rfl | rfl | rfl <;> exact ⟨_, fun _ => rfl⟩
  obtain ⟨m, ends⟩ := ends
  refine ⟨m, fun done rest stops => ?_⟩
  rw [Lexer.read_append, fed, read_numeral (ends done) stops]
  rfl

/-! ### Numbers in plain decimal form -/

theorem digit_digitChar {d : Nat} (small : d < 10) :
    Lexer.isDigit (UInt8.ofNat d.digitChar.toNat) = true ∧
      Lexer.digit (UInt8.ofNat d.digitChar.toNat) = d ∧
      (0 < d → UInt8.ofNat d.digitChar.toNat ≠ 0x30) := by
  decide +revert

theorem utf8EncodeChar_digitChar {d : Nat} (small : d < 10) :
    String.utf8EncodeChar d.digitChar = [UInt8.ofNat d.digitChar.toNat] := by
  decide +revert

theorem feed_decimal {k : Nat} (positive : 0 < k) (small : k < Numeral.limit)
    (done : List Token) :
    ((Nat.toDigits 10 k).flatMap String.utf8EncodeChar).foldl Lexer.feed ⟨.between, done⟩ =
      ⟨.numeral .whole { digits := k } false, done⟩ := by
  induction k using Nat.strongRecOn with
  | ind k ih =>
    rcases Nat.lt_or_ge k 10 with single | more
    · obtain ⟨isDigit, value, nonzero⟩ := digit_digitChar single
      rw [Nat.toDigits_of_lt_base single, List.flatMap_singleton, utf8EncodeChar_digitChar single]
      refine (feed_between_digit isDigit (nonzero positive) done).trans ?_
      rw [value]
    · have last : k % 10 < 10 := Nat.mod_lt k (by omega)
      obtain ⟨isDigit, value, _⟩ := digit_digitChar last
      have before := ih (k / 10) (by omega) (by omega) (by omega)
      have fits : ¬ Numeral.limit ≤ 10 * (k / 10) + k % 10 := by omega
      have whole : 10 * (k / 10) + k % 10 = k := Nat.div_add_mod k 10
      rw [Nat.toDigits_of_base_le (by omega) more, List.flatMap_append, List.foldl_append, before,
        List.flatMap_singleton, utf8EncodeChar_digitChar last, List.foldl_cons, List.foldl_nil]
      simp only [Lexer.feed, Lexer.feedNumeral, isDigit, ↓reduceIte, Lexer.goTo, Numeral.addWhole,
        value, fits, Int.lt_irrefl, decide_false, Bool.or_self, Bool.false_eq_true]
      rw [whole]

theorem lexes_nat {k : Nat} (small : k < Numeral.limit) :
    Lexes (nat k).bytes [.number { digits := k }] := by
  have text : (nat k).bytes = (Nat.toDigits 10 k).flatMap String.utf8EncodeChar := by
    have plain : toString (k : Int) = toString k := rfl
    rw [nat, bytes, plain, Nat.toString_eq_ofList_toDigits, Bytes.ofString_ofList]
  intro done rest stops
  rw [text, Lexer.read_append]
  rcases Nat.eq_zero_or_pos k with rfl | positive
  · exact read_numeral rfl stops
  · rw [feed_decimal positive small]
    exact read_numeral rfl stops

/-! ### Strings and names -/

theorem feed_control {k : Nat} (small : k < 0x20) (before : Bytes) (done : List Token) :
    (escape (UInt8.ofNat k)).foldl Lexer.feed ⟨.string { bytes := before }, done⟩ =
      ⟨.string { bytes := UInt8.ofNat k :: before }, done⟩ := by
  interval_cases k <;> rfl

theorem feed_escape (b : UInt8) (before : Bytes) (done : List Token) :
    (escape b).foldl Lexer.feed ⟨.string { bytes := before }, done⟩ =
      ⟨.string { bytes := b :: before }, done⟩ := by
  by_cases quoted : b = 0x22
  · subst quoted
    rfl
  by_cases escaped : b = 0x5c
  · subst escaped
    rfl
  by_cases control : b < 0x20
  · have fed := feed_control (UInt8.lt_iff_toNat_lt.mp control) before done
    rwa [UInt8.ofNat_toNat] at fed
  · have plain : escape b = [b] := by
      have other {c : UInt8} (low : c < 0x20) : b ≠ c := by
        rintro rfl
        exact control low
      simp only [escape, quoted, escaped, control, ↓reduceIte, other (c := 0x08) (by decide),
        other (c := 0x09) (by decide), other (c := 0x0a) (by decide),
        other (c := 0x0c) (by decide), other (c := 0x0d) (by decide)]
    rw [plain]
    simp only [List.foldl_cons, List.foldl_nil, Lexer.feed, quoted, escaped, control, ↓reduceIte,
      Lexer.goTo]
    rfl

theorem lexes_quote (s : String) : Lexes (quote s) [.text (some s)] := by
  have inside (text before : Bytes) (done : List Token) :
      (text.flatMap escape).foldl Lexer.feed ⟨.string { bytes := before }, done⟩ =
        ⟨.string { bytes := text.reverse ++ before }, done⟩ := by
    induction text generalizing before with
    | nil => rfl
    | cons b text ih =>
      rw [List.flatMap_cons, List.foldl_append, feed_escape, ih, List.reverse_cons,
        List.append_assoc, List.singleton_append]
  apply lexes_of_foldl
  intro done
  have begins : Lexer.feed ⟨.between, done⟩ 0x22 = ⟨.string {}, done⟩ := rfl
  have ends (before : Bytes) : Lexer.feed ⟨.string { bytes := before }, done⟩ 0x22 =
      ⟨.between, .text (Bytes.toString? before.reverse) :: done⟩ := rfl
  rw [quote, List.foldl_cons, begins, List.foldl_append, inside, List.append_nil, List.foldl_cons,
    ends, List.reverse_reverse, Bytes.toString?_ofString, List.foldl_nil]
  rfl

theorem feed_unit {digits : Bytes} (each : ∀ b ∈ digits, (Hex.digit? b).isSome) (left value : Nat)
    (some : digits.length = left + 1) (l : Literal) : ∃ l' : Literal, ∀ done,
      digits.foldl Lexer.feed ⟨.unit (left + 1) value l, done⟩ = ⟨.string l', done⟩ := by
  induction digits generalizing left value with
  | nil => cases some
  | cons b digits ih =>
    obtain ⟨d, isDigit⟩ := Option.isSome_iff_exists.mp (each b List.mem_cons_self)
    cases left with
    | zero =>
      have last : digits = [] := List.length_eq_zero_iff.mp (Nat.succ.inj some)
      subst last
      refine ⟨l.addUnit (16 * value + d), fun done => ?_⟩
      simp only [List.foldl_cons, List.foldl_nil, Lexer.feed, isDigit, Lexer.goTo, Nat.zero_add,
        Nat.le_refl, ↓reduceIte]
    | succ left =>
      obtain ⟨l', rest⟩ := ih (fun c member => each c (List.mem_cons_of_mem b member)) left
        (16 * value + d) (Nat.succ.inj some)
      have more : ¬ left + 1 + 1 ≤ 1 := by omega
      refine ⟨l', fun done => ?_⟩
      rw [← rest done, List.foldl_cons]
      simp only [Lexer.feed, isDigit, Lexer.goTo, more, ↓reduceIte, Nat.add_sub_cancel]

theorem Grammar.Character.feeds {text : Bytes} (isCharacter : Grammar.Character text)
    (l : Literal) : ∃ l' : Literal, ∀ done,
      text.foldl Lexer.feed ⟨.string l, done⟩ = ⟨.string l', done⟩ := by
  cases isCharacter with
  | @plain b noControl noQuote noEscape =>
    refine ⟨l.addByte b, fun done => ?_⟩
    simp only [List.foldl_cons, List.foldl_nil, Lexer.feed, noQuote, noEscape,
      UInt8.not_lt.mpr noControl, ↓reduceIte, Lexer.goTo]
  | escape named =>
    simp only [List.mem_cons, List.not_mem_nil, or_false] at named
    rcases named with rfl | rfl | rfl | rfl | rfl | rfl | rfl | rfl <;>
      exact ⟨_, fun _ => rfl⟩
  | unit four each => exact feed_unit each 3 0 four l

theorem feed_characters {characters : List Bytes}
    (each : ∀ c ∈ characters, Grammar.Character c) (l : Literal) : ∃ l' : Literal, ∀ done,
      characters.flatten.foldl Lexer.feed ⟨.string l, done⟩ = ⟨.string l', done⟩ := by
  induction characters generalizing l with
  | nil => exact ⟨l, fun _ => rfl⟩
  | cons c characters ih =>
    obtain ⟨l', fed⟩ := (each c List.mem_cons_self).feeds l
    obtain ⟨l'', rest⟩ := ih (fun d member => each d (List.mem_cons_of_mem c member)) l'
    exact ⟨l'', fun done => by rw [List.flatten_cons, List.foldl_append, fed, rest]⟩

theorem Grammar.Quoted.lexes {text : Bytes} (isQuoted : Grammar.Quoted text) :
    ∃ s, Lexes text [.text s] := by
  cases isQuoted with
  | mk each =>
    obtain ⟨l, fed⟩ := feed_characters each {}
    refine ⟨l.text?, lexes_of_foldl fun done => ?_⟩
    have begins : Lexer.feed ⟨.between, done⟩ 0x22 = ⟨.string {}, done⟩ := rfl
    rw [List.foldl_cons, begins, List.foldl_append, fed]
    rfl

theorem lexes_null : Lexes (Bytes.ofString "null") [.null] := lexes_of_foldl fun _ => rfl

theorem lexes_true : Lexes (Bytes.ofString "true") [.bool true] := lexes_of_foldl fun _ => rfl

theorem lexes_false : Lexes (Bytes.ofString "false") [.bool false] := lexes_of_foldl fun _ => rfl

end BlockTier.Json
