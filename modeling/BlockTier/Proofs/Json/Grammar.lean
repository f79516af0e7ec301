import BlockTier.Json.Token
import BlockTier.Json.Value
/-!
Texts of JSON values. `Grammar.Value` holds of every text of the grammar of RFC 8259, in bytes.
`Spells` is about the texts of one value as other writers make them: with the members of objects
in their order, among members of their own, and without those that go without saying.
-/
namespace BlockTier.Json

theorem intercalate_cons {α : Type} (separator : α) (first : List α) (rest : List (List α)) :
    [separator].intercalate (first :: rest) = first ++ rest.flatMap (separator :: ·) := by
  induction rest generalizing first with
  | nil => rw [List.intercalate_singleton, List.flatMap_nil, List.append_nil]
  | cons second rest ih =>
    rw [List.intercalate_cons_cons, ih, List.flatMap_cons, List.append_assoc]
    rfl

namespace Grammar

def Blank (gap : Bytes) : Prop := ∀ b ∈ gap, b ∈ [0x20, 0x09, 0x0a, 0x0d]

def Digits (text : Bytes) : Prop := text ≠ [] ∧ ∀ b ∈ text, Lexer.isDigit b = true

inductive Whole : Bytes → Prop
  | zero : Whole [0x30]
  | positive {first : UInt8} {rest : Bytes} (digits : Digits (first :: rest))
    (nonzero : first ≠ 0x30) : Whole (first :: rest)

inductive Fraction : Bytes → Prop
  | none : Fraction []
  | places {digits : Bytes} (some : Digits digits) : Fraction (0x2e :: digits)

inductive Exponent : Bytes → Prop
  | none : Exponent []
  | power {mark : UInt8} {sign digits : Bytes} (marked : mark ∈ [0x65, 0x45])
    (signed : sign ∈ [[], [0x2b], [0x2d]]) (some : Digits digits) :
    Exponent (mark :: (sign ++ digits))

inductive Number : Bytes → Prop
  | mk {sign whole fraction exponent : Bytes} (signed : sign ∈ [[], [0x2d]])
    (isWhole : Whole whole) (isFraction : Fraction fraction) (isExponent : Exponent exponent) :
    Number (sign ++ whole ++ fraction ++ exponent)

inductive Character : Bytes → Prop
  | plain {b : UInt8} (noControl : 0x20 ≤ b) (noQuote : b ≠ 0x22) (noEscape : b ≠ 0x5c) :
    Character [b]
  | escape {b : UInt8} (named : b ∈ [0x22, 0x5c, 0x2f, 0x62, 0x66, 0x6e, 0x72, 0x74]) :
    Character [0x5c, b]
  | unit {digits : Bytes} (four : digits.length = 4)
    (each : ∀ b ∈ digits, (Hex.digit? b).isSome) : Character (0x5c :: 0x75 :: digits)

inductive Quoted : Bytes → Prop
  | mk {characters : List Bytes} (each : ∀ c ∈ characters, Character c) :
    Quoted (0x22 :: (characters.flatten ++ [0x22]))

inductive Key : Bytes → Prop
  | mk {before quoted after : Bytes} (isBefore : Blank before) (isQuoted : Quoted quoted)
    (isAfter : Blank after) : Key (before ++ (quoted ++ after))

inductive Value : Bytes → Prop
  | null : Value (Bytes.ofString "null")
  | true : Value (Bytes.ofString "true")
  | false : Value (Bytes.ofString "false")
  | number {text : Bytes} (isNumber : Number text) : Value text
  | string {text : Bytes} (isQuoted : Quoted text) : Value text
  | emptyList {gap : Bytes} (isGap : Blank gap) : Value (0x5b :: (gap ++ [0x5d]))
  | list {items : List Bytes} (some : items ≠ []) (each : ∀ item ∈ items, Value item) :
    Value (0x5b :: ([0x2c].intercalate items ++ [0x5d]))
  | emptyObject {gap : Bytes} (isGap : Blank gap) : Value (0x7b :: (gap ++ [0x7d]))
  | object {members : List (Bytes × Bytes)} (some : members ≠ [])
    (keys : ∀ m ∈ members, Key m.1) (each : ∀ m ∈ members, Value m.2) :
    Value (0x7b :: ([0x2c].intercalate (members.map fun m => m.1 ++ 0x3a :: m.2) ++ [0x7d]))
  | spaced {before text after : Bytes} (isBefore : Blank before) (isValue : Value text)
    (isAfter : Blank after) : Value (before ++ (text ++ after))

end Grammar

/-! ### Texts of one value -/

/-- A member of an object in a text, with the value if it is one that the text is there for. -/
structure Entry where
  key : String
  value : Option Json
  text : Bytes

namespace Entry

def member? (e : Entry) : Option (String × Json) := e.value.map (e.key, ·)

def bytes (e : Entry) : Bytes := quote e.key ++ 0x3a :: e.text

end Entry

def isFlat : Json → Bool
  | arr _ | obj _ => false
  | _ => true

/-- The text spells the value, where the members in `defaults` may be left out of an object. Members
with other names than the object has may stand anywhere among its own. -/
inductive Spells (defaults : List (String × Json)) : Json → Bytes → Prop
  | flat {v : Json} (single : v.isFlat = true) : Spells defaults v v.bytes
  | list (items : List (Json × Bytes)) (each : ∀ i ∈ items, Spells defaults i.1 i.2) :
    Spells defaults (.arr (items.map Prod.fst))
      (0x5b :: ([0x2c].intercalate (items.map Prod.snd) ++ [0x5d]))
  | object {members left : List (String × Json)} (entries : List Entry)
    (all : members.Perm (entries.filterMap Entry.member? ++ left))
    (omitted : ∀ m ∈ left, m ∈ defaults)
    (known : ∀ e ∈ entries, ∀ v, e.value = some v → Spells defaults v e.text)
    (unknown : ∀ e ∈ entries, e.value = none →
      Grammar.Value e.text ∧ e.key ∉ members.map Prod.fst) :
    Spells defaults (.obj members)
      (0x7b :: ([0x2c].intercalate (entries.map Entry.bytes) ++ [0x7d]))

theorem itemBytes_eq (items : List Json) :
    itemBytes items = [0x2c].intercalate (items.map bytes) := by
  induction items with
  | nil => rw [itemBytes, List.map_nil, List.intercalate_nil]
  | cons v rest ih =>
    cases rest with
    | nil => rw [itemBytes, List.map_singleton, List.intercalate_singleton]
    | cons w rest =>
      rw [itemBytes, ih, List.map_cons, List.map_cons, List.map_cons, List.intercalate_cons_cons,
        List.append_assoc, List.singleton_append]
      exact List.cons_ne_nil w rest

theorem memberBytes_eq (members : List (String × Json)) :
    memberBytes members =
      [0x2c].intercalate (members.map fun m => quote m.1 ++ 0x3a :: m.2.bytes) := by
  induction members with
  | nil => rw [memberBytes, List.map_nil, List.intercalate_nil]
  | cons m rest ih =>
    cases rest with
    | nil => rw [memberBytes, List.map_singleton, List.intercalate_singleton]
    | cons n rest =>
      rw [memberBytes, ih, List.map_cons, List.map_cons, List.map_cons,
        List.intercalate_cons_cons, List.append_assoc, List.append_assoc, List.singleton_append,
        List.cons_append]
      exact List.cons_ne_nil n rest

/-- The compact text is one of the texts. -/
theorem spells_bytes (defaults : List (String × Json)) (v : Json) : v.Spells defaults v.bytes := by
  match v with
  | .null | .bool _ | .num _ | .double _ | .str _ => exact .flat rfl
  | .arr items =>
    have each : ∀ i ∈ items.map (fun v => (v, v.bytes)), Spells defaults i.1 i.2 := by
      intro i member
      obtain ⟨v, there, rfl⟩ := List.mem_map.mp member
      exact spells_bytes defaults v
    have text := Spells.list _ each
    rw [List.map_map, List.map_map] at text
    rw [bytes, itemBytes_eq]
    simpa only [Function.comp_def, List.map_id'] using text
  | .obj members =>
    let entries := members.map fun m => (⟨m.1, some m.2, m.2.bytes⟩ : Entry)
    have all : entries.filterMap Entry.member? = members := by
      rw [List.filterMap_map]
      exact List.filterMap_some
    have known : ∀ e ∈ entries, ∀ v, e.value = some v → Spells defaults v e.text := by
      intro e member v value
      obtain ⟨m, there, rfl⟩ := List.mem_map.mp member
      cases value
      exact spells_bytes defaults m.2
    have unknown : ∀ e ∈ entries, e.value = none →
        Grammar.Value e.text ∧ e.key ∉ members.map Prod.fst := by
      intro e member value
      obtain ⟨m, _, rfl⟩ := List.mem_map.mp member
      cases value
    have complete : members.Perm (entries.filterMap Entry.member? ++ []) := by
      rw [all, List.append_nil]
    have text := Spells.object entries complete (fun _ none => absurd none List.not_mem_nil) known
      unknown
    rw [List.map_map] at text
    rw [bytes, memberBytes_eq]
    exact text
termination_by sizeOf v
decreasing_by
  · have smaller := List.sizeOf_lt_of_mem there
    rw [arr.sizeOf_spec]
    omega
  · have smaller := List.sizeOf_lt_of_mem there
    have parts : sizeOf m = 1 + sizeOf m.1 + sizeOf m.2 := rfl
    rw [obj.sizeOf_spec]
    omega

end BlockTier.Json
