import BlockTier.Url.Text
/-!
Tables of characters. A table is written as words with blanks between them; each word starts with
the distance, to base 16, from the end of the word before to the first character that it is about.
-/
namespace BlockTier.Url.Domain

/-- The words of a table, each with the position behind its leading digits and the rest of it. -/
def words (text : String) : List (List Char) :=
  (splitAt Char.isWhitespace text.toList).filter (!·.isEmpty)

/-- Characters with adjacent codes that have a property, and its value. -/
structure Run where
  first : Nat
  last : Nat
  value : List Char

/-- Reads runs in rising order. A word has up to three fields with points between them: the
distance, the length and the value. A run of one character without a value leaves its length out. -/
def readRuns (text : String) : List Run :=
  let read (state : Nat × List Run) (word : List Char) :=
    let fields := splitAt (· = '.') word
    let first := state.1 + number 16 (fields.headD [])
    let length := (fields[1]?.map (number 16)).getD 1
    (first + length, ⟨first, first + length - 1, fields[2]?.getD []⟩ :: state.2)
  ((words text).foldl read (0, [])).2.reverse

/-- The value that a character has in a table of runs. -/
def valueIn? (runs : List Run) (code : Nat) : Option (List Char) :=
  (runs.find? (fun r => r.first ≤ code && code ≤ r.last)).map Run.value

/-- What characters with adjacent codes are replaced by. -/
inductive Image
  | nothing
  /-- Every `step`-th one by the one that lies as far from `base`. -/
  | shifted (step base : Nat)
  | texts (l : List (List Nat))

structure Entry where
  first : Nat
  last : Nat
  image : Image

/-- Reads a word behind its distance: `-` and a length for nothing, `+` or `*` with a number of
characters, a point and a base for steps of one or two, `=` and texts for a list. -/
def readImage (cs : List Char) : Nat × Image :=
  match cs with
  | '=' :: rest =>
    let texts := (splitAt (· = '/') rest).map (fun t => (splitAt (· = '.') t).map (number 16))
    (texts.length, .texts texts)
  | kind :: rest =>
    let fields := (splitAt (· = '.') rest).map (number 16)
    let count := fields.headD 0
    let base := fields[1]?.getD 0
    if kind = '+' then (count, .shifted 1 base)
    else if kind = '*' then (2 * count - 1, .shifted 2 base)
    else (count, .nothing)
  | [] => (0, .nothing)

def readEntries (text : String) : List Entry :=
  let read (state : Nat × List Entry) (word : List Char) :=
    let first := state.1 + number 16 (word.takeWhile isHexDigit)
    let (length, image) := readImage (word.dropWhile isHexDigit)
    (first + length, ⟨first, first + length - 1, image⟩ :: state.2)
  ((words text).foldl read (0, [])).2.reverse

/-- What a character is replaced by, if the table says so. -/
def imageIn? (entries : List Entry) (code : Nat) : Option (List Nat) :=
  (entries.find? (fun e => e.first ≤ code && code ≤ e.last)).bind fun e =>
    match e.image with
    | .nothing => some []
    | .shifted step base =>
      if (code - e.first) % step = 0 then some [base + (code - e.first)] else none
    | .texts l => l[code - e.first]?

end BlockTier.Url.Domain
