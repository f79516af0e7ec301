/-!
Finite maps keyed by text, kept in increasing key order with one entry a key, so that equal maps
are equal tables and every listing is in key order.
-/
namespace BlockTier

abbrev Table (β : Type) := List (String × β)

namespace Table

variable {β : Type}

def find? (t : Table β) (k : String) : Option β :=
  match t with
  | [] => none
  | (a, b) :: rest => if k = a then some b else find? rest k

def contains (t : Table β) (k : String) : Bool := (t.find? k).isSome

/-- Enters `v` for `k`, in place of what `k` had. -/
def insert (t : Table β) (k : String) (v : β) : Table β :=
  match t with
  | [] => [(k, v)]
  | (a, b) :: rest =>
    if k = a then (k, v) :: rest
    else if k < a then (k, v) :: (a, b) :: rest
    else (a, b) :: insert rest k v

/-- The table of a list's entries; of several entries for a key the last one counts. -/
def ofList (entries : List (String × β)) : Table β :=
  entries.foldl (fun t e => insert t e.1 e.2) []

def erase (t : Table β) (k : String) : Table β := t.filter (fun e => e.1 ≠ k)

def keys (t : Table β) : List String := t.map (·.1)

def values (t : Table β) : List β := t.map (·.2)

@[simp] theorem find?_nil (k : String) : find? ([] : Table β) k = none := rfl

theorem find?_insert (t : Table β) (k k' : String) (v : β) :
    (t.insert k v).find? k' = if k' = k then some v else t.find? k' := by
  induction t with
  | nil => rfl
  | cons e rest ih => grind [insert, find?]

theorem find?_erase (t : Table β) (k k' : String) :
    (t.erase k).find? k' = if k' = k then none else t.find? k' := by
  induction t with
  | nil => simp [erase]
  | cons e rest ih => grind [erase, find?]

end Table

end BlockTier
