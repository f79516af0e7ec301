/-!
The order in which resident keys were last touched, oldest first. The oldest key is the next one
to evict.
-/
namespace BlockTier.L1

structure Tracked where
  key : String
  size : Nat
  deriving DecidableEq

abbrev Recency := List Tracked

namespace Recency

def remove (r : Recency) (key : String) : Recency := r.filter (fun t => t.key ≠ key)

/-- Tracks a key as the latest one, with a new size if it was tracked before. -/
def track (r : Recency) (key : String) (size : Nat) : Recency := remove r key ++ [⟨key, size⟩]

def touch (r : Recency) (key : String) : Recency :=
  match r.find? (fun t => t.key = key) with
  | some t => remove r key ++ [t]
  | none => r

def victim? (r : Recency) : Option String := r.head?.map (·.key)

def bytes (r : Recency) : Nat := @List.sum Nat _ ⟨0⟩ (r.map (·.size))

def policyName : String := "lru"

theorem length_remove_le (r : Recency) (key : String) : (remove r key).length ≤ r.length :=
  List.length_filter_le ..

end Recency

end BlockTier.L1
