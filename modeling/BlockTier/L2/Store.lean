import BlockTier.Bytes
import BlockTier.Table
/-!
A storage node's blocks, by key, under a ceiling on their total length.
-/
namespace BlockTier.L2

inductive StoreError
  | full (needed available : Nat)
  deriving DecidableEq

def StoreError.message : StoreError → String
  | full needed available => s!"Store full: {needed} bytes needed, {available} available"

structure Store where
  blocks : Table Bytes := []
  used : Nat := 0
  /-- The ceiling, where zero stands for none. -/
  maxBytes : Nat := 0
  deriving DecidableEq

namespace Store

def new (maxBytes : Nat) : Store := { maxBytes }

def get? (s : Store) (key : String) : Option Bytes := s.blocks.find? key

def contains (s : Store) (key : String) : Bool := s.blocks.contains key

def size (s : Store) : Nat := s.blocks.length

def usedByOthers (s : Store) (key : String) : Nat :=
  match s.get? key with
  | some old => s.used - old.length
  | none => s.used

/-- Enters a block. One that replaces another only needs room for the difference. -/
def put (s : Store) (key : String) (data : Bytes) : Except StoreError Store :=
  let others := s.usedByOthers key
  if 0 < s.maxBytes && s.maxBytes < others + data.length then
    .error (.full data.length (s.maxBytes - others))
  else .ok { s with blocks := s.blocks.insert key data, used := others + data.length }

def remove (s : Store) (key : String) : Store × Option Bytes :=
  match s.get? key with
  | none => (s, none)
  | some old =>
    ({ s with blocks := s.blocks.erase key, used := s.used - old.length }, some old)

end Store

end BlockTier.L2
