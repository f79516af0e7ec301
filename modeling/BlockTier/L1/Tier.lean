import BlockTier.L1.Cache
import BlockTier.Memory.Copier
/-!
The first tier with its memory. A put or a get that has to copy begins, waits for the copy
engine and then finishes; it may be abandoned while it waits.
-/
namespace BlockTier.L1

structure Tier where
  cache : Cache
  copier : Copier

/-- A put that has an extent and waits for its copy. -/
structure Storing where
  key : String
  extent : Extent
  copying : Copying
  evicted : Nat

/-- A get whose block has been read and waits to be written to its destination. -/
structure Loading where
  key : String
  size : Nat
  copying : Copying

def transferFailure (e : TransferError) : Status :=
  .failure .transferFailed s!"L1 transfer failed: {e.message}"

namespace Tier

def beginPut (t : Tier) (key : String) (block : BlockRef) : Tier × (Status ⊕ Storing) :=
  match t.cache.beginPut key block.size with
  | (cache, .resident size) =>
    ({ t with cache }, .inl (.ok s!"{size} bytes already resident in L1"))
  | (cache, .refused refusal) => ({ t with cache }, .inl refusal.status)
  | (cache, .acquired extent evicted) =>
    match t.copier.start (.store block extent) with
    | (copier, .ok copying) => (⟨cache, copier⟩, .inr { key, extent, copying, evicted })
    | (copier, .error e) => (⟨cache.failPut extent, copier⟩, .inl (transferFailure e))

def finishPut (t : Tier) (s : Storing) : Tier × Status :=
  match t.copier.finish s.copying with
  | (copier, .ok _) =>
    (⟨t.cache.commitPut s.key s.extent, copier⟩,
      .ok s!"stored {s.extent.size} bytes in L1 (evicted {s.evicted})")
  | (copier, .error e) => (⟨t.cache.failPut s.extent, copier⟩, transferFailure e)

def abandonPut (t : Tier) (s : Storing) : Tier := { t with cache := t.cache.dropPut s.extent }

def beginGet (t : Tier) (key : String) (dest : BlockRef) : Tier × (Status ⊕ Loading) :=
  match t.cache.find? key with
  | none => ({ t with cache := t.cache.countMiss }, .inl (.notFound "L1 miss"))
  | some e =>
    match t.copier.start (.load e dest) with
    | (copier, .ok copying) => ({ t with copier }, .inr { key, size := e.size, copying })
    | (copier, .error e) => ({ t with copier }, .inl (transferFailure e))

/-- Only a copy that succeeds counts as a touch. -/
def finishGet (t : Tier) (l : Loading) : Tier × Status :=
  match t.copier.finish l.copying with
  | (copier, .ok _) => (⟨t.cache.commitGet l.key, copier⟩, .ok s!"loaded {l.size} bytes from L1")
  | (copier, .error e) => ({ t with copier }, transferFailure e)

def read? (t : Tier) (key : String) : Option Bytes :=
  match t.cache.find? key with
  | none => none
  | some e => (t.copier.readPool e).toOption

def evict (t : Tier) (key : String) : Tier × Bool :=
  let (cache, wasResident) := t.cache.evict key
  ({ t with cache }, wasResident)

def makeRoom (t : Tier) (needed : Nat) : Tier × Status :=
  let (cache, status) := t.cache.makeRoom needed
  ({ t with cache }, status)

end Tier

end BlockTier.L1
