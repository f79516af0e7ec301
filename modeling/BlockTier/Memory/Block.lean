import BlockTier.Hex
/-!
Where a block lies: on a device, or in an extent of the host pool.
-/
namespace BlockTier

/-- A stretch of device memory. -/
structure BlockRef where
  device : Nat
  address : Nat
  size : Nat
  deriving DecidableEq, Inhabited

def BlockRef.withSize (b : BlockRef) (size : Nat) : BlockRef := { b with size }

/-- A stretch of the host pool. -/
structure Extent where
  offset : Nat
  size : Nat
  deriving DecidableEq, Inhabited

def Extent.stop (e : Extent) : Nat := e.offset + e.size

inductive TransferError
  | deviceNotAvailable (device : Nat)
  | deviceOutOfBounds (device address size : Nat)
  | hostOutOfBounds (address size : Nat)
  | bufferTooSmall (needed available : Nat)
  | sizeMismatch (expected actual : Nat)
  deriving DecidableEq

def TransferError.message : TransferError → String
  | deviceNotAvailable device => s!"Device {device} not available"
  | deviceOutOfBounds device address size =>
    s!"Device {device} range 0x{Hex.ofNat address}+{size} out of bounds"
  | hostOutOfBounds address size => s!"Host pool range 0x{Hex.ofNat address}+{size} out of bounds"
  | bufferTooSmall needed available =>
    s!"Transfer buffer too small: need {needed} bytes, have {available}"
  | sizeMismatch expected actual =>
    s!"Transfer size mismatch: expected {expected} bytes, got {actual}"

end BlockTier
