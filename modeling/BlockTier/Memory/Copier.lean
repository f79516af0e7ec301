import BlockTier.Memory.Block
/-!
Device memory, the host pool and the copies between them. A copy reads its source when it begins
and writes its destination when the engine is done, so one that is dropped in between writes
nothing. Each completed copy is counted once, as a transfer or as a failure.
-/
namespace BlockTier

inductive Direction
  | deviceToHost | hostToDevice
  deriving DecidableEq

structure TransferStats where
  toHostBytes : Nat := 0
  toDeviceBytes : Nat := 0
  toHostCopies : Nat := 0
  toDeviceCopies : Nat := 0
  failures : Nat := 0
  deriving DecidableEq

def TransferStats.record (s : TransferStats) (d : Direction) (bytes : Nat) : TransferStats :=
  match d with
  | .deviceToHost =>
    { s with toHostBytes := s.toHostBytes + bytes, toHostCopies := s.toHostCopies + 1 }
  | .hostToDevice =>
    { s with toDeviceBytes := s.toDeviceBytes + bytes, toDeviceCopies := s.toDeviceCopies + 1 }

structure CopyReport where
  direction : Direction
  bytes : Nat
  deriving DecidableEq

/-- A copy to make. `read` and `write` move bytes between a device and a buffer. -/
inductive Copy
  | store (src : BlockRef) (dst : Extent)
  | load (src : Extent) (dst : BlockRef)
  | read (src : BlockRef)
  | write (dst : BlockRef) (data : Bytes)
  deriving DecidableEq

/-- A copy whose source has been read. -/
inductive Copying
  | toPool (data : Bytes) (dst : Extent)
  | toDevice (data : Bytes) (dst : BlockRef)
  | toBuffer (data : Bytes)
  deriving DecidableEq

namespace Copying

def data : Copying → Bytes
  | toPool data _ | toDevice data _ | toBuffer data => data

def direction : Copying → Direction
  | toPool .. | toBuffer _ => .deviceToHost
  | toDevice .. => .hostToDevice

def report (c : Copying) : CopyReport := ⟨c.direction, c.data.length⟩

end Copying

structure Copier where
  devices : List Bytes
  pool : Bytes
  /-- Milliseconds that the engine takes for a copy. -/
  latency : Nat := 0
  stats : TransferStats := {}

namespace Copier

def new (devices deviceBytes poolBytes latency : Nat) : Copier :=
  { devices := List.replicate devices (Bytes.zeros deviceBytes),
    pool := Bytes.zeros poolBytes, latency }

def readDevice (c : Copier) (b : BlockRef) : Except TransferError Bytes :=
  match c.devices[b.device]? with
  | none => .error (.deviceNotAvailable b.device)
  | some region =>
    match region.slice? b.address b.size with
    | some data => .ok data
    | none => .error (.deviceOutOfBounds b.device b.address b.size)

/-- Writes at the start of the block, which may be longer than the data. -/
def writeDevice (c : Copier) (b : BlockRef) (data : Bytes) : Except TransferError Copier :=
  if b.size < data.length then .error (.bufferTooSmall data.length b.size)
  else
    match c.devices[b.device]? with
    | none => .error (.deviceNotAvailable b.device)
    | some region =>
      match region.splice? b.address data with
      | some region => .ok { c with devices := c.devices.set b.device region }
      | none => .error (.deviceOutOfBounds b.device b.address data.length)

def readPool (c : Copier) (e : Extent) : Except TransferError Bytes :=
  match c.pool.slice? e.offset e.size with
  | some data => .ok data
  | none => .error (.hostOutOfBounds e.offset e.size)

/-- Writes data of exactly the extent's size. -/
def writePool (c : Copier) (e : Extent) (data : Bytes) : Except TransferError Copier :=
  if data.length ≠ e.size then .error (.sizeMismatch e.size data.length)
  else
    match c.pool.splice? e.offset data with
    | some pool => .ok { c with pool }
    | none => .error (.hostOutOfBounds e.offset e.size)

def countFailure (c : Copier) : Copier :=
  { c with stats := { c.stats with failures := c.stats.failures + 1 } }

/-- Checks and reads the source. A write has its data at hand and is checked at its end. -/
def begin? (c : Copier) : Copy → Except TransferError Copying
  | .store src dst =>
    if src.size ≠ dst.size then .error (.sizeMismatch dst.size src.size)
    else (c.readDevice src).map (.toPool · dst)
  | .load src dst => (c.readPool src).map (.toDevice · dst)
  | .read src => (c.readDevice src).map .toBuffer
  | .write dst data => .ok (.toDevice data dst)

/-- The regions after the destination has been written. -/
def place (c : Copier) : Copying → Except TransferError Copier
  | .toPool data dst => c.writePool dst data
  | .toDevice data dst => c.writeDevice dst data
  | .toBuffer _ => .ok c

/-- Begins a copy and counts it if it fails at once. -/
def start (c : Copier) (copy : Copy) : Copier × Except TransferError Copying :=
  match c.begin? copy with
  | .ok copying => (c, .ok copying)
  | .error e => (c.countFailure, .error e)

/-- Writes the destination of a copy and counts the copy. -/
def finish (c : Copier) (copying : Copying) : Copier × Except TransferError CopyReport :=
  match c.place copying with
  | .ok c =>
    ({ c with stats := c.stats.record copying.direction copying.data.length }, .ok copying.report)
  | .error e => (c.countFailure, .error e)

end Copier

end BlockTier
