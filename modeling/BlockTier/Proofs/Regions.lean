import BlockTier.Memory.Copier
import BlockTier.Proofs.L1.PoolPartition
import BlockTier.Proofs.Slices
/-!
What a copy leaves of the devices and the pool. Devices are compared byte by byte, since a block may
reach past the end of its device.
-/
namespace BlockTier

/-- The part of a block past its first bytes. -/
def BlockRef.past (b : BlockRef) (n : Nat) : BlockRef := ⟨b.device, b.address + n, b.size - n⟩

namespace Copier

def byte? (c : Copier) (device i : Nat) : Option UInt8 := c.devices[device]?.bind (·[i]?)

/-- The two copiers have the same bytes in a block. -/
def Agree (c c' : Copier) (b : BlockRef) : Prop :=
  ∀ i, b.address ≤ i → i < b.address + b.size → c'.byte? b.device i = c.byte? b.device i

variable {c c' : Copier} {b : BlockRef} {e x : Extent} {data : Bytes}

theorem Agree.withSize (agree : c.Agree c' b) {n : Nat} (smaller : n ≤ b.size) :
    c.Agree c' (b.withSize n) :=
  fun i low high => agree i low (Nat.lt_of_lt_of_le high (Nat.add_le_add_left smaller _))

theorem readDevice_eq_ok_iff : c.readDevice b = .ok data ↔
    ∃ region, c.devices[b.device]? = some region ∧ region.slice? b.address b.size = some data := by
  unfold readDevice
  cases c.devices[b.device]? with
  | none => simp
  | some region => cases read : region.slice? b.address b.size <;> simp [read]

theorem readDevice_congr (same : c'.devices = c.devices) : c'.readDevice b = c.readDevice b := by
  simp only [readDevice, same]

theorem readPool_congr (same : c'.pool = c.pool) : c'.readPool e = c.readPool e := by
  simp only [readPool, same]

theorem length_readDevice (read : c.readDevice b = .ok data) : data.length = b.size := by
  obtain ⟨region, _, sliced⟩ := readDevice_eq_ok_iff.mp read
  exact Bytes.length_slice? sliced

/-- A block with a byte in it lies in its device if its last byte does. -/
theorem Agree.readDevice (agree : c.Agree c' b) (nonempty : 0 < b.size)
    (read : c.readDevice b = .ok data) : c'.readDevice b = .ok data := by
  obtain ⟨region, device, sliced⟩ := readDevice_eq_ok_iff.mp read
  obtain ⟨length, inside, bytes⟩ := Bytes.slice?_eq_some_iff.mp sliced
  have here (i : Nat) (below : i < b.size) :
      (c'.devices[b.device]?.bind (·[b.address + i]?)) = data[i]? := by
    have := agree (b.address + i) (by omega) (by omega)
    simp only [byte?, device, Option.bind_some] at this
    rw [this, bytes i below]
  cases device' : c'.devices[b.device]? with
  | none =>
    have := here 0 nonempty
    rw [device', Option.bind_none, List.getElem?_eq_getElem (by omega)] at this
    cases this
  | some region' =>
    simp only [device', Option.bind_some] at here
    refine readDevice_eq_ok_iff.mpr ⟨region', device', Bytes.slice?_eq_some_iff.mpr
      ⟨length, ?_, here⟩⟩
    have last := here (b.size - 1) (by omega)
    rw [List.getElem?_eq_getElem (l := data) (by omega)] at last
    have := (List.getElem?_eq_some_iff.mp last).1
    omega

theorem writeDevice_eq_ok_iff : c.writeDevice b data = .ok c' ↔
    data.length ≤ b.size ∧ ∃ region result, c.devices[b.device]? = some region ∧
      region.splice? b.address data = some result ∧
      c' = { c with devices := c.devices.set b.device result } := by
  unfold writeDevice
  by_cases short : b.size < data.length
  · rw [if_pos short]
    constructor
    · intro absent
      cases absent
    · rintro ⟨enough, _⟩
      omega
  · rw [if_neg short]
    cases c.devices[b.device]? with
    | none => simp
    | some region =>
      cases written : region.splice? b.address data with
      | none => simp [written]
      | some result =>
        simp only [Except.ok.injEq, Option.some.injEq, written]
        constructor
        · intro same
          exact ⟨by omega, region, result, rfl, written, same.symm⟩
        · rintro ⟨_, _, _, rfl, second, rfl⟩
          rw [written] at second
          cases second
          rfl

/-- `n` bytes can be written at the start of the block. -/
def Accepts (c : Copier) (b : BlockRef) (n : Nat) : Prop :=
  n ≤ b.size ∧ ∃ region, c.devices[b.device]? = some region ∧ b.address + n ≤ region.length

theorem accepts_iff : c.Accepts b data.length ↔ ∃ c', c.writeDevice b data = .ok c' := by
  constructor
  · rintro ⟨fits, region, device, inside⟩
    obtain ⟨result, spliced⟩ := Bytes.splice?_isSome inside
    exact ⟨_, writeDevice_eq_ok_iff.mpr ⟨fits, region, result, device, spliced, rfl⟩⟩
  · rintro ⟨c', written⟩
    obtain ⟨fits, region, result, device, spliced, _⟩ := writeDevice_eq_ok_iff.mp written
    exact ⟨fits, region, device, Bytes.inside_of_splice? spliced⟩

theorem readDevice_writeDevice (written : c.writeDevice b data = .ok c') :
    c'.readDevice (b.withSize data.length) = .ok data := by
  obtain ⟨_, region, result, device, spliced, rfl⟩ := writeDevice_eq_ok_iff.mp written
  refine readDevice_eq_ok_iff.mpr ⟨result, ?_, Bytes.slice?_splice? spliced⟩
  exact List.getElem?_set_self (List.getElem?_eq_some_iff.mp device).1

theorem byte?_writeDevice (written : c.writeDevice b data = .ok c') (device i : Nat) :
    c'.byte? device i =
      if device = b.device ∧ b.address ≤ i ∧ i < b.address + data.length then data[i - b.address]?
      else c.byte? device i := by
  obtain ⟨_, region, result, found, spliced, rfl⟩ := writeDevice_eq_ok_iff.mp written
  simp only [byte?]
  by_cases same : device = b.device
  · subst same
    rw [List.getElem?_set_self (List.getElem?_eq_some_iff.mp found).1, found, Option.bind_some,
      Option.bind_some, Bytes.getElem?_splice? spliced]
    simp only [true_and]
  · rw [List.getElem?_set_ne (Ne.symm same), if_neg (fun inside => same inside.1)]

/-- The block begins with the data, and no other byte of a device has changed. -/
structure Wrote (c c' : Copier) (b : BlockRef) (data : Bytes) : Prop where
  start : c'.readDevice (b.withSize data.length) = .ok data
  others : ∀ device i,
    ¬ (device = b.device ∧ b.address ≤ i ∧ i < b.address + data.length) →
      c'.byte? device i = c.byte? device i

theorem wrote_of_writeDevice (written : c.writeDevice b data = .ok c') : c.Wrote c' b data where
  start := readDevice_writeDevice written
  others := fun device i outside => by rw [byte?_writeDevice written, if_neg outside]

theorem Wrote.of_devices {c'' : Copier} (wrote : c.Wrote c' b data)
    (same : c''.devices = c'.devices) : c.Wrote c'' b data where
  start := (readDevice_congr same).trans wrote.start
  others := fun device i outside => by
    simp only [byte?, same]
    exact wrote.others device i outside

theorem readDevice_writeDevice_past (written : c.writeDevice b data = .ok c') {n : Nat}
    (longer : data.length ≤ n) (full : Bytes) :
    c'.readDevice (b.withSize n) = .ok full ↔
      ∃ rest, full = data ++ rest ∧ c.readDevice ((b.withSize n).past data.length) = .ok rest := by
  obtain ⟨_, region, result, device, spliced, rfl⟩ := writeDevice_eq_ok_iff.mp written
  have here : (c.devices.set b.device result)[b.device]? = some result :=
    List.getElem?_set_self (List.getElem?_eq_some_iff.mp device).1
  have reads := Bytes.slice?_splice?_append spliced (n - data.length)
  rw [Nat.add_sub_cancel' longer] at reads
  simp only [readDevice_eq_ok_iff, BlockRef.withSize, BlockRef.past, here, device, reads,
    Option.some.injEq, exists_eq_left', Option.map_eq_some_iff]
  exact ⟨fun ⟨rest, read, same⟩ => ⟨rest, same.symm, read⟩,
    fun ⟨rest, same, read⟩ => ⟨rest, read, same.symm⟩⟩

theorem accepts_congr (same : c'.devices = c.devices) {n : Nat} :
    c'.Accepts b n ↔ c.Accepts b n := by
  simp only [Accepts, same]

theorem Accepts.shorter {n m : Nat} (accepts : c.Accepts b n) (shorter : m ≤ n) :
    c.Accepts b m := by
  obtain ⟨fits, region, device, inside⟩ := accepts
  exact ⟨Nat.le_trans shorter fits, region, device, by omega⟩

theorem pool_writeDevice (written : c.writeDevice b data = .ok c') : c'.pool = c.pool := by
  obtain ⟨_, _, _, _, _, rfl⟩ := writeDevice_eq_ok_iff.mp written
  rfl

theorem writePool_eq_ok_iff : c.writePool e data = .ok c' ↔
    data.length = e.size ∧ ∃ pool, c.pool.splice? e.offset data = some pool ∧
      c' = { c with pool } := by
  unfold writePool
  by_cases size : data.length = e.size
  · cases spliced : c.pool.splice? e.offset data with
    | none => simp [size]
    | some pool =>
      simp only [size, ne_eq, not_true_eq_false, ↓reduceIte, Except.ok.injEq, Option.some.injEq,
        exists_eq_left', true_and]
      exact eq_comm
  · simp [size]

theorem readPool_eq_ok_iff :
    c.readPool e = .ok data ↔ c.pool.slice? e.offset e.size = some data := by
  unfold readPool
  cases c.pool.slice? e.offset e.size <;> simp

theorem length_readPool (read : c.readPool e = .ok data) : data.length = e.size :=
  Bytes.length_slice? (readPool_eq_ok_iff.mp read)

theorem readPool_writePool (written : c.writePool e data = .ok c') : c'.readPool e = .ok data := by
  obtain ⟨size, pool, spliced, rfl⟩ := writePool_eq_ok_iff.mp written
  rw [readPool_eq_ok_iff, ← size]
  exact Bytes.slice?_splice? spliced

theorem readPool_writePool_apart (written : c.writePool e data = .ok c') (apart : e.Apart x) :
    c'.readPool x = c.readPool x := by
  obtain ⟨size, pool, spliced, rfl⟩ := writePool_eq_ok_iff.mp written
  simp only [readPool]
  rw [Bytes.slice?_splice?_apart spliced (size ▸ apart)]

theorem devices_writePool (written : c.writePool e data = .ok c') : c'.devices = c.devices := by
  obtain ⟨_, _, _, rfl⟩ := writePool_eq_ok_iff.mp written
  rfl

theorem stop_le_of_writePool (written : c.writePool e data = .ok c') :
    e.stop ≤ c'.pool.length := by
  obtain ⟨size, pool, spliced, rfl⟩ := writePool_eq_ok_iff.mp written
  have inside := Bytes.inside_of_splice? spliced
  have length := Bytes.length_splice? spliced
  simp only [Extent.stop]
  omega

theorem length_writePool (written : c.writePool e data = .ok c') :
    c'.pool.length = c.pool.length := by
  obtain ⟨_, _, spliced, rfl⟩ := writePool_eq_ok_iff.mp written
  exact Bytes.length_splice? spliced

theorem writePool_of_stop_le (size : data.length = e.size) (inside : e.stop ≤ c.pool.length) :
    ∃ c', c.writePool e data = .ok c' := by
  rw [Extent.stop, ← size] at inside
  obtain ⟨pool, spliced⟩ := Bytes.splice?_isSome inside
  exact ⟨_, writePool_eq_ok_iff.mpr ⟨size, pool, spliced, rfl⟩⟩

theorem readPool_of_stop_le (inside : e.stop ≤ c.pool.length) :
    ∃ data, c.readPool e = .ok data ∧ data.length = e.size := by
  have read : c.pool.slice? e.offset e.size = some ((c.pool.drop e.offset).take e.size) :=
    if_pos inside
  exact ⟨_, readPool_eq_ok_iff.mpr read, Bytes.length_slice? read⟩

end Copier

end BlockTier
