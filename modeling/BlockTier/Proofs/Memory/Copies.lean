import BlockTier.Proofs.Regions
/-!
What one copy comes to. Whether it is made depends only on how long the regions are, so that is
settled when it is asked for, whatever other copies do until it is finished.
-/
namespace BlockTier

/-- Where one byte is kept. -/
inductive Place
  | device (device i : Nat)
  | pool (i : Nat)
  deriving DecidableEq

namespace Copy

def direction : Copy → Direction
  | store .. | read _ => .deviceToHost
  | load .. | write .. => .hostToDevice

/-- How many bytes it is to move. -/
def length : Copy → Nat
  | store src _ | read src => src.size
  | load src _ => src.size
  | write _ data => data.length

/-- Where its byte `i` goes, unless it goes to the caller. -/
def target? : Copy → Nat → Option Place
  | store _ dst, i => some (.pool (dst.offset + i))
  | load _ dst, i | write dst _, i => some (.device dst.device (dst.address + i))
  | read _, _ => none

end Copy

namespace Copier

def at? (c : Copier) : Place → Option UInt8
  | .device device i => c.byte? device i
  | .pool i => c.pool[i]?

/-- Byte `i` of what a copy is to move, as it is now. -/
def source? (c : Copier) : Copy → Nat → Option UInt8
  | .store src _, i | .read src, i => c.at? (.device src.device (src.address + i))
  | .load src _, i => c.at? (.pool (src.offset + i))
  | .write _ data, i => data[i]?

/-- The device is there, and the `n` bytes from the address on lie in it. -/
def InDevice (c : Copier) (device address n : Nat) : Prop :=
  ∃ region, c.devices[device]? = some region ∧ address + n ≤ region.length

/-- The devices are there, the sizes fit, and every range lies in its region. -/
def Fits (c : Copier) : Copy → Prop
  | .store src dst =>
    src.size = dst.size ∧ c.InDevice src.device src.address src.size ∧
      dst.offset + dst.size ≤ c.pool.length
  | .load src dst =>
    src.size ≤ dst.size ∧ src.offset + src.size ≤ c.pool.length ∧
      c.InDevice dst.device dst.address src.size
  | .read src => c.InDevice src.device src.address src.size
  | .write dst data => data.length ≤ dst.size ∧ c.InDevice dst.device dst.address data.length

/-- The regions are as long as they were. -/
structure SameLengths (c c' : Copier) : Prop where
  devices : c'.devices.map List.length = c.devices.map List.length
  pool : c'.pool.length = c.pool.length

variable {c c' placed : Copier} {copy : Copy} {copying : Copying} {b : BlockRef} {e : Extent}
  {data : Bytes} {error : TransferError}

theorem SameLengths.refl (c : Copier) : c.SameLengths c := ⟨rfl, rfl⟩

theorem SameLengths.trans {c'' : Copier} (first : c.SameLengths c') (second : c'.SameLengths c'') :
    c.SameLengths c'' :=
  ⟨second.devices.trans first.devices, second.pool.trans first.pool⟩

theorem SameLengths.inDevice_iff (same : c.SameLengths c') {device address n : Nat} :
    c'.InDevice device address n ↔ c.InDevice device address n := by
  have lengths : (c'.devices[device]?).map List.length = (c.devices[device]?).map List.length := by
    rw [← List.getElem?_map, ← List.getElem?_map, same.devices]
  have long (c : Copier) : c.InDevice device address n ↔
      ∃ length, (c.devices[device]?).map List.length = some length ∧ address + n ≤ length := by
    simp only [InDevice, Option.map_eq_some_iff]
    constructor
    · rintro ⟨region, found, inside⟩
      exact ⟨_, ⟨region, found, rfl⟩, inside⟩
    · rintro ⟨_, ⟨region, found, rfl⟩, inside⟩
      exact ⟨region, found, inside⟩
  rw [long, long, lengths]

theorem exists_readDevice_iff :
    (∃ data, c.readDevice b = .ok data) ↔ c.InDevice b.device b.address b.size := by
  constructor
  · rintro ⟨data, read⟩
    obtain ⟨region, device, sliced⟩ := readDevice_eq_ok_iff.mp read
    exact ⟨region, device, (Bytes.slice?_eq_some_iff.mp sliced).2.1⟩
  · rintro ⟨region, device, inside⟩
    exact ⟨_, readDevice_eq_ok_iff.mpr ⟨region, device, if_pos inside⟩⟩

theorem exists_readPool_iff :
    (∃ data, c.readPool e = .ok data) ↔ e.offset + e.size ≤ c.pool.length := by
  constructor
  · rintro ⟨data, read⟩
    exact (Bytes.slice?_eq_some_iff.mp (readPool_eq_ok_iff.mp read)).2.1
  · intro inside
    obtain ⟨data, read, _⟩ := readPool_of_stop_le inside
    exact ⟨data, read⟩

theorem byte?_of_readDevice (read : c.readDevice b = .ok data) {i : Nat} (below : i < b.size) :
    c.byte? b.device (b.address + i) = data[i]? := by
  obtain ⟨region, device, sliced⟩ := readDevice_eq_ok_iff.mp read
  rw [byte?, device, Option.bind_some]
  exact (Bytes.slice?_eq_some_iff.mp sliced).2.2 i below

theorem getElem?_pool_of_readPool (read : c.readPool e = .ok data) {i : Nat} (below : i < e.size) :
    c.pool[e.offset + i]? = data[i]? :=
  (Bytes.slice?_eq_some_iff.mp (readPool_eq_ok_iff.mp read)).2.2 i below

theorem getElem?_pool_writePool (written : c.writePool e data = .ok c') (i : Nat) :
    c'.pool[i]? =
      if e.offset ≤ i ∧ i < e.offset + data.length then data[i - e.offset]? else c.pool[i]? := by
  obtain ⟨_, pool, spliced, rfl⟩ := writePool_eq_ok_iff.mp written
  exact Bytes.getElem?_splice? spliced i

/-! ### Beginnings -/

/-- What a copy that has begun holds of its source. -/
inductive Begins (c : Copier) : Copy → Copying → Prop
  | store {src : BlockRef} {dst : Extent} {data : Bytes} (size : src.size = dst.size)
    (read : c.readDevice src = .ok data) : Begins c (.store src dst) (.toPool data dst)
  | load {src : Extent} {dst : BlockRef} {data : Bytes} (read : c.readPool src = .ok data) :
    Begins c (.load src dst) (.toDevice data dst)
  | read {src : BlockRef} {data : Bytes} (read : c.readDevice src = .ok data) :
    Begins c (.read src) (.toBuffer data)
  | write (dst : BlockRef) (data : Bytes) : Begins c (.write dst data) (.toDevice data dst)

theorem begins_of_begin? (begun : c.begin? copy = .ok copying) : c.Begins copy copying := by
  cases copy with
  | store src dst =>
    rw [begin?] at begun
    split at begun
    · cases begun
    · rename_i size
      cases read : c.readDevice src <;> rw [read] at begun <;> cases begun
      exact .store (Classical.not_not.mp size) read
  | load src dst =>
    rw [begin?] at begun
    cases read : c.readPool src <;> rw [read] at begun <;> cases begun
    exact .load read
  | read src =>
    rw [begin?] at begun
    cases read : c.readDevice src <;> rw [read] at begun <;> cases begun
    exact .read read
  | write dst data =>
    cases begun
    exact .write dst data

/-- A copy that cannot begin does not fit. -/
theorem not_fits_of_begin? (failed : c.begin? copy = .error error) : ¬ c.Fits copy := by
  intro fits
  cases copy with
  | store src dst =>
    obtain ⟨size, inside, _⟩ := fits
    obtain ⟨data, read⟩ := exists_readDevice_iff.mpr inside
    rw [begin?, if_neg (not_not_intro size), read] at failed
    cases failed
  | load src dst =>
    obtain ⟨data, read⟩ := exists_readPool_iff.mpr fits.2.1
    rw [begin?, read] at failed
    cases failed
  | read src =>
    obtain ⟨data, read⟩ := exists_readDevice_iff.mpr fits
    rw [begin?, read] at failed
    cases failed
  | write dst data => cases failed

theorem Begins.length (begins : c.Begins copy copying) : copying.data.length = copy.length := by
  cases begins with
  | store size read | read read => exact length_readDevice read
  | load read => exact length_readPool read
  | write dst data => rfl

theorem Begins.direction (begins : c.Begins copy copying) : copying.direction = copy.direction := by
  cases begins <;> rfl

theorem Begins.source? (begins : c.Begins copy copying) {i : Nat} (below : i < copy.length) :
    c.source? copy i = copying.data[i]? := by
  cases begins with
  | store size read | read read => exact byte?_of_readDevice read below
  | load read => exact getElem?_pool_of_readPool read below
  | write dst data => rfl

/-! ### Endings -/

/-- The destination can be written later iff the copy fitted when it began. -/
theorem Begins.place_iff (begins : c.Begins copy copying) (same : c.SameLengths c') :
    (∃ placed, c'.place copying = .ok placed) ↔ c.Fits copy := by
  cases begins with
  | @store src dst data size read =>
    have inside := exists_readDevice_iff.mp ⟨data, read⟩
    have length := (length_readDevice read).trans size
    rw [Fits, ← same.pool]
    constructor
    · rintro ⟨placed, written⟩
      have stop := stop_le_of_writePool written
      rw [length_writePool written] at stop
      exact ⟨size, inside, stop⟩
    · rintro ⟨_, _, stop⟩
      exact writePool_of_stop_le length stop
  | @load src dst data read =>
    have inside := exists_readPool_iff.mp ⟨data, read⟩
    have accepts : c'.Accepts dst data.length ↔
        ∃ placed, c'.place (.toDevice data dst) = .ok placed := accepts_iff
    rw [length_readPool read] at accepts
    rw [Fits, ← same.inDevice_iff]
    exact accepts.symm.trans ⟨fun h => ⟨h.1, inside, h.2⟩, fun h => ⟨h.1, h.2.2⟩⟩
  | @read src data read =>
    exact ⟨fun _ => exists_readDevice_iff.mp ⟨data, read⟩, fun _ => ⟨c', rfl⟩⟩
  | write dst data =>
    rw [Fits, ← same.inDevice_iff]
    exact accepts_iff.symm

/-- The destination has the bytes, and each other byte is what it was. -/
structure Moved (before after : Copier) (copy : Copy) (data : Bytes) : Prop where
  target : ∀ i < copy.length, ∀ place ∈ copy.target? i, after.at? place = data[i]?
  others : ∀ place, (∀ i < copy.length, copy.target? i ≠ some place) →
    after.at? place = before.at? place

theorem moved_writePool {src : BlockRef} (size : data.length = src.size)
    (written : c.writePool e data = .ok c') : c.Moved c' (.store src e) data := by
  constructor
  · intro i below place goes
    cases goes
    rw [at?, getElem?_pool_writePool written, if_pos (by rw [Copy.length] at below; omega),
      Nat.add_sub_cancel_left]
  · intro place elsewhere
    cases place with
    | device device i => simp only [at?, byte?, devices_writePool written]
    | pool i =>
      rw [at?, at?, getElem?_pool_writePool written, if_neg]
      rintro ⟨low, high⟩
      refine elsewhere (i - e.offset) (by rw [Copy.length]; omega) ?_
      rw [Copy.target?, Nat.add_sub_cancel' low]

theorem moved_writeDevice (goes : copy.target? = fun i => some (.device b.device (b.address + i)))
    (size : data.length = copy.length) (written : c.writeDevice b data = .ok c') :
    c.Moved c' copy data := by
  constructor
  · intro i below place here
    rw [goes] at here
    cases here
    rw [at?, byte?_writeDevice written, if_pos ⟨rfl, by omega, by omega⟩, Nat.add_sub_cancel_left]
  · intro place elsewhere
    cases place with
    | device device i =>
      rw [at?, at?, byte?_writeDevice written, if_neg]
      rintro ⟨rfl, low, high⟩
      refine elsewhere (i - b.address) (by omega) ?_
      rw [goes]
      simp only [Nat.add_sub_cancel' low]
    | pool i => simp only [at?, pool_writeDevice written]

theorem Begins.moved (begins : c.Begins copy copying) (written : c'.place copying = .ok placed) :
    c'.Moved placed copy copying.data := by
  have length := begins.length
  cases begins with
  | store size read => exact moved_writePool length written
  | load read => exact moved_writeDevice rfl length written
  | read read =>
    cases written
    exact ⟨fun _ _ _ goes => (nomatch goes), fun _ _ => rfl⟩
  | write dst data => exact moved_writeDevice rfl length written

theorem sameLengths_place (written : c.place copying = .ok placed) : c.SameLengths placed := by
  cases copying with
  | toPool data dst =>
    refine ⟨?_, length_writePool written⟩
    rw [devices_writePool written]
  | toDevice data dst =>
    refine ⟨?_, congrArg List.length (pool_writeDevice written)⟩
    obtain ⟨_, region, result, device, spliced, rfl⟩ := writeDevice_eq_ok_iff.mp written
    obtain ⟨below, rfl⟩ := List.getElem?_eq_some_iff.mp device
    have mapped : dst.device < (c.devices.map List.length).length := by rwa [List.length_map]
    have own : (c.devices.map List.length)[dst.device] = result.length := by
      rw [List.getElem_map, Bytes.length_splice? spliced]
    rw [List.map_set, ← own, List.set_getElem_self]
  | toBuffer data =>
    cases written
    exact .refl c

theorem stats_place (written : c.place copying = .ok placed) : placed.stats = c.stats := by
  cases copying with
  | toPool data dst =>
    obtain ⟨_, _, _, rfl⟩ := writePool_eq_ok_iff.mp written
    rfl
  | toDevice data dst =>
    obtain ⟨_, _, _, _, _, rfl⟩ := writeDevice_eq_ok_iff.mp written
    rfl
  | toBuffer data =>
    cases written
    rfl

end Copier

end BlockTier
