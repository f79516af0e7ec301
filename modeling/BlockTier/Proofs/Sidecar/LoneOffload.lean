import BlockTier.Proofs.Sidecar.LoneFetch
import BlockTier.Proofs.Sidecar.LoneSend
/-!
An offload that runs alone. It leaves the bytes of the block in one of the tiers, and an older copy
stays in the first tier only if the block is too long for it.
-/
namespace BlockTier.Sidecar.Deployment

variable {d d' : Deployment} {key : String} {block : BlockRef} {data : Bytes} {s : Status}

theorem mirrored_carry (d : Deployment) (key : String) :
    ∃ d' s, d.carry (.entering (.read key .writeThrough)) = (d', .status s) ∧ s.success = true ∧
      d.Steady d' := by
  rw [carry_eq]
  simp only [resume, enter]
  cases (d.wake (.entering (.read key .writeThrough))).tier.read? key with
  | none => exact ⟨_, _, rfl, rfl, d.fleet, rfl⟩
  | some data =>
    obtain ⟨d', s, ended, sent⟩ :=
      sent_sendFor (d.wake (.entering (.read key .writeThrough))).unlock key data .writeThrough
    rw [afterRead, ended]
    exact ⟨_, _, rfl, rfl, sent.steady⟩

/-- A block that is in the first tier stays there whatever becomes of its copy in the second. -/
theorem stored_afterPut (d : Deployment) (key : String) (block : BlockRef)
    (success : s.success = true) :
    ∃ d' s', conclude (d.afterPut key block .offload s) = (d', .status s') ∧ s'.success = true ∧
      d.Steady d' := by
  simp only [afterPut, success, ↓reduceIte]
  split
  · exact ⟨_, _, rfl, rfl, d.fleet, rfl⟩
  · simp only [conclude, arrive]
    obtain ⟨d', s', carried, stored, steady⟩ := mirrored_carry
      { d.countTally (fun t => { t with offloadsL1 := t.offloadsL1 + 1 }) with
        lock := d.lock.request 0 } key
    exact ⟨d', s', carried, stored, steady⟩

theorem Sent.afterSend (sent : d.Sent key data d' s) (rejection : String) :
    ∃ d'' s', conclude (d'.afterSend (.fallback rejection) s) = (d'', .status s') ∧
      d.Sent key data d'' s' := by
  have continues := d'.continues_afterSend (.fallback rejection) s
  have backs := Backs.of_core continues.core
  have steady := sent.steady.trans (.of_core continues.core)
  simp only [Deployment.afterSend] at steady backs ⊢
  split at steady
  · rename_i success
    rw [if_pos success] at backs ⊢
    exact ⟨_, _, rfl, steady, fun lawful _ => backs.brings.mpr (sent.brings lawful success)⟩
  · rename_i failure
    rw [if_neg failure]
    exact ⟨_, _, rfl, steady, fun _ success => absurd success failure⟩

theorem fallen_carry (d : Deployment) (key : String) (data : Bytes) (rejection : String)
    (due : Nat) :
    ∃ d' s, d.carry (.copying (.toBuffer data) (.fallback key rejection) due) = (d', .status s) ∧
      d.Sent key data d' s := by
  rw [carry_eq]
  simp only [resume, wake, Copier.finish, Copier.place, afterCopy]
  obtain ⟨d', s, ended, sent⟩ := sent_sendFor _ key data (.fallback rejection)
  obtain ⟨d'', s', answered, sent⟩ := sent.afterSend rejection
  exact ⟨d'', s', ended.trans answered, sent.steady, sent.brings⟩

theorem fallen_afterPut (d : Deployment) (key : String) (block : BlockRef)
    (failure : s.success = false) :
    ∃ d' s', conclude (d.afterPut key block .offload s) = (d', .status s') ∧
      (s'.success = true → ∃ data, d.tier.copier.readDevice block = .ok data ∧
        d.Sent key data d' s') := by
  simp only [afterPut, failure, Bool.false_eq_true, ↓reduceIte, startCopy, Copier.start,
    Copier.begin?]
  cases read : d.tier.copier.readDevice block with
  | error e => exact ⟨_, _, rfl, fun success => by cases success⟩
  | ok data =>
    obtain ⟨d', s', carried, sent⟩ := fallen_carry d key data s.message d.copyDue
    exact ⟨d', s', carried, fun _ => ⟨data, rfl, sent⟩⟩

/-- What becomes of an offload of a block that is not resident with its size. -/
inductive Offloaded (d : Deployment) (key : String) (block : BlockRef) : Deployment × Answer → Prop
  | stored (d' : Deployment) (s : Status) (e : Extent) (data : Bytes)
    (read : d.tier.copier.readDevice block = .ok data)
    (fits : block.size ≤ d.tier.cache.allocator.capacity)
    (found : d'.tier.cache.find? key = some e) (held : d'.tier.copier.readPool e = .ok data)
    (devices : d'.tier.copier.devices = d.tier.copier.devices)
    (timeout : d'.defaultTimeout = d.defaultTimeout) : Offloaded d key block (d', .status s)
  | sent (d' : Deployment) (s : Status) (data : Bytes)
    (read : d.tier.copier.readDevice block = .ok data) (brings : d'.Brings key data)
    (kept : d'.tier.cache.find? key =
      if d.tier.cache.allocator.capacity < block.size then d.tier.cache.find? key else none)
    (pool : d'.tier.copier.pool = d.tier.copier.pool)
    (devices : d'.tier.copier.devices = d.tier.copier.devices)
    (timeout : d'.defaultTimeout = d.defaultTimeout) : Offloaded d key block (d', .status s)
  | failed (d' : Deployment) (s : Status) (failure : s.success = false) :
    Offloaded d key block (d', .status s)

/-- A block that has its extent is stored, since the pool has room for all of the tier. -/
theorem offloaded_storing {e : Extent} (copier : d'.tier.copier = d.tier.copier)
    (timeout : d'.defaultTimeout = d.defaultTimeout)
    (read : d.tier.copier.readDevice block = .ok data) (size : block.size = e.size)
    (fits : block.size ≤ d.tier.cache.allocator.capacity)
    (inside : e.stop ≤ d.tier.copier.pool.length)
    (evicted due : Nat) :
    d.Offloaded key block
      (d'.carry (.storing ⟨key, e, .toPool data e, evicted⟩ block .offload due)) := by
  have ends := d'.tier.finishPut_ends ⟨key, e, .toPool data e, evicted⟩
  have devices := ends.devices ⟨data, rfl⟩
  rw [copier] at devices
  rw [carry_eq]
  simp only [resume, wake]
  cases ended : d'.tier.finishPut ⟨key, e, .toPool data e, evicted⟩ with
  | mk tier s =>
    rw [ended] at ends devices
    cases ends with
    | stored placed copier status written same success =>
      dsimp only
      obtain ⟨d'', s', answered, _, steady⟩ := stored_afterPut _ key block success
      rw [answered]
      refine .stored d'' s' e data read fits ?_ ?_ (steady.devices.trans devices)
        (steady.defaultTimeout.trans timeout)
      · rw [steady.cache]
        exact (L1.Cache.find?_commitPut _ key e key).trans (if_pos rfl)
      · rw [Copier.readPool_congr (steady.pool.trans same.pool)]
        exact Copier.readPool_writePool written
    | failed error unwritten =>
      obtain ⟨placed, written⟩ := Copier.writePool_of_stop_le
        ((Copier.length_readDevice read).trans size) inside
      rw [Copier.place, copier, written] at unwritten
      cases unwritten

theorem offloaded_fallen {tier : L1.Tier} {after : Deployment}
    (lawful : d.l2.codec.scheme.Lawful) (here : after.tier = tier) (l2 : after.l2 = d.l2)
    (timeout : after.defaultTimeout = d.defaultTimeout)
    (regions : d.tier.copier.SameRegions tier.copier)
    (kept : tier.cache.find? key =
      if d.tier.cache.allocator.capacity < block.size then d.tier.cache.find? key else none)
    (failure : s.success = false) :
    d.Offloaded key block (conclude (after.afterPut key block .offload s)) := by
  obtain ⟨d', s', answered, sent⟩ := fallen_afterPut after key block failure
  rw [answered]
  cases success : s'.success with
  | false => exact .failed d' s' success
  | true =>
    obtain ⟨data, read, sent⟩ := sent success
    subst here
    rw [Copier.readDevice_congr regions.devices] at read
    refine .sent d' s' data read (sent.brings (l2 ▸ lawful) success) ?_
      (sent.steady.pool.trans regions.pool) (sent.steady.devices.trans regions.devices)
      (sent.steady.defaultTimeout.trans timeout)
    rw [sent.steady.cache]
    exact kept

/-- A block that cannot be read is not offloaded at all: the second tier would read the same. -/
theorem offloaded_unread {after : Deployment} {e : Extent} {error : TransferError}
    (devices : after.tier.copier.devices = d.tier.copier.devices) (size : e.size = block.size)
    (unread : d.tier.copier.begin? (.store block e) = .error error) (failure : s.success = false) :
    d.Offloaded key block (conclude (after.afterPut key block .offload s)) := by
  obtain ⟨d', s', answered, sent⟩ := fallen_afterPut after key block failure
  rw [answered]
  cases success : s'.success with
  | false => exact .failed d' s' success
  | true =>
    obtain ⟨data, read, _⟩ := sent success
    rw [Copier.readDevice_congr devices] at read
    have begun := L1.Tier.begin?_store_eq_ok_iff.mpr ⟨data, read, size.symm, rfl⟩
    rw [unread] at begun
    cases begun

theorem offloaded_carry (consistent : d.tier.cache.Consistent none)
    (roomy : d.tier.cache.allocator.capacity ≤ d.tier.copier.pool.length)
    (lawful : d.l2.codec.scheme.Lawful) (positive : 0 < block.size)
    (other : (d.tier.cache.find? key).map (·.size) ≠ some block.size) :
    d.Offloaded key block (d.carry (.entering (.put key block .offload))) := by
  have begun := consistent.beginPut key block.size
  have begins := d.tier.beginPut_begins key block
  rw [carry_eq]
  simp only [resume, wake, enter]
  cases started : d.tier.beginPut key block with
  | mk tier out =>
    rw [started] at begins
    cases begins with
    | resident e s found size success =>
      rw [found, Option.map_some, size] at other
      exact absurd rfl other
    | refused refusal refused =>
      refine offloaded_fallen lawful rfl rfl rfl (.refl _) ?_ ?_
      · split
        · rename_i exceeds
          obtain ⟨refusal', rejected⟩ := L1.Cache.beginPut_of_exceeds other exceeds
          rw [rejected]
          rfl
        · rename_i fits
          exact L1.Cache.find?_beginPut_of_refused consistent positive (by omega) refused
      · cases refusal <;> rfl
    | unread e evicted error taken unread =>
      have size := begun.size_eq e evicted taken
      exact offloaded_unread rfl size unread rfl
    | reading e evicted data taken read size =>
      have fits := L1.Cache.fits_of_acquired other taken
      have reserved := begun.consistent
      rw [taken] at reserved
      have inside : e.stop ≤ d.tier.copier.pool.length := by
        refine Nat.le_trans reserved.reserved_stop_le ?_
        rw [begun.shrinks.capacity]
        exact roomy
      dsimp only [conclude, arrive]
      refine offloaded_storing ?_ ?_ read size fits inside evicted _
      · rfl
      · rfl

theorem Offloaded.of_same {r : Deployment × Answer} (offloaded : d'.Offloaded key block r)
    (tier : d'.tier = d.tier) (timeout : d'.defaultTimeout = d.defaultTimeout) :
    d.Offloaded key block r := by
  cases offloaded with
  | stored d'' s e data read fits found held devices timeout' =>
    rw [tier] at read fits devices
    exact .stored d'' s e data read fits found held devices (timeout'.trans timeout)
  | sent d'' s data read brings kept pool devices timeout' =>
    rw [tier] at read kept pool devices
    exact .sent d'' s data read brings kept pool devices (timeout'.trans timeout)
  | failed d'' s failure => exact .failed d'' s failure

theorem offloaded_complete (consistent : d.tier.cache.Consistent none)
    (roomy : d.tier.cache.allocator.capacity ≤ d.tier.copier.pool.length)
    (lawful : d.l2.codec.scheme.Lawful) (named : key.isEmpty = false) (positive : 0 < block.size)
    (other : (d.tier.cache.find? key).map (·.size) ≠ some block.size) (timeout : Option Nat) :
    d.Offloaded key block (d.complete (.offload key block timeout)) := by
  have accepted := refusal?_eq_none_iff.mpr ⟨named, positive⟩
  simp only [complete, begin, accepted, conclude, arrive]
  apply Offloaded.of_same
  · exact offloaded_carry consistent roomy lawful positive other
  · rfl
  · rfl

end BlockTier.Sidecar.Deployment
