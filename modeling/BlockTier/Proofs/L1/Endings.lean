import BlockTier.Proofs.L1.TierSteps
import BlockTier.Proofs.L1.Turns
/-!
How a put that has to copy its block can end. Its copy is done, fails or is dropped; whichever it
is, what the turns of the put have left is all that is left but for the new copy.
-/
namespace BlockTier.L1

namespace Cache

variable {c : Cache} {size evicted : Nat} {key : String} {e : Extent}

theorem beginPut_of_acquired (acquired : (c.beginPut key size).2 = .acquired e evicted) :
    ∃ allocator, (c.after (c.turnsToPut key size)).allocator.allocate size = .ok (e, allocator) ∧
      (c.beginPut key size).1 = { c.after (c.turnsToPut key size) with allocator } := by
  have begun := c.begun_beginPut key size
  generalize c.beginPut key size = left at begun acquired
  cases begun with
  | resident e' found same => cases acquired
  | refused refusal => cases acquired
  | acquired e' evicted' allocator allocated =>
    cases acquired
    exact ⟨allocator, allocated, rfl⟩

theorem beginPut_of_refused {refusal : Refusal}
    (refused : (c.beginPut key size).2 = .refused refusal) :
    (c.beginPut key size).1 = (c.after (c.turnsToPut key size)).countRejection := by
  have begun := c.begun_beginPut key size
  generalize c.beginPut key size = left at begun refused
  cases begun with
  | resident e' found same => cases refused
  | refused refusal' => rfl
  | acquired e' evicted' allocator allocated => cases refused

end Cache

namespace Tier

inductive Ending
  | stored | failed | dropped
  deriving DecidableEq

/-- While a put waits the pool stays as it is outside of its extent. -/
def Awaits (t : Tier) (s : Storing) (copier : Copier) : Prop :=
  ∀ x, s.extent.Apart x → copier.readPool x = t.copier.readPool x

/-- How a put of the block can end. It fails as it begins; its copy is done or cannot be written,
or is given up for another reason; or it is dropped while it waits. -/
inductive Puts (t : Tier) (key : String) (block : BlockRef) : Ending → Tier → Prop
  | rejected {t' : Tier} {s : Status} (begun : t.beginPut key block = (t', .inl s))
    (failure : s.success = false) : Puts t key block .failed t'
  | stored {t' : Tier} {s : Storing} {copier : Copier}
    (begun : t.beginPut key block = (t', .inr s)) (awaits : t'.Awaits s copier)
    (success : (finishPut { t' with copier } s).2.success = true) :
    Puts t key block .stored (finishPut { t' with copier } s).1
  | unwritten {t' : Tier} {s : Storing} {copier : Copier}
    (begun : t.beginPut key block = (t', .inr s)) (awaits : t'.Awaits s copier)
    (failure : (finishPut { t' with copier } s).2.success = false) :
    Puts t key block .failed (finishPut { t' with copier } s).1
  | failed {t' : Tier} {s : Storing} {copier : Copier}
    (begun : t.beginPut key block = (t', .inr s)) (awaits : t'.Awaits s copier) :
    Puts t key block .failed ⟨t'.cache.failPut s.extent, copier⟩
  | dropped {t' : Tier} {s : Storing} {copier : Copier}
    (begun : t.beginPut key block = (t', .inr s)) (awaits : t'.Awaits s copier) :
    Puts t key block .dropped (abandonPut { t' with copier } s)

variable {t t' : Tier} {key : String} {block : BlockRef} {ending : Ending} {s : Storing}
  {copier : Copier}

/-- What the turns of a put of the block have left. -/
abbrev cleared (t : Tier) (key : String) (block : BlockRef) : Cache :=
  t.cache.after (t.cache.turnsToPut key block.size)

/-- A put that waits has its extent and nothing else. -/
structure Waits (t : Tier) (key : String) (block : BlockRef) (t' : Tier) (s : Storing) : Prop where
  allocated : ∃ allocator,
    (t.cleared key block).allocator.allocate block.size = .ok (s.extent, allocator) ∧
      t'.cache = { t.cleared key block with allocator }
  copier : t'.copier = t.copier
  key : s.key = key
  copying : ∃ data, s.copying = .toPool data s.extent

/-- A put of a block that is not there in its size always comes to one of these endings: it fails as
it begins, or it waits, and then its copy is done or not or the put is dropped. -/
theorem puts_of_other (other : (t.cache.find? key).map (·.size) ≠ some block.size) :
    (∃ t' s, t.beginPut key block = (t', .inl s) ∧ s.success = false ∧
        t.Puts key block .failed t') ∨
      ∃ t' s, t.beginPut key block = (t', .inr s) ∧ ∀ copier, t'.Awaits s copier →
        t.Puts key block
            (if (finishPut { t' with copier } s).2.success = true then .stored else .failed)
            (finishPut { t' with copier } s).1 ∧
          t.Puts key block .dropped (abandonPut { t' with copier } s) := by
  have begins := t.beginPut_begins key block
  cases begun : t.beginPut key block with
  | mk t' out =>
    rw [begun] at begins
    cases out with
    | inl s =>
      have failure : s.success = false := by
        cases begins with
        | resident e s found size success =>
          rw [found, Option.map_some, size] at other
          exact absurd rfl other
        | refused refusal refused => cases refusal <;> rfl
        | unread e evicted error taken unread => rfl
      exact Or.inl ⟨t', s, rfl, failure, .rejected begun failure⟩
    | inr s =>
      refine Or.inr ⟨t', s, rfl, fun copier awaits => ⟨?_, .dropped begun awaits⟩⟩
      cases success : (finishPut { t' with copier } s).2.success with
      | true => exact .stored begun awaits success
      | false => exact .unwritten begun awaits success

theorem waits_of_begun (begun : t.beginPut key block = (t', .inr s)) :
    t.Waits key block t' s := by
  have begins := t.beginPut_begins key block
  rw [begun] at begins
  cases begins with
  | reading e evicted data taken read size =>
    exact ⟨Cache.beginPut_of_acquired taken, rfl, rfl, data, rfl⟩

theorem Waits.dropped (waits : t.Waits key block t' s) (h : t.cache.Consistent none) :
    t'.cache.dropPut s.extent = t.cleared key block := by
  obtain ⟨allocator, allocated, left⟩ := waits.allocated
  rw [left]
  exact Cache.dropPut_allocated (h.after _).pool allocated

theorem Waits.failed (waits : t.Waits key block t' s) (h : t.cache.Consistent none) :
    t'.cache.failPut s.extent = (t.cleared key block).countRejection := by
  rw [Cache.failPut, waits.dropped h]

theorem Waits.apart (waits : t.Waits key block t' s) (h : t.cache.Consistent none) {k : String}
    {x : Extent} (found : (t.cleared key block).find? k = some x) : s.extent.Apart x := by
  obtain ⟨allocator, allocated, left⟩ := waits.allocated
  exact ((h.after _).reserve allocated).apart_reserved found

theorem Waits.readPool (waits : t.Waits key block t' s) (h : t.cache.Consistent none)
    (awaits : t'.Awaits s copier) {k : String} {x : Extent}
    (found : (t.cleared key block).find? k = some x) :
    copier.readPool x = t.copier.readPool x := by
  rw [awaits x (waits.apart h found), waits.copier]

theorem cache_of_rejected (h : t.cache.Consistent none) {s : Status}
    (begun : t.beginPut key block = (t', .inl s)) (failure : s.success = false) :
    t'.cache = (t.cleared key block).countRejection ∧ t'.copier.pool = t.copier.pool := by
  have begins := t.beginPut_begins key block
  rw [begun] at begins
  cases begins with
  | resident e s found size success =>
    rw [success] at failure
    cases failure
  | refused refusal refused => exact ⟨Cache.beginPut_of_refused refused, rfl⟩
  | unread e evicted error taken unread =>
    refine ⟨?_, rfl⟩
    rw [Cache.failPut, Cache.dropPut_beginPut h taken]

theorem Puts.unstored (puts : t.Puts key block ending t') (h : t.cache.Consistent none)
    (unstored : ending ≠ .stored) :
    (t'.cache = t.cleared key block ∨ t'.cache = (t.cleared key block).countRejection) ∧
      ∀ k x, (t.cleared key block).find? k = some x →
        t'.copier.readPool x = t.copier.readPool x := by
  cases puts with
  | rejected begun failure =>
    obtain ⟨cache, pool⟩ := cache_of_rejected h begun failure
    exact ⟨Or.inr cache, fun _ _ _ => Copier.readPool_congr pool⟩
  | stored begun awaits success => exact absurd rfl unstored
  | @unwritten t' s copier begun awaits failure =>
    have waits := waits_of_begun begun
    have ends := finishPut_ends { t' with copier } s
    generalize finishPut { t' with copier } s = left at ends failure
    cases ends with
    | stored placed copier' status written same success =>
      rw [success] at failure
      cases failure
    | failed e unwritten =>
      exact ⟨Or.inr (waits.failed h), fun _ _ found => waits.readPool h awaits found⟩
  | failed begun awaits =>
    have waits := waits_of_begun begun
    exact ⟨Or.inr (waits.failed h), fun _ _ found => waits.readPool h awaits found⟩
  | dropped begun awaits =>
    have waits := waits_of_begun begun
    exact ⟨Or.inl (waits.dropped h), fun _ _ found => waits.readPool h awaits found⟩

/-- A put that has stored its block has mapped it to the extent that was free for it when its turns
were over. -/
theorem Puts.stored_cases (puts : t.Puts key block .stored t') (h : t.cache.Consistent none) :
    ∃ e allocator,
      (t.cleared key block).allocator.allocate block.size = .ok (e, allocator) ∧
      t'.cache = ({ t.cleared key block with allocator } : Cache).commitPut key e ∧
      ∀ k x, (t.cleared key block).find? k = some x →
        t'.copier.readPool x = t.copier.readPool x := by
  cases puts with
  | @stored t' s copier begun awaits success =>
    have waits := waits_of_begun begun
    obtain ⟨allocator, allocated, left⟩ := waits.allocated
    obtain ⟨data, copying⟩ := waits.copying
    have ends := finishPut_ends { t' with copier } s
    generalize finishPut { t' with copier } s = ended at ends success
    cases ends with
    | stored placed copier' status written same success =>
      rw [copying] at written
      refine ⟨s.extent, allocator, allocated, ?_, fun k x found => ?_⟩
      · rw [← left, ← waits.key]
      · rw [Copier.readPool_congr same.pool,
          Copier.readPool_writePool_apart written (waits.apart h found)]
        exact waits.readPool h awaits found
    | failed e unwritten => cases success

end Tier

end BlockTier.L1
