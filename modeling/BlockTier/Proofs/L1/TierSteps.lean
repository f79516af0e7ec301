import BlockTier.L1.Tier
import BlockTier.Proofs.Regions
/-!
How an operation of the tier begins and how it ends, with all that it leaves in the cache and in
memory.
-/
namespace BlockTier

/-- The regions are the same, whatever the counts of copies are. -/
structure Copier.SameRegions (c c' : Copier) : Prop where
  devices : c'.devices = c.devices
  pool : c'.pool = c.pool
  latency : c'.latency = c.latency

theorem Copier.SameRegions.refl (c : Copier) : c.SameRegions c := ⟨rfl, rfl, rfl⟩

theorem Copier.sameRegions_countFailure (c : Copier) : c.SameRegions c.countFailure :=
  ⟨rfl, rfl, rfl⟩

theorem Copier.sameRegions_start (c : Copier) (copy : Copy) : c.SameRegions (c.start copy).1 := by
  unfold start
  split
  · exact .refl c
  · exact c.sameRegions_countFailure

theorem Copier.finish_eq (c : Copier) (copying : Copying) :
    (∃ placed, c.place copying = .ok placed ∧ placed.SameRegions (c.finish copying).1 ∧
        (c.finish copying).2 = .ok copying.report) ∨
      ∃ e, c.place copying = .error e ∧ c.finish copying = (c.countFailure, .error e) := by
  unfold finish
  cases c.place copying with
  | ok placed => exact Or.inl ⟨placed, rfl, ⟨rfl, rfl, rfl⟩, rfl⟩
  | error e => exact Or.inr ⟨e, rfl, rfl⟩

namespace L1

theorem Cache.beginPut_of_resident {c : Cache} {key : String} {e : Extent} {size : Nat}
    (found : c.find? key = some e) (same : e.size = size) :
    (c.beginPut key size).2 = .resident size := by
  rw [Cache.beginPut, if_pos]
  rw [← Cache.find?, found, Option.map_some, same]

namespace Tier

variable {t : Tier} {key : String} {block dest : BlockRef}

/-- How a put begins: the block is there, no extent is free for it, it cannot be read, or the put
waits with an extent for its copy. -/
inductive PutBegins (t : Tier) (key : String) (block : BlockRef) :
    Tier × (Status ⊕ Storing) → Prop
  | resident (e : Extent) (s : Status) (found : t.cache.find? key = some e)
    (size : e.size = block.size) (success : s.success = true) :
    PutBegins t key block ({ t with cache := (t.cache.beginPut key block.size).1 }, .inl s)
  | refused (refusal : Refusal)
    (refused : (t.cache.beginPut key block.size).2 = .refused refusal) :
    PutBegins t key block
      ({ t with cache := (t.cache.beginPut key block.size).1 }, .inl refusal.status)
  | unread (e : Extent) (evicted : Nat) (error : TransferError)
    (taken : (t.cache.beginPut key block.size).2 = .acquired e evicted)
    (unread : t.copier.begin? (.store block e) = .error error) :
    PutBegins t key block
      (⟨(t.cache.beginPut key block.size).1.failPut e, t.copier.countFailure⟩,
        .inl (transferFailure error))
  | reading (e : Extent) (evicted : Nat) (data : Bytes)
    (taken : (t.cache.beginPut key block.size).2 = .acquired e evicted)
    (read : t.copier.readDevice block = .ok data) (size : block.size = e.size) :
    PutBegins t key block
      ({ t with cache := (t.cache.beginPut key block.size).1 },
        .inr ⟨key, e, .toPool data e, evicted⟩)

theorem begin?_store_eq_ok_iff {c : Copier} {e : Extent} {copying : Copying} :
    c.begin? (.store block e) = .ok copying ↔
      ∃ data, c.readDevice block = .ok data ∧ block.size = e.size ∧ copying = .toPool data e := by
  simp only [Copier.begin?]
  constructor
  · intro begun
    split at begun
    · cases begun
    · rename_i size
      cases read : c.readDevice block with
      | error e =>
        rw [read] at begun
        cases begun
      | ok data =>
        rw [read] at begun
        cases begun
        exact ⟨data, rfl, by simpa using size, rfl⟩
  · rintro ⟨data, read, size, rfl⟩
    rw [if_neg (not_not_intro size), read]
    rfl

theorem beginPut_begins (t : Tier) (key : String) (block : BlockRef) :
    t.PutBegins key block (t.beginPut key block) := by
  have resident (size : Nat) (there : (t.cache.beginPut key block.size).2 = .resident size) :
      ∃ e, t.cache.find? key = some e ∧ e.size = block.size := by
    unfold Cache.beginPut at there
    split at there
    · rename_i same
      exact Option.map_eq_some_iff.mp same
    · split at there <;> cases there
  unfold Tier.beginPut
  cases begun : t.cache.beginPut key block.size with
  | mk cache start =>
    have first : cache = (t.cache.beginPut key block.size).1 := by rw [begun]
    have second : (t.cache.beginPut key block.size).2 = start := by rw [begun]
    subst first
    cases start with
    | resident size =>
      obtain ⟨e, found, same⟩ := resident size second
      exact .resident e _ found same rfl
    | refused refusal => exact .refused refusal second
    | acquired e evicted =>
      simp only [Copier.start]
      cases copying : t.copier.begin? (.store block e) with
      | ok copying =>
        obtain ⟨data, read, size, rfl⟩ := begin?_store_eq_ok_iff.mp copying
        exact .reading e evicted data second read size
      | error error => exact .unread e evicted error second copying

inductive PutEnds (t : Tier) (s : Storing) : Tier × Status → Prop
  | stored (placed copier : Copier) (status : Status)
    (written : t.copier.place s.copying = .ok placed) (same : placed.SameRegions copier)
    (success : status.success = true) :
    PutEnds t s (⟨t.cache.commitPut s.key s.extent, copier⟩, status)
  | failed (e : TransferError) (unwritten : t.copier.place s.copying = .error e) :
    PutEnds t s (⟨t.cache.failPut s.extent, t.copier.countFailure⟩, transferFailure e)

theorem finishPut_ends (t : Tier) (s : Storing) : t.PutEnds s (t.finishPut s) := by
  unfold finishPut
  rcases t.copier.finish_eq s.copying with ⟨placed, written, same, report⟩ | ⟨e, unwritten, ended⟩
  · rw [show t.copier.finish s.copying = ((t.copier.finish s.copying).1, .ok s.copying.report) from
      Prod.ext rfl report]
    exact .stored placed _ _ written same rfl
  · rw [ended]
    exact .failed e unwritten

/-- How a get begins: the key is absent, its bytes cannot be read, or the get waits with them. -/
inductive GetBegins (t : Tier) (key : String) (dest : BlockRef) :
    Tier × (Status ⊕ Loading) → Prop
  | miss (absent : t.cache.find? key = none) :
    GetBegins t key dest ({ t with cache := t.cache.countMiss }, .inl (.notFound "L1 miss"))
  | unread (e : Extent) (error : TransferError) (found : t.cache.find? key = some e)
    (unread : t.copier.readPool e = .error error) :
    GetBegins t key dest ({ t with copier := t.copier.countFailure }, .inl (transferFailure error))
  | reading (e : Extent) (data : Bytes) (found : t.cache.find? key = some e)
    (read : t.copier.readPool e = .ok data) :
    GetBegins t key dest (t, .inr ⟨key, e.size, .toDevice data dest⟩)

theorem beginGet_begins (t : Tier) (key : String) (dest : BlockRef) :
    t.GetBegins key dest (t.beginGet key dest) := by
  unfold Tier.beginGet
  cases found : t.cache.find? key with
  | none => exact .miss found
  | some e =>
    simp only [Copier.start, Copier.begin?]
    cases read : t.copier.readPool e with
    | ok data => exact .reading e data found read
    | error error => exact .unread e error found read

inductive GetEnds (t : Tier) (l : Loading) : Tier × Status → Prop
  | loaded (placed copier : Copier) (status : Status)
    (written : t.copier.place l.copying = .ok placed) (same : placed.SameRegions copier)
    (success : status.success = true) :
    GetEnds t l (⟨t.cache.commitGet l.key, copier⟩, status)
  | failed (e : TransferError) (unwritten : t.copier.place l.copying = .error e) :
    GetEnds t l ({ t with copier := t.copier.countFailure }, transferFailure e)

theorem finishGet_ends (t : Tier) (l : Loading) : t.GetEnds l (t.finishGet l) := by
  unfold finishGet
  rcases t.copier.finish_eq l.copying with ⟨placed, written, same, report⟩ | ⟨e, unwritten, ended⟩
  · rw [show t.copier.finish l.copying = ((t.copier.finish l.copying).1, .ok l.copying.report) from
      Prod.ext rfl report]
    exact .loaded placed _ _ written same rfl
  · rw [ended]
    exact .failed e unwritten

end Tier

end L1

end BlockTier
