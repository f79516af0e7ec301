import BlockTier.Proofs.L1.TierRuns
import Mathlib.Data.List.Permutation
/-!
The first tier is a map from keys to bytes. Whatever has been evicted, replaced, dropped or has
failed in between, the extent of a resident key holds the bytes that the last completed put of the
key has read from its device.
-/
namespace BlockTier.L1.Tier

/-- Who holds the lock: no one, or a put or a get that waits for the copy engine. A put carries the
bytes that its device block held when it began. -/
inductive Holder
  | free
  | storing (s : Storing) (data : Bytes)
  | loading (l : Loading) (dest : BlockRef)

def Holder.work : Holder → Work
  | free => .idle
  | storing s _ => .storing s.key s.extent
  | loading l _ => .loading l.key

inductive Event
  /-- A put has copied these bytes and ends. -/
  | stores (key : String) (data : Bytes) (s : Status)
  | loads (key : String) (dest : BlockRef) (s : Status)
  | other

/-- The bytes that the event stores for the key. -/
def Event.stored? (key : String) : Event → Option Bytes
  | stores k data s => if s.success = true ∧ k = key then some data else none
  | _ => none

/-- What the last completed put of the key has copied, in a log that begins with the latest
event. -/
def lastStored? (log : List Event) (key : String) : Option Bytes := log.findSome? (·.stored? key)

/-- An operation takes the lock, or the copy of the one that holds it is done, fails for whatever
reason or is dropped. The devices may be written at any time, the pool by copies alone. -/
inductive Step : Tier → Holder → Event → Tier → Holder → Prop
  | putEnds (t : Tier) (key : String) (block : BlockRef) (s : Status)
    (ended : (t.beginPut key block).2 = .inl s) :
    Step t .free .other (t.beginPut key block).1 .free
  | putWaits (t : Tier) (key : String) (block : BlockRef) (s : Storing) (data : Bytes)
    (waits : (t.beginPut key block).2 = .inr s) (read : t.copier.readDevice block = .ok data) :
    Step t .free .other (t.beginPut key block).1 (.storing s data)
  | stored (t : Tier) (s : Storing) (data : Bytes) :
    Step t (.storing s data) (.stores s.key data (t.finishPut s).2) (t.finishPut s).1 .free
  | storeFailed (t : Tier) (s : Storing) (data : Bytes) (copier : Copier)
    (same : t.copier.SameRegions copier) :
    Step t (.storing s data) .other ⟨t.cache.failPut s.extent, copier⟩ .free
  | storeDropped (t : Tier) (s : Storing) (data : Bytes) :
    Step t (.storing s data) .other (t.abandonPut s) .free
  | getEnds (t : Tier) (key : String) (dest : BlockRef) (s : Status)
    (ended : (t.beginGet key dest).2 = .inl s) :
    Step t .free (.loads key dest s) (t.beginGet key dest).1 .free
  | getWaits (t : Tier) (key : String) (dest : BlockRef) (l : Loading)
    (waits : (t.beginGet key dest).2 = .inr l) :
    Step t .free .other (t.beginGet key dest).1 (.loading l dest)
  | loaded (t : Tier) (l : Loading) (dest : BlockRef) :
    Step t (.loading l dest) (.loads l.key dest (t.finishGet l).2) (t.finishGet l).1 .free
  | loadFailed (t : Tier) (l : Loading) (dest : BlockRef) (copier : Copier)
    (same : t.copier.SameRegions copier) :
    Step t (.loading l dest) .other { t with copier } .free
  | loadDropped (t : Tier) (l : Loading) (dest : BlockRef) :
    Step t (.loading l dest) .other t .free
  | read (t : Tier) : Step t .free .other t .free
  | evict (t : Tier) (key : String) : Step t .free .other (t.evict key).1 .free
  | makeRoom (t : Tier) (needed : Nat) : Step t .free .other (t.makeRoom needed).1 .free
  | devices (t : Tier) (h : Holder) (devices : List Bytes) :
    Step t h .other { t with copier := { t.copier with devices } } h

/-- A tier that began empty with the log of its run. -/
inductive Run (capacity : Nat) : Tier → Holder → List Event → Prop
  | new (copier : Copier) : Run capacity ⟨.new capacity, copier⟩ .free []
  | step {t t' : Tier} {h h' : Holder} {e : Event} {log : List Event}
    (before : Run capacity t h log) (step : Step t h e t' h') : Run capacity t' h' (e :: log)

/-- What a waiting copy carries. -/
def Holder.Carries (log : List Event) : Holder → Prop
  | free => True
  | storing s data => s.copying = .toPool data s.extent
  | loading l dest => ∃ data, lastStored? log l.key = some data ∧ l.copying = .toDevice data dest

/-- Every mapped extent holds the bytes that were stored last for its key. -/
def Faithful (t : Tier) (log : List Event) : Prop :=
  ∀ key e, t.cache.find? key = some e →
    ∃ data, lastStored? log key = some data ∧ t.copier.readPool e = .ok data

variable {t t' : Tier} {h h' : Holder} {e : Event} {log : List Event} {capacity : Nat}
  {key : String} {block dest : BlockRef}

theorem lastStored?_cons_of_none (unstored : e.stored? key = none) :
    lastStored? (e :: log) key = lastStored? log key := by
  rw [lastStored?, List.findSome?_cons, unstored, lastStored?]

theorem Faithful.of_kept (faithful : t.Faithful log)
    (kept : ∀ key x, t'.cache.find? key = some x → t.cache.find? key = some x)
    (pool : t'.copier.pool = t.copier.pool) (unstored : ∀ key, e.stored? key = none) :
    t'.Faithful (e :: log) := by
  intro key x found
  rw [lastStored?_cons_of_none (unstored key), Copier.readPool_congr pool]
  exact faithful key x (kept key x found)

/-- No key is mapped anew and nothing is stored. -/
theorem Faithful.unchanged (faithful : t.Faithful log) (same : t'.cache.find? = t.cache.find?)
    (pool : t'.copier.pool = t.copier.pool) : t'.Faithful (.other :: log) :=
  faithful.of_kept (fun _ _ found => same ▸ found) pool (fun _ => rfl)

/-! ### Steps -/

theorem PutBegins.faithful {r : Tier × (Status ⊕ Storing)} (begins : t.PutBegins key block r)
    (faithful : t.Faithful log) (consistent : t.cache.Consistent none) :
    r.1.Faithful (.other :: log) :=
  faithful.of_kept (begins.shrinks consistent).kept begins.sameRegions.pool (fun _ => rfl)

theorem GetBegins.faithful {r : Tier × (Status ⊕ Loading)} (begins : t.GetBegins key dest r)
    (faithful : t.Faithful log) (unstored : ∀ key, e.stored? key = none) :
    r.1.Faithful (e :: log) :=
  faithful.of_kept (fun _ _ found => begins.find? ▸ found) begins.sameRegions.pool unstored

/-- A get that does not wait is no success. -/
theorem GetBegins.failed {t' : Tier} {s : Status} (begins : t.GetBegins key dest (t', .inl s)) :
    s.success = false := by
  cases begins <;> rfl

theorem GetBegins.carries {t' : Tier} {l : Loading} (begins : t.GetBegins key dest (t', .inr l))
    (faithful : t.Faithful log) : (Holder.loading l dest).Carries (.other :: log) := by
  cases begins with
  | reading x data found read =>
    obtain ⟨data', last, held⟩ := faithful key x found
    rw [read] at held
    cases held
    exact ⟨data, last, rfl⟩

theorem PutBegins.carries {t' : Tier} {s : Storing} {data : Bytes}
    (begins : t.PutBegins key block (t', .inr s)) (read : t.copier.readDevice block = .ok data) :
    s.copying = .toPool data s.extent := by
  cases begins with
  | reading e evicted data' taken read' size =>
    rw [read] at read'
    cases read'
    rfl

/-- The copy of a put goes to an extent that no other key has. -/
theorem PutEnds.faithful {s : Storing} {data : Bytes} {r : Tier × Status} (ends : t.PutEnds s r)
    (faithful : t.Faithful log) (consistent : t.cache.Consistent (some s.extent))
    (carries : s.copying = .toPool data s.extent) :
    r.1.Faithful (.stores s.key data r.2 :: log) := by
  cases ends with
  | stored placed copier status written same success =>
    rw [carries] at written
    intro key x found
    change (t.cache.commitPut s.key s.extent).find? key = some x at found
    change ∃ data', _ ∧ copier.readPool x = .ok data'
    rw [Cache.find?_commitPut] at found
    rw [Copier.readPool_congr same.pool]
    split at found
    · rename_i here
      cases found
      refine ⟨data, ?_, Copier.readPool_writePool written⟩
      rw [lastStored?, List.findSome?_cons, Event.stored?, if_pos ⟨success, here.symm⟩]
    · rename_i other
      have unstored : Event.stored? key (.stores s.key data status) = none :=
        if_neg (fun both => other both.2.symm)
      rw [lastStored?_cons_of_none unstored,
        Copier.readPool_writePool_apart written (consistent.apart_reserved found)]
      exact faithful key x found
  | failed error unwritten =>
    have unstored (k : String) :
        Event.stored? k (.stores s.key data (transferFailure error)) = none := by
      rw [Event.stored?]
      exact if_neg (fun both => Bool.false_ne_true both.1)
    exact faithful.of_kept (fun _ _ found => found) rfl unstored

theorem GetEnds.faithful {l : Loading} {data : Bytes} {r : Tier × Status} (ends : t.GetEnds l r)
    (faithful : t.Faithful log) (carries : l.copying = .toDevice data dest) :
    r.1.Faithful (.loads l.key dest r.2 :: log) := by
  refine faithful.of_kept (fun _ _ found => ends.find? ▸ found) ?_ (fun _ => rfl)
  cases ends with
  | loaded placed copier status written same success =>
    rw [carries] at written
    exact same.pool.trans (Copier.pool_writeDevice written)
  | failed => rfl

/-- Nothing else is written of the devices. -/
theorem GetEnds.wrote {l : Loading} {data : Bytes} {r : Tier × Status} (ends : t.GetEnds l r)
    (carries : l.copying = .toDevice data dest) (success : r.2.success = true) :
    t.copier.Wrote r.1.copier dest data := by
  cases ends with
  | loaded placed copier status written same _ =>
    rw [carries] at written
    exact (Copier.wrote_of_writeDevice written).of_devices same.devices
  | failed => cases success

/-- The cache has come of a run of its own, the mapped extents hold what was stored and the holder
of the lock carries what it has read. -/
structure Keeps (capacity : Nat) (t : Tier) (h : Holder) (log : List Event) : Prop where
  reached : Reachable capacity t.cache h.work
  faithful : t.Faithful log
  carries : h.Carries log

/-- After a step whose holder carries nothing. -/
theorem Keeps.free (reached : Reachable capacity t.cache .idle) (faithful : t.Faithful log) :
    Keeps capacity t .free log :=
  ⟨reached, faithful, trivial⟩

theorem Step.keeps (step : Step t h e t' h') (keeps : Keeps capacity t h log) :
    Keeps capacity t' h' (e :: log) := by
  obtain ⟨reached, faithful, carries⟩ := keeps
  have consistent := reached.consistent
  cases step with
  | putEnds key block s ended =>
    have begins := t.beginPut_begins key block
    have next := begins.leads capacity reached
    rw [ended] at next
    exact .free next (begins.faithful faithful consistent)
  | putWaits key block s data waits read =>
    have begins := t.beginPut_begins key block
    have next := begins.leads capacity reached
    rw [waits] at next
    have pair : t.beginPut key block = ((t.beginPut key block).1, .inr s) := Prod.ext rfl waits
    exact ⟨next, begins.faithful faithful consistent, (pair ▸ begins).carries read⟩
  | stored s data =>
    have ends := t.finishPut_ends s
    exact .free (ends.leads capacity reached) (ends.faithful faithful consistent carries)
  | storeFailed s data copier same =>
    exact .free (reached.step (.storeFailed _ s.key s.extent))
      (faithful.unchanged rfl same.pool)
  | storeDropped s data =>
    exact .free (reached.step (.storeDropped _ s.key s.extent))
      (faithful.unchanged rfl rfl)
  | getEnds key dest s ended =>
    have begins := t.beginGet_begins key dest
    have next := begins.leads capacity reached
    rw [ended] at next
    exact .free next (begins.faithful faithful (fun _ => rfl))
  | getWaits key dest l waits =>
    have begins := t.beginGet_begins key dest
    have next := begins.leads capacity reached
    rw [waits] at next
    have pair : t.beginGet key dest = ((t.beginGet key dest).1, .inr l) := Prod.ext rfl waits
    exact ⟨next, begins.faithful faithful (fun _ => rfl), (pair ▸ begins).carries faithful⟩
  | loaded l dest =>
    obtain ⟨data, last, copying⟩ := carries
    have ends := t.finishGet_ends l
    exact .free (ends.leads capacity reached) (ends.faithful faithful copying)
  | loadFailed l dest copier same =>
    exact .free (reached.step (.notLoaded _ l.key))
      (faithful.unchanged rfl same.pool)
  | loadDropped l dest =>
    exact .free (reached.step (.notLoaded _ l.key))
      (faithful.unchanged rfl rfl)
  | read => exact .free reached (faithful.unchanged rfl rfl)
  | evict key =>
    exact .free (reached.step (.evict _ key))
      (faithful.of_kept (Cache.shrinks_evict consistent key).kept rfl (fun _ => rfl))
  | makeRoom needed =>
    exact .free (reached.step (.makeRoom _ needed))
      (faithful.of_kept (consistent.makeRoom needed).2.kept rfl (fun _ => rfl))
  | devices devices =>
    exact ⟨reached, faithful.unchanged rfl rfl, carries⟩

theorem Run.keeps (run : Run capacity t h log) : Keeps capacity t h log := by
  induction run with
  | new copier => exact ⟨.new, fun _ _ found => (nomatch found), trivial⟩
  | step _ step keeps => exact step.keeps keeps

/-- Whatever a resident key is asked for comes of the last completed put of the key. -/
structure Remembers (t : Tier) (h : Holder) (log : List Event) : Prop where
  resident : ∀ key e, t.cache.find? key = some e →
    ∃ data, lastStored? log key = some data ∧ t.copier.readPool e = .ok data
  read : ∀ key, t.read? key = (t.cache.find? key).bind fun _ => lastStored? log key
  loads : ∀ key dest s t' h', Step t h (.loads key dest s) t' h' → s.success = true →
    ∃ data, lastStored? log key = some data ∧ t.copier.Wrote t'.copier dest data
  stored_once : ∀ key block e, t.cache.find? key = some e → e.size = block.size →
    ∃ s, (t.beginPut key block).2 = .inl s ∧ s.success = true ∧
      (t.beginPut key block).1.copier = t.copier

theorem PutBegins.of_resident {x : Extent} {r : Tier × (Status ⊕ Storing)}
    (begins : t.PutBegins key block r) (found : t.cache.find? key = some x)
    (size : x.size = block.size) :
    ∃ s, r.2 = .inl s ∧ s.success = true ∧ r.1.copier = t.copier := by
  have there := Cache.beginPut_of_resident found size
  cases begins with
  | resident e s found' size' success => exact ⟨s, rfl, success, rfl⟩
  | refused refusal refused =>
    rw [there] at refused
    cases refused
  | unread e evicted error taken unread =>
    rw [there] at taken
    cases taken
  | reading e evicted data taken read size' =>
    rw [there] at taken
    cases taken

/-- In every run, whichever extents have been handed out again, a resident key keeps what was
stored for it last. -/
theorem remembers_of_run (run : Run capacity t h log) : t.Remembers h log where
  resident := run.keeps.faithful
  read := by
    intro key
    cases found : t.cache.find? key with
    | none => simp only [read?, found, Option.bind_none]
    | some x =>
      obtain ⟨data, last, held⟩ := run.keeps.faithful key x found
      simp only [read?, found, held, Except.toOption, Option.bind_some, last]
  loads := by
    intro key dest s t' h' step success
    cases step with
    | getEnds key dest s ended =>
      have pair : t.beginGet key dest = ((t.beginGet key dest).1, .inl s) := Prod.ext rfl ended
      have failed := (pair ▸ t.beginGet_begins key dest).failed
      rw [failed] at success
      cases success
    | loaded l dest =>
      obtain ⟨data, last, copying⟩ := run.keeps.carries
      exact ⟨data, last, (t.finishGet_ends l).wrote copying success⟩
  stored_once := fun key block x found size =>
    (t.beginPut_begins key block).of_resident found size

/-- The extent of a key is taken for another one, whose put is dropped, and then for a put that is
not. -/
theorem remembers_after_dropped_put :
    ∃ t log, Run 2 t .free log ∧ lastStored? log "a" = some [1, 2] ∧ t.read? "a" = none ∧
      lastStored? log "b" = some [2, 3] ∧ t.read? "b" = some [2, 3] ∧ t.Remembers .free log := by
  let start : Tier := ⟨.new 2, { devices := [[1, 2, 3, 4]], pool := [0, 0] }⟩
  let storing (key : String) (data : Bytes) (evicted : Nat) : Storing :=
    ⟨key, ⟨0, 2⟩, .toPool data ⟨0, 2⟩, evicted⟩
  have put {t : Tier} {log : List Event} (run : Run 2 t .free log) (key : String)
      (block : BlockRef) (s : Storing) (data : Bytes)
      (waits : (t.beginPut key block).2 = .inr s) (read : t.copier.readDevice block = .ok data) :=
    run.step (.putWaits t key block s data waits read)
  have first := put (.new start.copier) "a" ⟨0, 0, 2⟩ (storing "a" [1, 2] 0) [1, 2]
    (by cbv) (by cbv)
  have second := put (first.step (.stored _ _ _)) "b" ⟨0, 2, 2⟩ (storing "b" [3, 4] 1) [3, 4]
    (by cbv) (by cbv)
  have third := put (second.step (.storeDropped _ _ _)) "b" ⟨0, 1, 2⟩ (storing "b" [2, 3] 0) [2, 3]
    (by cbv) (by cbv)
  have last := third.step (.stored _ _ _)
  exact ⟨_, _, last, by cbv, by cbv, by cbv, by cbv, remembers_of_run last⟩

end BlockTier.L1.Tier
