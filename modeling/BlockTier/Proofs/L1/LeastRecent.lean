import BlockTier.Proofs.L1.Contents
import BlockTier.Proofs.L1.TurnOrder
/-!
Eviction against the history of the operations. The order of eviction is that of the last uses,
where a use is a put or a get that has succeeded, and also the turn of a put that makes its own
key the latest, which stays in force when the put fails or is dropped.
-/
namespace BlockTier.L1.Tier

/-- What an operation does with its key: a put makes room by its turns, and a put or a get answers
its caller. -/
inductive Deed
  | begins (key : String) (turns : List Turn)
  | puts (key : String) (s : Status)
  | gets (key : String) (s : Status)

namespace Deed

/-- A put or a get of the key has succeeded. -/
def touches (key : String) : Deed → Bool
  | puts k s | gets k s => s.success && k = key
  | begins .. => false

/-- A put has made its key the latest while it made room. -/
def bumps (key : String) : Deed → Bool
  | begins k turns => k = key && turns.contains .bump
  | _ => false

def uses (key : String) (d : Deed) : Bool := d.touches key || d.bumps key

end Deed

/-- A deed of the first kind has come after the last one of the second kind, in a log that begins
with the latest deed. -/
def since (p q : Deed → Bool) (log : List Deed) : Bool := (log.takeWhile fun d => !q d).any p

/-- The steps of the tier with what each of them does. -/
inductive Acts : Tier → Holder → List Deed → Tier → Holder → Prop
  | putEnds (t : Tier) (key : String) (block : BlockRef) (s : Status)
    (ended : (t.beginPut key block).2 = .inl s) :
    Acts t .free [.puts key s, .begins key (t.cache.turnsToPut key block.size)]
      (t.beginPut key block).1 .free
  | putWaits (t : Tier) (key : String) (block : BlockRef) (s : Storing) (data : Bytes)
    (waits : (t.beginPut key block).2 = .inr s) (read : t.copier.readDevice block = .ok data) :
    Acts t .free [.begins key (t.cache.turnsToPut key block.size)]
      (t.beginPut key block).1 (.storing s data)
  | stored (t : Tier) (s : Storing) (data : Bytes) :
    Acts t (.storing s data) [.puts s.key (t.finishPut s).2] (t.finishPut s).1 .free
  | storeFailed (t : Tier) (s : Storing) (data : Bytes) (copier : Copier) (e : TransferError)
    (same : t.copier.SameRegions copier) :
    Acts t (.storing s data) [.puts s.key (transferFailure e)]
      ⟨t.cache.failPut s.extent, copier⟩ .free
  | storeDropped (t : Tier) (s : Storing) (data : Bytes) :
    Acts t (.storing s data) [] (t.abandonPut s) .free
  | getEnds (t : Tier) (key : String) (dest : BlockRef) (s : Status)
    (ended : (t.beginGet key dest).2 = .inl s) :
    Acts t .free [.gets key s] (t.beginGet key dest).1 .free
  | getWaits (t : Tier) (key : String) (dest : BlockRef) (l : Loading)
    (waits : (t.beginGet key dest).2 = .inr l) :
    Acts t .free [] (t.beginGet key dest).1 (.loading l dest)
  | loaded (t : Tier) (l : Loading) (dest : BlockRef) :
    Acts t (.loading l dest) [.gets l.key (t.finishGet l).2] (t.finishGet l).1 .free
  | loadFailed (t : Tier) (l : Loading) (dest : BlockRef) (copier : Copier) (e : TransferError)
    (same : t.copier.SameRegions copier) :
    Acts t (.loading l dest) [.gets l.key (transferFailure e)] { t with copier } .free
  | loadDropped (t : Tier) (l : Loading) (dest : BlockRef) :
    Acts t (.loading l dest) [] t .free
  | read (t : Tier) : Acts t .free [] t .free
  | evict (t : Tier) (key : String) : Acts t .free [] (t.evict key).1 .free
  | makeRoom (t : Tier) (needed : Nat) : Acts t .free [] (t.makeRoom needed).1 .free
  | devices (t : Tier) (h : Holder) (devices : List Bytes) :
    Acts t h [] { t with copier := { t.copier with devices } } h

/-- A tier that began empty with the log of what has been done since. -/
inductive History (capacity : Nat) : Tier → Holder → List Deed → Prop
  | new (copier : Copier) : History capacity ⟨.new capacity, copier⟩ .free []
  | act {t t' : Tier} {h h' : Holder} {deeds log : List Deed} (before : History capacity t h log)
    (acts : Acts t h deeds t' h') : History capacity t' h' (deeds ++ log)

/-- A put of the first key, or a call for room, evicts the second one when its earlier turns have
left this cache. -/
inductive Evicts (t : Tier) : Option String → String → Cache → Prop
  | put (key : String) (block : BlockRef) (before later : List Turn) (victim : String)
    (turns : t.cache.turnsToPut key block.size = before ++ .evict victim :: later) :
    Evicts t (some key) victim (t.cache.after before)
  | makeRoom (needed : Nat) (before later : List Turn) (victim : String)
    (turns : t.cache.turnsToMakeRoom needed = before ++ .evict victim :: later) :
    Evicts t none victim (t.cache.after before)

/-- The key has been used after the last use of the victim. Its last successful touch is the later
one too, unless a put has made it the latest since and not succeeded. -/
structure Outlasts (log : List Deed) (key victim : String) : Prop where
  used : since (·.uses key) (·.uses victim) log = true
  touched : since (·.bumps key) (·.touches key) log = false →
    since (·.touches key) (·.touches victim) log = true
  bumped : since (·.touches key) (·.touches victim) log = false →
    since (·.bumps key) (·.touches victim) log = true

variable {t t' : Tier} {h h' : Holder} {d : Deed} {deeds log : List Deed} {capacity : Nat}
  {key : String} {r r' : Recency}

theorem Acts.step (acts : Acts t h deeds t' h') : ∃ e, Step t h e t' h' := by
  cases acts with
  | putEnds key block s ended => exact ⟨_, .putEnds t key block s ended⟩
  | putWaits key block s data waits read => exact ⟨_, .putWaits t key block s data waits read⟩
  | stored s data => exact ⟨_, .stored t s data⟩
  | storeFailed s data copier e same => exact ⟨_, .storeFailed t s data copier same⟩
  | storeDropped s data => exact ⟨_, .storeDropped t s data⟩
  | getEnds key dest s ended => exact ⟨_, .getEnds t key dest s ended⟩
  | getWaits key dest l waits => exact ⟨_, .getWaits t key dest l waits⟩
  | loaded l dest => exact ⟨_, .loaded t l dest⟩
  | loadFailed l dest copier e same => exact ⟨_, .loadFailed t l dest copier same⟩
  | loadDropped l dest => exact ⟨_, .loadDropped t l dest⟩
  | read => exact ⟨_, .read t⟩
  | evict key => exact ⟨_, .evict t key⟩
  | makeRoom needed => exact ⟨_, .makeRoom t needed⟩
  | devices => exact ⟨_, .devices t _ _⟩

theorem History.run (history : History capacity t h log) : ∃ events, Run capacity t h events := by
  induction history with
  | new copier => exact ⟨[], .new copier⟩
  | act _ acts ih =>
    obtain ⟨events, run⟩ := ih
    obtain ⟨e, step⟩ := acts.step
    exact ⟨e :: events, run.step step⟩

theorem History.consistent (history : History capacity t h log) :
    t.cache.Consistent h.work.reserved? := by
  obtain ⟨events, run⟩ := history.run
  exact run.keeps.reached.consistent

/-! ### The order of the last uses -/

theorem since_cons (p q : Deed → Bool) (d : Deed) (log : List Deed) :
    since p q (d :: log) = (!q d && (p d || since p q log)) := by
  unfold since
  rw [List.takeWhile_cons]
  cases q d with
  | true => rfl
  | false => simp only [Bool.not_false, ↓reduceIte, List.any_cons, Bool.true_and]

/-- An older key has its last use before that of a later one. -/
def Ordered (log : List Deed) (r : Recency) : Prop :=
  r.Pairwise fun x y => since (·.uses y.key) (·.uses x.key) log = true

theorem Ordered.idle (ordered : Ordered log r) (idle : ∀ k, d.uses k = false)
    (kept : r'.Sublist r) : Ordered (d :: log) r' := by
  apply (List.Pairwise.sublist kept ordered).imp
  intro x y before
  rw [since_cons, idle, idle]
  exact before

/-- The key that is used becomes the latest, and the others stay in their order. -/
theorem Ordered.use (ordered : Ordered log r) (used : ∀ k, d.uses k = decide (k = key))
    (others : (r'.remove key).Sublist (r.remove key)) (latest : Cache.Latest key r') :
    Ordered (d :: log) r' := by
  have kept := (List.Pairwise.sublist List.filter_sublist ordered).sublist others
  unfold Recency.remove at kept
  rw [List.pairwise_filter] at kept
  apply (kept.and latest).imp
  intro x y both
  obtain ⟨before, other⟩ := both
  rw [since_cons, used, used]
  by_cases here : y.key = key
  · simp only [other, here, decide_false, decide_true, Bool.not_false, Bool.true_or, Bool.and_self]
  · simp only [other, here, decide_false, Bool.not_false, Bool.false_or, Bool.true_and]
    exact before (by simpa using other) (by simpa using here)

/-! ### What is used is the latest -/

theorem remove_remove (r : Recency) (key : String) : (r.remove key).remove key = r.remove key := by
  unfold Recency.remove
  rw [List.filter_filter]
  simp only [Bool.and_self]

theorem remove_append_self (r : Recency) (t : Tracked) :
    Recency.remove (r.remove t.key ++ [t]) t.key = r.remove t.key := by
  have again := remove_remove r t.key
  unfold Recency.remove at again ⊢
  rw [List.filter_append, again, List.filter_singleton]
  simp

theorem latest_remove_append (r : Recency) (t : Tracked) :
    Cache.Latest t.key (r.remove t.key ++ [t]) := by
  apply Cache.latest_append
  intro x member
  simpa using (List.mem_filter.mp member).2

theorem Ordered.track (ordered : Ordered log r) (size : Nat)
    (used : ∀ k, d.uses k = decide (k = key)) : Ordered (d :: log) (r.track key size) :=
  ordered.use used (by rw [Recency.track, remove_append_self r ⟨key, size⟩])
    (latest_remove_append r ⟨key, size⟩)

theorem Ordered.touch (ordered : Ordered log r) (used : ∀ k, d.uses k = decide (k = key)) :
    Ordered (d :: log) (r.touch key) := by
  unfold Recency.touch
  split
  · rename_i t found
    have same : t.key = key := by simpa using List.find?_some found
    subst same
    exact ordered.use used (by rw [remove_append_self]) (latest_remove_append r t)
  · rename_i absent
    apply ordered.use used (List.Sublist.refl _)
    apply List.pairwise_of_forall_mem_list
    intro x member _ _
    simpa using List.find?_eq_none.mp absent x member

theorem uses_of_success {s : Status} (ends : d = .puts key s ∨ d = .gets key s)
    (success : s.success = true) (k : String) : d.uses k = decide (k = key) := by
  rcases ends with rfl | rfl <;> simp [Deed.uses, Deed.touches, Deed.bumps, success, eq_comm]

theorem uses_of_failure {s : Status} (ends : d = .puts key s ∨ d = .gets key s)
    (failure : s.success = false) (k : String) : d.uses k = false := by
  rcases ends with rfl | rfl <;> simp [Deed.uses, Deed.touches, Deed.bumps, failure]

/-- The turns of a put leave its key in its place or make it the latest. -/
theorem Ordered.turns {c : Cache} {reserved : Option Extent} {ts : List Turn}
    (ordered : Ordered log c.recency) (h : c.Consistent reserved)
    (makes : c.Makes (some key) ts) : Ordered (.begins key ts :: log) (c.after ts).recency := by
  by_cases bumped : Turn.bump ∈ ts
  · have used (k : String) : (Deed.begins key ts).uses k = decide (k = key) := by
      simp [Deed.uses, Deed.touches, Deed.bumps, bumped, eq_comm]
    exact ordered.use used makes.remove_sublist (makes.latest h (Or.inr bumped))
  · have idle (k : String) : (Deed.begins key ts).uses k = false := by
      simp [Deed.uses, Deed.touches, Deed.bumps, bumped]
    exact ordered.idle idle (makes.sublist bumped)

/-! ### Steps -/

variable {block dest : BlockRef}

/-- A put that has not ended yet has made its turns. -/
theorem PutBegins.ordered_of_waits {s : Storing} (begins : t.PutBegins key block (t', .inr s))
    (consistent : t.cache.Consistent none) (ordered : Ordered log t.cache.recency) :
    Ordered (.begins key (t.cache.turnsToPut key block.size) :: log) t'.cache.recency := by
  cases begins with
  | reading e evicted data taken read size =>
    rw [Cache.recency_beginPut_of_turns (fun n resident => nomatch taken.symm.trans resident)]
    exact ordered.turns consistent (Cache.makes_turnsToPut consistent key block.size)

theorem PutBegins.ordered_of_ends {s : Status} (begins : t.PutBegins key block (t', .inl s))
    (consistent : t.cache.Consistent none) (ordered : Ordered log t.cache.recency) :
    Ordered (.puts key s :: .begins key (t.cache.turnsToPut key block.size) :: log)
      t'.cache.recency := by
  have turned := ordered.turns consistent (Cache.makes_turnsToPut consistent key block.size)
  cases begins with
  | resident e s found size success =>
    rw [Cache.turnsToPut_of_resident found size] at turned ⊢
    change Ordered _ (t.cache.beginPut key block.size).1.recency
    rw [Cache.recency_beginPut_of_resident found size]
    exact turned.touch (uses_of_success (Or.inl rfl) success)
  | refused refusal refused =>
    apply turned.idle
    · apply uses_of_failure (Or.inl rfl)
      cases refusal <;> rfl
    · rw [← Cache.recency_beginPut_of_turns (fun n resident => nomatch refused.symm.trans resident)]
  | unread e evicted error taken unread =>
    apply turned.idle (uses_of_failure (Or.inl rfl) rfl)
    rw [← Cache.recency_beginPut_of_turns (fun n resident => nomatch taken.symm.trans resident)]
    rfl

theorem Acts.ordered (acts : Acts t h deeds t' h')
    (consistent : t.cache.Consistent h.work.reserved?) (ordered : Ordered log t.cache.recency) :
    Ordered (deeds ++ log) t'.cache.recency := by
  cases acts with
  | putEnds key block s ended =>
    have begins := t.beginPut_begins key block
    have pair : t.beginPut key block = ((t.beginPut key block).1, .inl s) := Prod.ext rfl ended
    exact (pair ▸ begins).ordered_of_ends consistent ordered
  | putWaits key block s data waits read =>
    have begins := t.beginPut_begins key block
    have pair : t.beginPut key block = ((t.beginPut key block).1, .inr s) := Prod.ext rfl waits
    exact (pair ▸ begins).ordered_of_waits consistent ordered
  | stored s data =>
    have ends := t.finishPut_ends s
    generalize t.finishPut s = left at ends
    cases ends with
    | stored placed copier status written same success =>
      exact ordered.track s.extent.size (uses_of_success (Or.inl rfl) success)
    | failed e unwritten =>
      exact ordered.idle (uses_of_failure (Or.inl rfl) rfl) (List.Sublist.refl _)
  | storeFailed s data copier e same =>
    exact ordered.idle (uses_of_failure (Or.inl rfl) rfl) (List.Sublist.refl _)
  | storeDropped s data => exact ordered
  | getEnds key dest s ended =>
    have begins := t.beginGet_begins key dest
    have pair : t.beginGet key dest = ((t.beginGet key dest).1, .inl s) := Prod.ext rfl ended
    generalize (t.beginGet key dest).1 = left at pair
    rw [pair] at begins
    apply ordered.idle (uses_of_failure (Or.inr rfl) begins.failed)
    cases begins with
    | miss absent => exact List.Sublist.refl _
    | unread e error found unread => exact List.Sublist.refl _
  | getWaits key dest l waits =>
    have begins := t.beginGet_begins key dest
    generalize t.beginGet key dest = left at begins waits
    cases begins with
    | miss absent => cases waits
    | unread e error found unread => cases waits
    | reading e data found read => exact ordered
  | loaded l dest =>
    have ends := t.finishGet_ends l
    generalize t.finishGet l = left at ends
    cases ends with
    | loaded placed copier status written same success =>
      exact ordered.touch (uses_of_success (Or.inr rfl) success)
    | failed e unwritten =>
      exact ordered.idle (uses_of_failure (Or.inr rfl) rfl) (List.Sublist.refl _)
  | loadFailed l dest copier e same =>
    exact ordered.idle (uses_of_failure (Or.inr rfl) rfl) (List.Sublist.refl _)
  | loadDropped l dest => exact ordered
  | read => exact ordered
  | evict key =>
    have kept : (t.evict key).1.cache.recency = t.cache.recency.remove key :=
      t.cache.recency_evict key
    rw [kept]
    exact List.Pairwise.sublist List.filter_sublist ordered
  | makeRoom needed =>
    have kept : (t.makeRoom needed).1.cache = t.cache.after (t.cache.turnsToMakeRoom needed) :=
      t.cache.makeRoom_eq_after needed
    rw [kept]
    have makes := t.cache.makes_turnsToMakeRoom needed
    exact List.Pairwise.sublist (makes.sublist makes.unbumped) ordered
  | devices => exact ordered

theorem History.ordered (history : History capacity t h log) : Ordered log t.cache.recency := by
  induction history with
  | new copier => exact List.Pairwise.nil
  | act before acts ih => exact acts.ordered before.consistent ih

/-! ### Evictions -/

theorem since_or (p p' q : Deed → Bool) (log : List Deed) :
    since (fun d => p d || p' d) q log = (since p q log || since p' q log) := by
  induction log with
  | nil => rfl
  | cons d log ih =>
    simp only [since_cons, ih]
    cases q d <;> cases p d <;> cases p' d <;> simp

theorem since_of_since_or {p q q' : Deed → Bool}
    (before : since p (fun d => q d || q' d) log = true) : since p q log = true := by
  induction log with
  | nil => cases before
  | cons d log ih =>
    simp only [since_cons, Bool.and_eq_true, Bool.not_eq_true', Bool.or_eq_false_iff,
      Bool.or_eq_true] at before ⊢
    exact ⟨before.1.1, before.2.imp id ih⟩

/-- What has come after the one deed, when another has not, has come after that one too. -/
theorem since_of_not_since {p p' q : Deed → Bool} (before : since p q log = true)
    (other : since p' q log = false) : since p p' log = true := by
  induction log with
  | nil => cases before
  | cons d log ih =>
    simp only [since_cons, Bool.and_eq_true, Bool.not_eq_true', Bool.or_eq_true] at before ⊢
    simp only [since_cons, before.1, Bool.not_false, Bool.true_and, Bool.or_eq_false_iff] at other
    exact ⟨other.1, before.2.imp id fun earlier => ih earlier other.2⟩

theorem outlasts_of_used {victim : String}
    (used : since (·.uses key) (·.uses victim) log = true) : Outlasts log key victim := by
  have either : since (·.touches key) (·.touches victim) log = true ∨
      since (·.bumps key) (·.touches victim) log = true := by
    rw [← Bool.or_eq_true, ← since_or]
    exact since_of_since_or used
  refine ⟨used, fun unbumped => ?_, fun untouched => ?_⟩
  · rcases either with touched | bumped
    · exact touched
    · apply Bool.of_not_eq_false
      intro untouched
      rw [since_of_not_since bumped untouched] at unbumped
      cases unbumped
  · rw [untouched] at either
    exact either.resolve_left Bool.false_ne_true

/-- What is behind the oldest key has been used after it. -/
theorem Ordered.used_of_mem {oldest x : Tracked} {rest : Recency}
    (ordered : Ordered log (oldest :: rest)) (later : x ∈ rest) :
    since (·.uses x.key) (·.uses oldest.key) log = true :=
  (List.pairwise_cons.mp ordered).1 x later

theorem used_of_evicts {spared : Option String} {victim : String} {c : Cache}
    (ordered : Ordered log t.cache.recency) (consistent : t.cache.Consistent none)
    (evicts : t.Evicts spared victim c) (resident : (c.find? key).isSome)
    (other : key ≠ victim) (unspared : spared ≠ some key) :
    since (·.uses key) (·.uses victim) log = true := by
  cases evicts with
  | put pinned block before later victim turns =>
    have makes := Cache.makes_turnsToPut consistent pinned block.size
    rw [turns] at makes
    obtain ⟨first, oldest, rest, x, order, behind, rfl, rfl, unpinned⟩ :=
      makes.behind consistent resident other
    have kept := first.remove_sublist
    rw [order] at kept
    have among := List.Pairwise.sublist (kept.trans List.filter_sublist) ordered
    unfold Recency.remove at among
    rw [List.filter_cons_of_pos (by simpa using fun same => unpinned (congrArg some same.symm))]
      at among
    apply Ordered.used_of_mem among
    apply List.mem_filter.mpr
    exact ⟨behind, by simpa using fun same => unspared (congrArg some same.symm)⟩
  | makeRoom needed before later victim turns =>
    have makes := t.cache.makes_turnsToMakeRoom needed
    rw [turns] at makes
    obtain ⟨first, oldest, rest, x, order, behind, rfl, rfl, _⟩ :=
      makes.behind consistent resident other
    have kept := first.sublist first.unbumped
    rw [order] at kept
    exact Ordered.used_of_mem (List.Pairwise.sublist kept ordered) behind

theorem PutBegins.find? {left : Tier × (Status ⊕ Storing)} (begins : t.PutBegins key block left) :
    left.1.cache.find? = (t.cache.after (t.cache.turnsToPut key block.size)).find? := by
  have begun := (t.cache.begun_beginPut key block.size).find?
  cases begins with
  | resident | refused | unread | reading => exact begun

theorem beginPut_of_unread {e : Extent} {evicted : Nat} {error : TransferError}
    (taken : (t.cache.beginPut key block.size).2 = .acquired e evicted)
    (unread : t.copier.begin? (.store block e) = .error error) :
    t.beginPut key block =
      (⟨(t.cache.beginPut key block.size).1.failPut e, t.copier.countFailure⟩,
        .inl (transferFailure error)) := by
  have pair : t.cache.beginPut key block.size =
      ((t.cache.beginPut key block.size).1, .acquired e evicted) := Prod.ext rfl taken
  rw [Tier.beginPut, pair]
  simp only [Copier.start, unread]

theorem History.put (history : History capacity t .free log) (key : String) (block : BlockRef)
    (s : Storing) (data : Bytes) {stored : Tier × Status}
    (waits : (t.beginPut key block).2 = .inr s) (read : t.copier.readDevice block = .ok data)
    (ends : (t.beginPut key block).1.finishPut s = stored) :
    History capacity stored.1 .free
      (.puts s.key stored.2 :: .begins key (t.cache.turnsToPut key block.size) :: log) :=
  ends ▸ (history.act (.putWaits t key block s data waits read)).act (.stored _ s data)

/-- Whatever is unmapped to make room is evicted at a moment at which every other resident key
outlasts it, the key of the put apart. -/
structure EvictsLeastRecent (t : Tier) (log : List Deed) : Prop where
  outlasts : ∀ spared victim c key, t.Evicts spared victim c → (c.find? key).isSome →
    key ≠ victim → spared ≠ some key → Outlasts log key victim
  put : ∀ key block victim, (t.cache.find? victim).isSome →
    (t.beginPut key block).1.cache.find? victim = none → ∃ c, t.Evicts (some key) victim c
  room : ∀ needed victim, (t.cache.find? victim).isSome →
    (t.makeRoom needed).1.cache.find? victim = none → ∃ c, t.Evicts none victim c

/-- In every run the order of eviction is that of the last uses. It is that of the last successful
touches as long as no put of a key has made it the latest and then failed or been dropped. -/
theorem evictsLeastRecent_of_history (history : History capacity t .free log) :
    t.EvictsLeastRecent log where
  outlasts := by
    intro spared victim c key evicts resident other unspared
    exact outlasts_of_used
      (used_of_evicts history.ordered history.consistent evicts resident other unspared)
  put := by
    intro key block victim resident gone
    rw [(t.beginPut_begins key block).find?] at gone
    have evicted := Cache.evict_mem_of_unmapped resident gone
    obtain ⟨before, later, turns⟩ := List.append_of_mem evicted
    exact ⟨_, .put key block before later victim turns⟩
  room := by
    intro needed victim resident gone
    have left : (t.makeRoom needed).1.cache = t.cache.after (t.cache.turnsToMakeRoom needed) :=
      t.cache.makeRoom_eq_after needed
    rw [left] at gone
    have evicted := Cache.evict_mem_of_unmapped resident gone
    obtain ⟨before, later, turns⟩ := List.append_of_mem evicted
    exact ⟨_, .makeRoom needed before later victim turns⟩

/-- A block is got again, so that the other one makes room for a third. -/
theorem evictsLeastRecent_after_get :
    ∃ t log c, History 2 t .free log ∧ t.Evicts (some "c") "b" c ∧ (c.find? "a").isSome ∧
      t.EvictsLeastRecent log ∧ since (·.touches "a") (·.touches "b") log = true := by
  let copier : Copier := { devices := [[1, 2]], pool := [0, 0] }
  have empty : History 2 ⟨.new 2, copier⟩ .free [] := .new copier
  have first := empty.put "a" ⟨0, 0, 1⟩ ⟨"a", ⟨0, 1⟩, .toPool [1] ⟨0, 1⟩, 0⟩ [1]
    (by cbv) (by cbv) rfl
  have second := first.put "b" ⟨0, 1, 1⟩ ⟨"b", ⟨1, 1⟩, .toPool [2] ⟨1, 1⟩, 0⟩ [2]
    (by cbv) (by cbv) rfl
  have got := (second.act (.getWaits _ "a" ⟨0, 1, 1⟩
    ⟨"a", 1, .toDevice [1] ⟨0, 1, 1⟩⟩ (by cbv))).act (.loaded _ _ _)
  exact ⟨_, _, _, got, .put "c" ⟨0, 0, 1⟩ [] [] "b" (by cbv), by cbv,
    evictsLeastRecent_of_history got, by cbv⟩

/-- A put of the oldest key evicts another block and then cannot read its own. The key stays the
latest, so that a block that has been put after it makes room in its place. -/
theorem evicts_touched_after_failed_put :
    ∃ t log c, History 4 t .free log ∧ t.Evicts none "c" c ∧ (c.find? "a").isSome ∧
      since (·.touches "a") (·.touches "c") log = false := by
  let copier : Copier := { devices := [[0, 0, 0, 0, 0, 0, 0, 0]], pool := [0, 0, 0, 0] }
  let full : Tier :=
    { cache :=
        { allocator := { capacity := 4, byOffset := [], bySize := [],
                         live := [⟨0, 2⟩, ⟨2, 1⟩, ⟨3, 1⟩], used := 4 }
          entries := [("a", ⟨0, 2⟩), ("b", ⟨2, 1⟩), ("c", ⟨3, 1⟩)]
          recency := [⟨"a", 2⟩, ⟨"b", 1⟩, ⟨"c", 1⟩]
          counters := { insertions := 3 } }
      copier := { copier with stats := { toHostBytes := 4, toHostCopies := 3 } } }
  have empty : History 4 ⟨.new 4, copier⟩ .free [] := .new copier
  have first := empty.put "a" ⟨0, 0, 2⟩
    ⟨"a", ⟨0, 2⟩, .toPool [0, 0] ⟨0, 2⟩, 0⟩ [0, 0] (by cbv) (by cbv) rfl
  have second := first.put "b" ⟨0, 0, 1⟩
    ⟨"b", ⟨2, 1⟩, .toPool [0] ⟨2, 1⟩, 0⟩ [0] (by cbv) (by cbv) rfl
  have third : History 4 full .free _ := second.put "c" ⟨0, 0, 1⟩
    ⟨"c", ⟨3, 1⟩, .toPool [0] ⟨3, 1⟩, 0⟩ [0] (by cbv) (by cbv)
    (show _ = (full, .ok "stored 1 bytes in L1 (evicted 0)") by cbv)
  have taken : (full.cache.beginPut "a" 1).2 = .acquired ⟨2, 1⟩ 1 := by cbv
  have unread : full.copier.begin? (.store ⟨0, 8, 1⟩ ⟨2, 1⟩) = .error (.deviceOutOfBounds 0 8 1) :=
    by cbv
  have begun : full.beginPut "a" ⟨0, 8, 1⟩ = _ := beginPut_of_unread taken unread
  have failed := third.act (.putEnds full "a" ⟨0, 8, 1⟩ _ (congrArg Prod.snd begun))
  rw [begun] at failed
  dsimp only at failed
  exact ⟨_, _, _, failed, .makeRoom 2 [] [] "c" (by cbv), by cbv, rfl⟩

end BlockTier.L1.Tier
