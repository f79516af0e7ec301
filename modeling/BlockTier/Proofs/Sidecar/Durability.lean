import BlockTier.Proofs.Sidecar.RoundTrip
import BlockTier.Proofs.Sidecar.WriteThrough
/-!
Calls made one after the other under write-through. The fleet has every block whose offload has
succeeded, however often the first tier has evicted it since.
-/
namespace BlockTier.Sidecar

open Deployment Traffic

variable {content : String → Bytes} {capacity : Nat} {c : Call} {first d d' : Deployment}
  {s : Stage}

/-- The device block of an offload that is not refused holds the content of its key, if it lies
within its device. -/
def Call.Presents (content : String → Bytes) (c : Call) (d : Deployment) : Prop :=
  ∀ key block timeout data, c = .offload key block timeout → refusal? key block.size = none →
    d.tier.copier.readDevice block = .ok data → data = content key

/-- A call without a deadline that nothing else runs beside, where it waits. -/
structure Underway (content : String → Bytes) (c : Call) (first d : Deployment) (s : Stage) :
    Prop where
  intact : d.Intact content
  mirrors : d.Mirrors
  grows : first.Grows d
  carries : s.Carries content d c
  finds : c.Finds content d
  secures : ∀ key block timeout, c = .offload key block timeout →
    refusal? key block.size = none ∧ s.Secures content d

/-- What such a call leaves. -/
structure Upholds (content : String → Bytes) (c : Call) (first : Deployment)
    (r : Deployment × Answer) : Prop where
  intact : r.1.Intact content
  grows : first.Grows r.1
  mirrored : ∀ key block timeout s, c = .offload key block timeout → r.2 = .status s →
    s.success = true → key.isEmpty = false ∧ content key ≠ [] ∧ r.1.Mirrored key

theorem Deployment.grows_arrive (d : Deployment) (id : Nat) (s : Stage) :
    d.Grows (d.arrive id s) := by
  cases s <;> exact ⟨rfl, rfl, rfl, .refl _⟩

theorem Deployment.devices_arrive (d : Deployment) (id : Nat) (s : Stage) :
    (d.arrive id s).tier.copier.devices = d.tier.copier.devices := by
  cases s <;> rfl

theorem Underway.arrive (underway : Underway content c first d s) (id : Nat) :
    Underway content c first (d.arrive id s) s where
  intact := underway.intact.arrive id s
  mirrors := underway.mirrors.grows (d.grows_arrive id s)
  grows := underway.grows.trans (d.grows_arrive id s)
  carries := Stage.Carries.arrive underway.carries id
  finds := underway.finds.of_devices (d.devices_arrive id s)
  secures key block timeout is := by
    obtain ⟨accepted, secures⟩ := underway.secures key block timeout is
    refine ⟨accepted, ?_⟩
    cases s with
    | entering errand => cases errand <;> exact secures
    | _ => exact secures

theorem Underway.resume (underway : Underway content c first d s)
    (orderly : Orderly capacity ⟨d, Calls.none.set 0 (some ⟨c, none, s⟩)⟩)
    (ready : d.isReady 0 s = true) :
    Comes (Underway content c first) (Upholds content c first) (d.resume s) := by
  have waits : Calls.none.set 0 (some ⟨c, none, s⟩) 0 = some ⟨c, none, s⟩ := Calls.set_self ..
  have consistent := orderly.consistent_of_ready waits ready
  have grows := (works_resume (orderly.sound 0 _ waits) consistent).grows
  have keeps := keeps_resume underway.intact consistent underway.carries underway.finds
  have secured (key : String) (block : BlockRef) (timeout : Option Nat)
      (is : c = .offload key block timeout) :
      refusal? key block.size = none ∧ Secured content key d (d.resume s) := by
    obtain ⟨accepted, secures⟩ := underway.secures key block timeout is
    have positive := (refusal?_eq_none_iff.mp accepted).2
    subst is
    exact ⟨accepted, secured_resume underway.intact underway.mirrors positive underway.finds
      underway.carries secures⟩
  cases resumed : d.resume s with
  | mk d' turn =>
    rw [resumed] at grows keeps secured
    cases turn with
    | done a =>
      refine .answered d' a ⟨keeps.intact, underway.grows.trans grows,
        fun key block timeout s is answered success => ?_⟩
      obtain ⟨accepted, secured⟩ := secured key block timeout is
      exact ⟨(refusal?_eq_none_iff.mp accepted).1, secured.secures s answered success⟩
    | wait s' =>
      refine .waits d' s' (Underway.arrive ⟨keeps.intact, underway.mirrors.grows grows,
        underway.grows.trans grows, keeps.carries, ?_, fun key block timeout is => ?_⟩ 0)
      · rintro key block timeout data rfl
        have same := (secured key block timeout rfl).2.devices
        exact underway.finds.of_devices same key block timeout data rfl
      · obtain ⟨accepted, secured⟩ := secured key block timeout is
        exact ⟨accepted, secured.secures⟩

theorem Underway.pass (underway : Underway content c first d s) (ms : Nat) :
    Underway content c first (d.move (.pass ms)) s where
  intact := underway.intact.move id
  mirrors := underway.mirrors.grows ⟨rfl, rfl, rfl, .refl _⟩
  grows := underway.grows.trans ⟨rfl, rfl, rfl, .refl _⟩
  carries := underway.carries.map rfl fun _ _ restored => restored.of_devices rfl
  finds := underway.finds
  secures := underway.secures

/-- An offload that waits has not been refused. -/
theorem accepted_of_wait {key : String} {block : BlockRef} {timeout : Option Nat}
    (waits : (d.begin (.offload key block timeout)).2 = .wait s) :
    refusal? key block.size = none ∧ s = .entering (.put key block .offload) := by
  cases refused : refusal? key block.size with
  | none =>
    rw [begin, refused] at waits
    exact ⟨rfl, (Turn.wait.inj waits).symm⟩
  | some r =>
    rw [begin, refused] at waits
    cases waits

theorem comes_begin (intact : d.Intact content) (mirrors : d.Mirrors) (managed : c.IsManaged)
    (presents : c.Presents content d) :
    Comes (Underway content c d) (Upholds content c d) (d.begin c) := by
  have continues := d.continues_begin c
  have grows := Grows.of_core continues.core
  have devices := devices_of_core continues.core
  have keeps := keeps_begin intact managed
  cases begun : d.begin c with
  | mk d' turn =>
    rw [begun] at grows devices keeps
    cases turn with
    | done a =>
      refine .answered d' a ⟨keeps.intact, grows, ?_⟩
      rintro key block timeout s rfl answered success
      have complete : (d.complete (.offload key block timeout)).2 = .status s := by
        rw [complete, begun]
        exact answered
      have accepted := refusal?_eq_none_iff.mpr (accepted_of_offload complete success)
      rw [begin, accepted] at begun
      cases begun
    | wait s =>
      have waits : (d.begin c).2 = .wait s := congrArg Prod.snd begun
      refine .waits d' s (Underway.arrive ⟨keeps.intact, mirrors.grows grows, grows, keeps.carries,
        Call.Finds.of_devices ?_ devices, ?_⟩ 0)
      · rintro key block timeout data rfl
        exact presents key block timeout data rfl (accepted_of_wait waits).1
      · rintro key block timeout rfl
        obtain ⟨accepted, rfl⟩ := accepted_of_wait waits
        exact ⟨accepted, (refusal?_eq_none_iff.mp accepted).2⟩

/-- A call that is made alone upholds what the tiers have. -/
theorem World.run_upholds {α : Type} (orderly : Orderly capacity ⟨d, .none⟩)
    (intact : d.Intact content) (mirrors : d.Mirrors) (managed : c.IsManaged)
    (presents : c.Presents content d) (unlimited : d.limitOf c = none) :
    ∃ r, Orderly capacity ⟨r.1, .none⟩ ∧ Upholds content c d r ∧
      World.run ⟨d, []⟩ (.one (.call c : Job α)) = (⟨r.1, []⟩, [.inl r.2]) := by
  refine World.run_course orderly ?_ (comes_begin intact mirrors managed presents)
  rw [unlimited]
  exact ⟨fun orderly underway ready => underway.resume orderly ready,
    fun underway _ => underway.pass _, nofun⟩

/-- Whether a move leaves the tiers, the ring and the way to the nodes alone. -/
def Move.isOutside : Move → Bool
  | .refresh | .reach .. | .writePool .. | .store .. | .remove .. => false
  | _ => true

/-- Calls made one after the other, each without a deadline, with their answers, latest first. -/
inductive Session (content : String → Bytes) (start : Deployment) :
    List (Call × Answer) → Deployment → Prop
  | new : Session content start [] start
  | call {log : List (Call × Answer)} {d d' : Deployment} {a : Answer}
    (before : Session content start log d) (c : Call) (managed : c.IsManaged)
    (presents : c.Presents content d) (unlimited : d.limitOf c = none)
    (ran : World.run ⟨d, []⟩ (.one (.call c : Job Empty)) = (⟨d', []⟩, [.inl a])) :
    Session content start ((c, a) :: log) d'
  | beside {log : List (Call × Answer)} {d : Deployment} (before : Session content start log d)
    (m : Move) (outside : m.isOutside = true) : Session content start log (d.move m)

theorem Deployment.grows_move (d : Deployment) {m : Move} (outside : m.isOutside = true) :
    d.Grows (d.move m) := by
  cases m with
  | refresh | reach | writePool | store | remove => cases outside
  | writeDevice b data =>
    simp only [move, overwrite]
    split
    · exact ⟨rfl, rfl, rfl, .refl _⟩
    · exact .refl d
  | close => exact ⟨rfl, rfl, rfl, ⟨fun dependable => ⟨dependable.reachable, dependable.unbounded,
      dependable.stores⟩, fun _ _ held => held⟩⟩
  | _ => exact ⟨rfl, rfl, rfl, .refl _⟩

/-- What a session keeps. -/
structure Durable (content : String → Bytes) (capacity : Nat) (log : List (Call × Answer))
    (d : Deployment) : Prop where
  orderly : Orderly capacity ⟨d, .none⟩
  intact : d.Intact content
  mirrors : d.Mirrors
  mirrored : ∀ key block timeout s, (.offload key block timeout, .status s) ∈ log →
    s.success = true → key.isEmpty = false ∧ content key ≠ [] ∧ d.Mirrored key

variable {start : Deployment} {log : List (Call × Answer)}

theorem Durable.call (durable : Durable content capacity log d) (managed : c.IsManaged)
    (presents : c.Presents content d) (unlimited : d.limitOf c = none) {a : Answer}
    (ran : World.run ⟨d, []⟩ (.one (.call c : Job Empty)) = (⟨d', []⟩, [.inl a])) :
    Durable content capacity ((c, a) :: log) d' := by
  obtain ⟨r, orderly, upholds, ran'⟩ := World.run_upholds (α := Empty) durable.orderly
    durable.intact durable.mirrors managed presents unlimited
  cases ran.symm.trans ran'
  refine ⟨orderly, upholds.intact, durable.mirrors.grows upholds.grows,
    fun key block timeout s member success => ?_⟩
  rcases List.mem_cons.mp member with latest | earlier
  · obtain ⟨rfl, answered⟩ := Prod.mk.inj latest
    exact upholds.mirrored key block timeout s rfl answered.symm success
  · obtain ⟨named, nonempty, mirrored⟩ := durable.mirrored key block timeout s earlier success
    exact ⟨named, nonempty, mirrored.grows upholds.grows⟩

theorem Durable.move (durable : Durable content capacity log d) {m : Move}
    (outside : m.isOutside = true) : Durable content capacity log (d.move m) := by
  have grows := d.grows_move outside
  have unwritten : ¬ m.Stores := by
    cases m with
    | writePool | store => cases outside
    | _ => exact id
  refine ⟨durable.orderly.move m, durable.intact.move unwritten, durable.mirrors.grows grows,
    fun key block timeout s member success => ?_⟩
  obtain ⟨named, nonempty, mirrored⟩ := durable.mirrored key block timeout s member success
  exact ⟨named, nonempty, mirrored.grows grows⟩

theorem Session.durable (fresh : start.Fresh capacity) (intact : start.Intact content)
    (mirrors : start.Mirrors) (session : Session content start log d) :
    Durable content capacity log d := by
  induction session with
  | new => exact ⟨.fresh fresh, intact, mirrors, nofun⟩
  | call before c managed presents unlimited ran ih => exact ih.call managed presents unlimited ran
  | beside before m outside ih => exact ih.move outside

/-- After any session a fetch of a block that was offloaded with success brings it back, whatever
the first tier has evicted or rejected. -/
theorem offloaded_never_lost {key : String} {block dest : BlockRef} {timeout : Option Nat}
    {s : Status} (fresh : start.Fresh capacity)
    (stored : ∀ id key frame, start.fleet.frame? id key = some frame →
      start.l2.codec.decode frame = .ok (content key))
    (lawful : start.l2.codec.scheme.Lawful) (mirrors : start.Mirrors)
    (session : Session content start log d)
    (offloaded : (.offload key block timeout, .status s) ∈ log) (success : s.success = true)
    (inside : d.tier.copier.Accepts dest dest.size) (longer : (content key).length ≤ dest.size) :
    ∃ d' s', World.run ⟨d, []⟩ (.one (.call (.fetch key dest none) : Job Empty)) =
        (⟨d', []⟩, [.inl (.status s')]) ∧ s'.success = true ∧
      d'.tier.copier.readDevice (dest.withSize (content key).length) = .ok (content key) := by
  have durable := session.durable fresh (fresh.intact stored lawful) mirrors
  obtain ⟨named, nonempty, mirrored⟩ := durable.mirrored key block timeout s offloaded success
  have positive := Nat.lt_of_lt_of_le (List.length_pos_iff.mpr nonempty) longer
  have untimed : d.limitOf (.fetch key dest none) = none := by
    rw [limitOf, durable.mirrors.unlimited]
    rfl
  have ran := World.run_alone (α := Empty) durable.orderly untimed
  have fetched := fetched_complete durable.orderly.mapped named positive none
  have accepts := inside.shorter longer
  have serves : d.Serves dest (content key) (d.complete (.fetch key dest none)) := by
    -- if the first tier has evicted the block, the second one brings it
    cases found : d.tier.cache.find? key with
    | some e => exact fetched.serves_resident found (durable.intact.resident key e found) accepts
    | none =>
      exact fetched.serves_absent found (mirrored.brings durable.mirrors durable.intact) accepts
  obtain ⟨s', answered, succeeded, leaves⟩ := serves
  rw [answered] at ran
  exact ⟨_, s', ran, succeeded, leaves.reads⟩

/-- A sidecar that writes through, with a first tier of two bytes. -/
def writingThrough : Deployment :=
  { Deployment.single (.new 2) [1, 2, 0, 0] [0, 0] with policy := .writeThrough }

/-- The sidecar when both tiers have a block of two bytes. -/
def doublyStored : Deployment :=
  { writingThrough with
    tier.cache :=
      { allocator := ⟨2, 2, [], [], [⟨0, 2⟩]⟩
        entries := [("k", ⟨0, 2⟩)]
        recency := [⟨"k", 2⟩]
        counters := { insertions := 1 } }
    tier.copier.pool := [1, 2]
    tier.copier.stats := { toHostBytes := 2, toHostCopies := 1 }
    l2.counters := { puts := 1 }
    fleet.stores := [("n", { blocks := [("k", [0, 1, 2])], used := 3 })]
    tally := { offloadsL1 := 1 } }

theorem complete_writingThrough : writingThrough.complete (.offload "k" ⟨0, 0, 2⟩ none) =
    (doublyStored, .status (.ok "stored in L1 and L2")) := by
  let taken : Deployment :=
    { writingThrough with tier.cache.allocator := ⟨2, 2, [], [], [⟨0, 2⟩]⟩ }
  let stored : Deployment := { doublyStored with l2 := writingThrough.l2, fleet := {} }
  let read : Deployment := { doublyStored with fleet := {} }
  let putting : Stage := .entering (.put "k" ⟨0, 0, 2⟩ .offload)
  let storing : Stage := .storing ⟨"k", ⟨0, 2⟩, .toPool [1, 2] ⟨0, 2⟩, 0⟩ ⟨0, 0, 2⟩ .offload 0
  let reading : Stage := .entering (.read "k" .writeThrough)
  let sending : Stage := .sending ⟨"n", "h", 1, .up⟩ "k" [0, 1, 2] .writeThrough 0
  have takes : (writingThrough.locked.wake putting).resume putting =
      (taken.locked, .wait storing) := by cbv
  have stores : (taken.locked.wake storing).resume storing = (stored, .wait reading) := by cbv
  have reads : (stored.locked.wake reading).resume reading = (read, .wait sending) := by cbv
  have sends : (read.wake sending).resume sending =
      (doublyStored, .done (.status (.ok "stored in L1 and L2"))) := by cbv
  calc
    _ = writingThrough.locked.carry putting := rfl
    _ = taken.locked.carry storing := carry_of_resume takes
    _ = stored.locked.carry reading := carry_of_resume stores
    _ = read.carry sending := carry_of_resume reads
    _ = _ := carry_of_resume sends

/-- The sidecar when its first tier has been emptied again. -/
def mirrored : Deployment :=
  { doublyStored with
    tier.cache :=
      { allocator := ⟨2, 0, [⟨0, 2⟩], [⟨0, 2⟩], []⟩
        counters := { insertions := 1, evictions := 1 } } }

theorem complete_doublyStored : doublyStored.complete (.makeRoom 2) =
    (mirrored, .status (.ok "2 bytes free in L1 (evicted 1)")) := by
  let clearing : Stage := .entering (.makeRoom 2)
  have evicts : doublyStored.tier.cache.evictUntil 2 0 = mirrored.tier.cache.evictUntil 2 1 := by
    rw [L1.Cache.evictUntil, if_neg (by decide)]
    rfl
  have enough : mirrored.tier.cache.evictUntil 2 1 = (mirrored.tier.cache, 1) := by
    rw [L1.Cache.evictUntil, if_pos (by decide)]
  have clears : doublyStored.tier.makeRoom 2 =
      (mirrored.tier, .ok "2 bytes free in L1 (evicted 1)") := by
    rw [L1.Tier.makeRoom, L1.Cache.makeRoom, evicts, enough]
    rfl
  have empties : (doublyStored.locked.wake clearing).resume clearing =
      (mirrored, .done (.status (.ok "2 bytes free in L1 (evicted 1)"))) := by
    rw [resume, enter, show (doublyStored.locked.wake clearing).tier = doublyStored.tier from rfl,
      clears]
    rfl
  calc
    _ = doublyStored.locked.carry clearing := rfl
    _ = _ := carry_of_resume empties

/-- A block that is offloaded and then evicted from the first tier. -/
theorem offloaded_never_lost_once_evicted : ∃ log d d' s,
    Session (fun _ => [1, 2]) writingThrough log d ∧
      (.offload "k" ⟨0, 0, 2⟩ none, .status (.ok "stored in L1 and L2")) ∈ log ∧
      d.tier.cache.find? "k" = none ∧
      World.run ⟨d, []⟩ (.one (.call (.fetch "k" ⟨0, 2, 2⟩ none) : Job Empty)) =
        (⟨d', []⟩, [.inl (.status s)]) ∧ s.success = true ∧
      d'.tier.copier.readDevice ⟨0, 2, 2⟩ = .ok [1, 2] := by
  have fresh : writingThrough.Fresh 2 := ⟨rfl, rfl⟩
  have quiet : Reachable writingThrough ⟨writingThrough, .none⟩ := ⟨[], .refl _⟩
  have reached := quiet.complete fresh (c := .offload "k" ⟨0, 0, 2⟩ none) rfl
  have offloads := World.run_alone (α := Empty) (c := .offload "k" ⟨0, 0, 2⟩ none)
    (quiet.orderly fresh) rfl
  rw [complete_writingThrough] at reached offloads
  have clears := World.run_alone (α := Empty) (c := .makeRoom 2) (reached.orderly fresh) rfl
  rw [complete_doublyStored] at clears
  have presents : (Call.offload "k" ⟨0, 0, 2⟩ none).Presents (fun _ => [1, 2]) writingThrough := by
    rintro _ _ _ _ ⟨⟩ _ ⟨⟩
    rfl
  have session := (Session.new.call (.offload "k" ⟨0, 0, 2⟩ none) trivial presents rfl
    offloads).call (.makeRoom 2) trivial (fun _ _ _ _ absent => by cases absent) rfl clears
  have mirrors : writingThrough.Mirrors :=
    ⟨rfl, rfl, rfl, rfl, rfl, fun _ _ absent => by cases absent⟩
  have stored (id key : String) (frame : Bytes)
      (absent : writingThrough.fleet.frame? id key = some frame) :
      writingThrough.l2.codec.decode frame = .ok [1, 2] := by
    cases absent
  have inside : mirrored.tier.copier.Accepts ⟨0, 2, 2⟩ 2 :=
    ⟨Nat.le_refl _, [1, 2, 0, 0], rfl, by decide⟩
  obtain ⟨d', s, ran, success, read⟩ := offloaded_never_lost fresh stored (fun _ _ => rfl) mirrors
    session (List.mem_cons_of_mem _ List.mem_cons_self) rfl inside (Nat.le_refl _)
  exact ⟨_, _, d', s, session, List.mem_cons_of_mem _ List.mem_cons_self, rfl, ran, success, read⟩

end BlockTier.Sidecar
