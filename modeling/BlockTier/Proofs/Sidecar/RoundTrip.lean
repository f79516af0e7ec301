import BlockTier.Proofs.Sidecar.LoneOffload
import BlockTier.Proofs.Sidecar.Miss
/-!
An offload and a fetch of the same key, one after the other.
-/
namespace BlockTier.Sidecar

open Deployment Traffic

variable {α : Type} {capacity : Nat} {start d d' : Deployment} {key : String}
  {block dest : BlockRef} {data : Bytes}

namespace Deployment

/-- The copy that stays in the first tier when a block of `size` bytes is too long for it. -/
def stale? (d : Deployment) (key : String) (size : Nat) : Option Bytes :=
  if d.tier.cache.allocator.capacity < size then d.tier.read? key else none

theorem stale?_eq_some_iff {size : Nat} {old : Bytes} : d.stale? key size = some old ↔
    d.tier.cache.allocator.capacity < size ∧
      ∃ e, d.tier.cache.find? key = some e ∧ d.tier.copier.readPool e = .ok old := by
  unfold stale? L1.Tier.read?
  split
  · rename_i exceeds
    cases d.tier.cache.find? key with
    | none => simp
    | some e => cases held : d.tier.copier.readPool e <;> simp [Except.toOption, exceeds, held]
  · rename_i fits
    simp [fits]

theorem length_stale? {size : Nat} {old : Bytes} (stays : d.stale? key size = some old)
    (consistent : d.tier.cache.Consistent none) : old.length < size := by
  obtain ⟨exceeds, e, found, held⟩ := stale?_eq_some_iff.mp stays
  have inside := consistent.stop_le found
  rw [Copier.length_readPool held]
  rw [Extent.stop] at inside
  omega

/-- The call has been answered with success and has left the bytes at the destination. -/
def Serves (d : Deployment) (dest : BlockRef) (data : Bytes) (r : Deployment × Answer) : Prop :=
  ∃ s, r.2 = .status s ∧ s.success = true ∧ d.Leaves dest data r.1

theorem Serves.of_devices {r : Deployment × Answer} (serves : d'.Serves dest data r)
    (same : d'.tier.copier.devices = d.tier.copier.devices) : d.Serves dest data r := by
  obtain ⟨s, answered, success, leaves⟩ := serves
  exact ⟨s, answered, success, leaves.of_devices same⟩

theorem Fetched.serves_resident {r : Deployment × Answer} {e : Extent}
    (fetched : d.Fetched key dest r) (found : d.tier.cache.find? key = some e)
    (held : d.tier.copier.readPool e = .ok data)
    (accepts : d.tier.copier.Accepts dest data.length) : d.Serves dest data r := by
  cases fetched with
  | hit d' e' data' found' read leaves =>
    cases found.symm.trans found'
    cases held.symm.trans read
    exact ⟨_, rfl, rfl, leaves⟩
  | backed r unserved backed =>
    rw [Copier.length_readPool held] at accepts
    exact absurd accepts (unserved e found)

theorem Fetched.serves_absent {r : Deployment × Answer} (fetched : d.Fetched key dest r)
    (absent : d.tier.cache.find? key = none) (brings : d.Brings key data)
    (accepts : d.tier.copier.Accepts dest data.length) : d.Serves dest data r := by
  cases fetched with
  | hit d' e data' found read leaves => cases absent.symm.trans found
  | backed r unserved backed =>
    cases backed with
    | missed d' s lacks code failure => exact absurd lacks (not_lacks_of_brings brings)
    | restored d' s data' brings' leaves success code =>
      cases brings_unique brings brings'
      exact ⟨s, rfl, success, leaves⟩
    | failed d' s there rejected code => exact absurd accepts (rejected data brings)

/-- What a fetch that follows an offload writes: the copy that stayed, or else the block. -/
theorem Offloaded.serves {r r' : Deployment × Answer} {s : Status}
    (offloaded : d.Offloaded key block r) (answered : r.2 = .status s)
    (success : s.success = true) (consistent : d.tier.cache.Consistent none)
    (mapped : d.tier.Mapped) (accepts : d.tier.copier.Accepts dest block.size)
    (fetched : r.1.Fetched key dest r') :
    ∃ data, d.tier.copier.readDevice block = .ok data ∧
      d.Serves dest ((d.stale? key block.size).getD data) r' := by
  cases offloaded with
  | stored d' s' e data read fits found held devices timeout =>
    have fresh : d.stale? key block.size = none := if_neg (by omega)
    rw [← Copier.length_readDevice read, ← Copier.accepts_congr devices] at accepts
    refine ⟨data, read, ?_⟩
    rw [fresh, Option.getD_none]
    exact (fetched.serves_resident found held accepts).of_devices devices
  | sent d' s' data read brings kept pool devices timeout =>
    refine ⟨data, read, Serves.of_devices ?_ devices⟩
    rw [← Copier.accepts_congr devices] at accepts
    cases stays : d.stale? key block.size with
    | some old =>
      -- the old copy is found first
      obtain ⟨exceeds, e, there, held⟩ := stale?_eq_some_iff.mp stays
      rw [if_pos exceeds] at kept
      rw [← Copier.readPool_congr pool] at held
      have shorter := Nat.le_of_lt (length_stale? stays consistent)
      exact fetched.serves_resident (kept.trans there) held (accepts.shorter shorter)
    | none =>
      have absent : d'.tier.cache.find? key = none := by
        rw [kept]
        split
        · rename_i exceeds
          cases there : d.tier.cache.find? key with
          | none => rfl
          | some e =>
            obtain ⟨old, held, _⟩ := Copier.readPool_of_stop_le (mapped key e there)
            rw [stale?_eq_some_iff.mpr ⟨exceeds, e, there, held⟩] at stays
            cases stays
        · rfl
      rw [← Copier.length_readDevice read] at accepts
      exact fetched.serves_absent absent brings accepts
  | failed d' s' failure =>
    cases answered
    rw [failure] at success
    cases success

theorem Offloaded.defaultTimeout {r : Deployment × Answer} {s : Status}
    (offloaded : d.Offloaded key block r) (answered : r.2 = .status s)
    (success : s.success = true) : r.1.defaultTimeout = d.defaultTimeout := by
  cases offloaded with
  | stored d' s' e data read fits found held devices timeout => exact timeout
  | sent d' s' data read brings kept pool devices timeout => exact timeout
  | failed d' s' failure =>
    cases answered
    rw [failure] at success
    cases success

theorem accepted_of_offload {s : Status} {timeout : Option Nat}
    (answered : (d.complete (.offload key block timeout)).2 = .status s)
    (success : s.success = true) : key.isEmpty = false ∧ 0 < block.size := by
  apply refusal?_eq_none_iff.mp
  cases refused : refusal? key block.size with
  | none => rfl
  | some r =>
    rw [complete, begin, refused] at answered
    cases answered
    rw [failed_of_refusal? refused] at success
    cases success

theorem Leaves.reads (leaves : d.Leaves dest data d') :
    d'.tier.copier.readDevice (dest.withSize data.length) = .ok data := by
  obtain ⟨placed, written, devices⟩ := leaves
  rw [Copier.readDevice_congr devices]
  exact Copier.readDevice_writeDevice written

theorem Leaves.reads_iff {served : Bytes} (leaves : d.Leaves dest served d') {n : Nat}
    (longer : served.length ≤ n) (data : Bytes) :
    d'.tier.copier.readDevice (dest.withSize n) = .ok data ↔ ∃ rest, data = served ++ rest ∧
      d.tier.copier.readDevice ((dest.withSize n).past served.length) = .ok rest := by
  obtain ⟨placed, written, devices⟩ := leaves
  rw [Copier.readDevice_congr devices]
  exact Copier.readDevice_writeDevice_past written longer data

end Deployment

/-- After an offload that has succeeded a fetch succeeds, and the bytes of the block are at the
start of the destination unless the block is too long for a first tier that holds another copy: then
it is that copy that is there. -/
theorem fetch_round_trip_iff {w : World} {s : Status} (fresh : start.Fresh capacity)
    (reachable : Reachable start ⟨d, .none⟩) (unlimited : d.defaultTimeout = none)
    (roomy : d.tier.cache.allocator.capacity ≤ d.tier.copier.pool.length)
    (lawful : d.l2.codec.scheme.Lawful)
    (other : (d.tier.cache.find? key).map (·.size) ≠ some block.size)
    (offloaded : World.run ⟨d, []⟩ (.one (.call (.offload key block none) : Job α)) =
      (w, [.inl (.status s)])) (success : s.success = true)
    (inside : d.tier.copier.Accepts dest dest.size) (longer : block.size ≤ dest.size) :
    ∃ data w' s', d.tier.copier.readDevice block = .ok data ∧
      World.run w (.one (.call (.fetch key dest none) : Job α)) = (w', [.inl (.status s')]) ∧
      s'.success = true ∧
      (∀ old, d.stale? key block.size = some old →
        w'.deployment.tier.copier.readDevice (dest.withSize old.length) = .ok old) ∧
      (w'.deployment.tier.copier.readDevice (dest.withSize block.size) = .ok data ↔
        ∀ old, d.stale? key block.size = some old → ∃ rest, data = old ++ rest ∧
          d.tier.copier.readDevice ((dest.withSize block.size).past old.length) = .ok rest) := by
  have orderly := reachable.orderly fresh
  have untimed : d.limitOf (.offload key block none) = none := by simp [limitOf, unlimited]
  rw [World.run_alone orderly untimed] at offloaded
  cases ended : d.complete (.offload key block none) with
  | mk d' a =>
    rw [ended] at offloaded
    cases offloaded
    obtain ⟨named, positive⟩ := accepted_of_offload (congrArg Prod.snd ended) success
    have consistent := orderly.consistent_of_none
    have outcome := offloaded_complete consistent roomy lawful named positive other none
    have reached := reachable.complete fresh untimed
    rw [ended] at outcome reached
    have unlimited' := (outcome.defaultTimeout rfl success).trans unlimited
    obtain ⟨r, ran, fetched⟩ := run_fetch (α := α) fresh reached unlimited' named
      (Nat.lt_of_lt_of_le positive longer)
    obtain ⟨data, read, s', answered, succeeded, leaves⟩ := outcome.serves rfl success consistent
      orderly.mapped (inside.shorter longer) fetched
    rw [answered] at ran
    refine ⟨data, _, s', read, ran, succeeded, fun old stays => ?_, ?_⟩
    · rw [stays] at leaves
      exact leaves.reads
    · cases stays : d.stale? key block.size with
      | none =>
        rw [stays] at leaves
        rw [← Copier.length_readDevice read]
        refine ⟨fun _ _ absent => ?_, fun _ => leaves.reads⟩
        cases absent
      | some old =>
        rw [stays] at leaves
        have longer := Nat.le_of_lt (length_stale? stays consistent)
        rw [Option.getD_some] at leaves
        rw [leaves.reads_iff longer data]
        refine ⟨fun overlaid other stays' => ?_, fun overlaid => overlaid old rfl⟩
        cases stays'
        exact overlaid

/-- The sidecar when the second tier has a block that is too long for the first one. -/
def spilled (key : String) : Deployment :=
  { stocked with
    tier.cache.counters := { insertions := 1, rejections := 1 }
    tier.copier.stats := { toHostBytes := 5, toHostCopies := 2 }
    l2.counters := { puts := 1 }
    fleet.stores := [("n", { blocks := [(key, [0, 2, 3, 4])], used := 4 })]
    tally := { offloadsL1 := 1, offloadsL2 := 1 } }

theorem complete_stocked (either : key = "j" ∨ key = "k") :
    stocked.complete (.offload key ⟨0, 1, 3⟩ none) =
      (spilled key, .status (.ok "promoted to L2: Stored on n")) := by
  let refused : Deployment :=
    { stocked with tier.cache.counters := { insertions := 1, rejections := 1 } }
  let read : Deployment := { spilled key with fleet := {}, tally := stocked.tally }
  let putting : Stage := .entering (.put key ⟨0, 1, 3⟩ .offload)
  let rejection := "block of 3 bytes exceeds L1 capacity of 2 bytes"
  let copying : Stage := .copying (.toBuffer [2, 3, 4]) (.fallback key rejection) 0
  let sending : Stage := .sending ⟨"n", "h", 1, .up⟩ key [0, 2, 3, 4] (.fallback rejection) 0
  have begins : stocked.begin (.offload key ⟨0, 1, 3⟩ none) = (stocked, .wait putting) := by
    rcases either with rfl | rfl <;> rfl
  have rejects : (stocked.locked.wake putting).resume putting = (refused, .wait copying) := by
    rcases either with rfl | rfl <;> cbv
  have reads : (refused.wake copying).resume copying = (read, .wait sending) := by
    rcases either with rfl | rfl <;> cbv
  have sends : (read.wake sending).resume sending =
      (spilled key, .done (.status (.ok "promoted to L2: Stored on n"))) := by
    rcases either with rfl | rfl <;> cbv
  calc
    _ = stocked.locked.carry putting := by rw [complete, begins]; rfl
    _ = refused.carry copying := carry_of_resume rejects
    _ = read.carry sending := carry_of_resume reads
    _ = _ := carry_of_resume sends

/-- The block that is in the first tier is two bytes of the three. -/
theorem fetch_spilled : ∃ d', (spilled "k").complete (.fetch "k" ⟨0, 4, 3⟩ none) =
      (d', .status (.ok "hit in L1")) ∧
    d'.tier.copier.readDevice ⟨0, 4, 3⟩ = .ok [1, 2, 0] := by
  let loaded : Deployment :=
    { spilled "k" with
      tier.cache.counters := { hits := 1, insertions := 1, rejections := 1 }
      tier.copier.devices := [[1, 2, 3, 4, 1, 2, 0]]
      tier.copier.stats := ⟨5, 2, 2, 1, 0⟩
      tally := { offloadsL1 := 1, offloadsL2 := 1, l1Hits := 1 } }
  let getting : Stage := .entering (.get "k" ⟨0, 4, 3⟩ .fetch)
  let loading : Stage := .loading ⟨"k", 2, .toDevice [1, 2] ⟨0, 4, 3⟩⟩ ⟨0, 4, 3⟩ .fetch 0
  have finds : ((spilled "k").locked.wake getting).resume getting =
      ((spilled "k").locked, .wait loading) := by cbv
  have loads : ((spilled "k").locked.wake loading).resume loading =
      (loaded, .done (.status (.ok "hit in L1"))) := by cbv
  refine ⟨loaded, ?_, rfl⟩
  calc
    _ = (spilled "k").locked.carry getting := rfl
    _ = (spilled "k").locked.carry loading := carry_of_resume finds
    _ = _ := carry_of_resume loads

/-- A block that is too long for the first tier, under a key that is not there. -/
theorem fetch_round_trip_overflowed : ∃ w w' s s',
    World.run ⟨stocked, []⟩ (.one (.call (.offload "j" ⟨0, 1, 3⟩ none) : Job Empty)) =
        (w, [.inl (.status s)]) ∧ s.success = true ∧
      World.run w (.one (.call (.fetch "j" ⟨0, 4, 3⟩ none) : Job Empty)) =
        (w', [.inl (.status s')]) ∧ s'.success = true ∧
      w'.deployment.tier.copier.readDevice ⟨0, 4, 3⟩ = .ok [2, 3, 4] := by
  have fresh : (Deployment.single (.new 2) [1, 2, 3, 4, 0, 0, 0] [0, 0]).Fresh 2 := ⟨rfl, rfl⟩
  have offloaded := World.run_alone (α := Empty) (c := .offload "j" ⟨0, 1, 3⟩ none)
    (reachable_stocked.orderly fresh) rfl
  rw [complete_stocked (Or.inl rfl)] at offloaded
  have inside : stocked.tier.copier.Accepts ⟨0, 4, 3⟩ 3 :=
    ⟨Nat.le_refl _, [1, 2, 3, 4, 0, 0, 0], rfl, by decide⟩
  have absent : stocked.tier.cache.find? "j" = none := by cbv
  have other : (stocked.tier.cache.find? "j").map (·.size) ≠ some 3 := by
    rw [absent]
    decide
  obtain ⟨data, w', s', read, ran, success, _, reads⟩ := fetch_round_trip_iff fresh
    reachable_stocked rfl (by decide) (fun _ _ => rfl) other offloaded rfl inside (Nat.le_refl _)
  cases read
  refine ⟨_, w', _, s', offloaded, rfl, ran, success, reads.mpr fun old stays => ?_⟩
  have gone : stocked.stale? "j" 3 = none := by cbv
  rw [gone] at stays
  cases stays

/-- The same block under the key of the block that is there: the fetch finds the old bytes. -/
theorem fetch_round_trip_broken : ∃ w w' s s',
    (Deployment.single (.new 2) [1, 2, 3, 4, 0, 0, 0] [0, 0]).Fresh 2 ∧
      Reachable (.single (.new 2) [1, 2, 3, 4, 0, 0, 0] [0, 0]) ⟨stocked, .none⟩ ∧
      stocked.defaultTimeout = none ∧
      stocked.tier.cache.allocator.capacity = stocked.tier.copier.pool.length ∧
      (stocked.tier.cache.find? "k").map (·.size) = some 2 ∧
      World.run ⟨stocked, []⟩ (.one (.call (.offload "k" ⟨0, 1, 3⟩ none) : Job Empty)) =
        (w, [.inl (.status s)]) ∧ s.success = true ∧
      World.run w (.one (.call (.fetch "k" ⟨0, 4, 3⟩ none) : Job Empty)) =
        (w', [.inl (.status s')]) ∧ s'.success = true ∧
      stocked.tier.copier.readDevice ⟨0, 1, 3⟩ = .ok [2, 3, 4] ∧
      w'.deployment.tier.copier.readDevice ⟨0, 4, 3⟩ = .ok [1, 2, 0] := by
  have fresh : (Deployment.single (.new 2) [1, 2, 3, 4, 0, 0, 0] [0, 0]).Fresh 2 := ⟨rfl, rfl⟩
  have reached := reachable_stocked.complete fresh (c := .offload "k" ⟨0, 1, 3⟩ none) rfl
  have offloaded := World.run_alone (α := Empty) (c := .offload "k" ⟨0, 1, 3⟩ none)
    (reachable_stocked.orderly fresh) rfl
  rw [complete_stocked (Or.inr rfl)] at reached offloaded
  have fetched := World.run_alone (α := Empty) (c := .fetch "k" ⟨0, 4, 3⟩ none)
    (reached.orderly fresh) rfl
  obtain ⟨d', fetches, stale⟩ := fetch_spilled
  rw [fetches] at fetched
  have there : stocked.tier.cache.find? "k" = some ⟨0, 2⟩ := by cbv
  exact ⟨_, _, _, _, fresh, reachable_stocked, rfl, rfl, congrArg (Option.map (·.size)) there,
    offloaded, rfl, fetched, rfl, rfl, stale⟩

end BlockTier.Sidecar
