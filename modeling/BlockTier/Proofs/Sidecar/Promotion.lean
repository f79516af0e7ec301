import BlockTier.Proofs.L1.Room
import BlockTier.Proofs.Sidecar.RoundTrip
import BlockTier.Proofs.Sidecar.SerialOrder
/-!
What a fetch leaves that succeeds. A block from the second tier that the first one can hold is
there afterwards, so the next fetch of it asks no node.
-/
namespace BlockTier

theorem Copier.accepts_of_readDevice {c : Copier} {b : BlockRef} {data : Bytes}
    (fits : data.length ≤ b.size) (read : c.readDevice (b.withSize data.length) = .ok data) :
    c.Accepts b data.length := by
  obtain ⟨region, device, sliced⟩ := readDevice_eq_ok_iff.mp read
  obtain ⟨_, inside, _⟩ := Bytes.slice?_eq_some_iff.mp sliced
  exact ⟨fits, region, device, inside⟩

namespace L1.Tier

variable {t : Tier} {key : String} {block : BlockRef} {data : Bytes}

theorem held_of_put (h : t.cache.Consistent none)
    (roomy : t.cache.allocator.capacity ≤ t.copier.pool.length) (positive : 0 < block.size)
    (fits : block.size ≤ t.cache.allocator.capacity)
    (other : (t.cache.find? key).map (·.size) ≠ some block.size)
    (read : t.copier.readDevice block = .ok data) :
    ∃ e, (t.put key block).1.cache.find? key = some e ∧
      (t.put key block).1.copier.readPool e = .ok data := by
  have begun := h.beginPut key block.size
  have begins := t.beginPut_begins key block
  obtain ⟨e, n, acquired, size⟩ := h.acquired positive fits other
  unfold put
  generalize t.beginPut key block = r at begins ⊢
  cases begins with
  | resident e' s found size' success =>
    rw [found, Option.map_some, size'] at other
    exact absurd rfl other
  | refused refusal refused =>
    rw [acquired] at refused
    cases refused
  | unread e' n' error taken unread =>
    cases acquired.symm.trans taken
    have reads := begin?_store_eq_ok_iff.mpr ⟨data, read, size.symm, rfl⟩
    rw [unread] at reads
    cases reads
  | reading e' n' data' taken read' size' =>
    cases acquired.symm.trans taken
    cases read.symm.trans read'
    have reserved := begun.consistent
    rw [taken] at reserved
    have inside : e.stop ≤ t.copier.pool.length := by
      refine Nat.le_trans reserved.reserved_stop_le ?_
      rw [begun.shrinks.capacity]
      exact roomy
    have ends := finishPut_ends { t with cache := (t.cache.beginPut key block.size).1 }
      ⟨key, e, .toPool data e, n⟩
    dsimp only
    generalize finishPut _ _ = r at ends ⊢
    cases ends with
    | stored placed copier status written same success =>
      refine ⟨e, (Cache.find?_commitPut _ key e key).trans (if_pos rfl), ?_⟩
      rw [Copier.readPool_congr same.pool]
      exact Copier.readPool_writePool written
    | failed error unwritten =>
      obtain ⟨placed, written⟩ :=
        Copier.writePool_of_stop_le ((Copier.length_readDevice read).trans size') inside
      rw [Copier.place, written] at unwritten
      cases unwritten

theorem put_of_unfit (h : t.cache.Consistent none)
    (unfit : block.size = 0 ∨ t.cache.allocator.capacity < block.size) :
    (t.put key block).1 = { t with cache := t.cache.countRejection } := by
  obtain ⟨refusal, refused⟩ := h.refused unfit key
  rw [put, beginPut, refused]

end L1.Tier

namespace Sidecar

open Deployment Traffic

variable {α : Type} {capacity : Nat} {start d d' : Deployment} {key : String} {dest : BlockRef}
  {data : Bytes}

namespace Deployment

theorem tier_promotion (d : Deployment) (key : String) (block : BlockRef) :
    (d.carry (.entering (.put key block .promotion))).1.tier = (d.tier.put key block).1 ∧
      (d.carry (.entering (.put key block .promotion))).1.defaultTimeout = d.defaultTimeout := by
  rw [carry_eq, resume, enter, L1.Tier.put,
    show (d.wake (.entering (.put key block .promotion))).tier = d.tier from rfl]
  cases d.tier.beginPut key block with
  | mk tier out =>
    cases out with
    | inl s => exact ⟨rfl, rfl⟩
    | inr storing =>
      simp only [conclude, arrive]
      rw [carry_eq]
      exact ⟨rfl, rfl⟩

/-- The first tier holds these bytes for the key. -/
def Stocks (d : Deployment) (key : String) (data : Bytes) : Prop :=
  ∃ e, d.tier.cache.find? key = some e ∧ d.tier.copier.readPool e = .ok data

theorem Refills.defaultTimeout {r : Deployment × Answer}
    (refills : d.Refills key dest data r) : r.1.defaultTimeout = d.defaultTimeout := by
  obtain ⟨d₁, rests, leaves, rfl⟩ := refills
  exact (tier_promotion d₁ key _).2.trans rests.defaultTimeout

theorem Refills.stocks {r : Deployment × Answer} (refills : d.Refills key dest data r)
    (consistent : d.tier.cache.Consistent none)
    (roomy : d.tier.cache.allocator.capacity ≤ d.tier.copier.pool.length)
    (unserved : ∀ e, d.tier.cache.find? key = some e → ¬ d.tier.copier.Accepts dest e.size)
    (positive : 0 < data.length) (fits : data.length ≤ d.tier.cache.allocator.capacity) :
    r.1.Stocks key data := by
  obtain ⟨d₁, rests, leaves, rfl⟩ := refills
  have capacity : d₁.tier.cache.allocator.capacity = d.tier.cache.allocator.capacity :=
    congrArg (fun c => c.allocator.capacity) rests.cache
  rw [Stocks, (tier_promotion d₁ key _).1]
  rw [← capacity] at roomy fits
  rw [← rests.pool] at roomy
  refine L1.Tier.held_of_put (consistent.of_uncounted rests.cache) roomy positive fits ?_
    leaves.reads
  -- a resident block of this size would have been written to the destination
  intro same
  rw [L1.Cache.find?_of_uncounted rests.cache] at same
  obtain ⟨e, found, size⟩ := Option.map_eq_some_iff.mp same
  exact unserved e found (size ▸ leaves.accepts)

theorem Refills.rests {r : Deployment × Answer} (refills : d.Refills key dest data r)
    (consistent : d.tier.cache.Consistent none)
    (unfit : data.length = 0 ∨ d.tier.cache.allocator.capacity < data.length) : d.Rests r.1 := by
  have timeout := refills.defaultTimeout
  obtain ⟨d₁, rests, leaves, rfl⟩ := refills
  have capacity : d₁.tier.cache.allocator.capacity = d.tier.cache.allocator.capacity :=
    congrArg (fun c => c.allocator.capacity) rests.cache
  have kept := (tier_promotion d₁ key (dest.withSize data.length)).1
  rw [L1.Tier.put_of_unfit (consistent.of_uncounted rests.cache) (capacity ▸ unfit)] at kept
  refine ⟨?_, ?_, timeout⟩
  · rw [kept]
    exact rests.cache
  · rw [kept]
    exact rests.pool

theorem Fetched.of_stocked {r : Deployment × Answer} (fetched : d.Fetched key dest r)
    (stocks : d.Stocks key data) (accepts : d.tier.copier.Accepts dest data.length) :
    r.2 = .status (.ok "hit in L1") ∧ r.1.l2 = d.l2 ∧ r.1.fleet = d.fleet ∧
      d.Leaves dest data r.1 := by
  obtain ⟨e, found, held⟩ := stocks
  cases fetched with
  | hit d' e' data' found' read leaves l2 fleet =>
    cases found.symm.trans found'
    cases held.symm.trans read
    exact ⟨rfl, l2, fleet, leaves⟩
  | backed r unserved backed =>
    rw [Copier.length_readPool held] at accepts
    exact absurd accepts (unserved e found)

theorem Leaves.wrote (leaves : d.Leaves dest data d') :
    d.tier.copier.Wrote d'.tier.copier dest data := by
  obtain ⟨placed, written, devices⟩ := leaves
  exact (Copier.wrote_of_writeDevice written).of_devices devices

end Deployment

/-- A fetch of the key is served by the first tier, whatever the second tier is: it asks no node,
and it writes these bytes. -/
def ServesAlone (α : Type) (d : Deployment) (key : String) (dest : BlockRef) (data : Bytes) :
    Prop :=
  ∀ l2 fleet, ∃ w,
    World.run ⟨{ d with l2, fleet }, []⟩ (.one (.call (.fetch key dest none) : Job α)) =
        (w, [.inl (.status (.ok "hit in L1"))]) ∧
      w.deployment.l2 = l2 ∧ w.deployment.fleet = fleet ∧
      d.tier.copier.Wrote w.deployment.tier.copier dest data

theorem servesAlone_of_stocks (orderly : Orderly capacity ⟨d, .none⟩)
    (unlimited : d.defaultTimeout = none) (named : key.isEmpty = false) (nonzero : 0 < dest.size)
    (stocks : d.Stocks key data) (accepts : d.tier.copier.Accepts dest data.length) :
    ServesAlone α d key dest data := by
  intro l2 fleet
  have same : Orderly capacity ⟨{ d with l2, fleet }, .none⟩ :=
    ⟨orderly.lock, orderly.cache, orderly.sound, orderly.mapped⟩
  have untimed : limitOf { d with l2, fleet } (.fetch key dest none) = none := by
    simp [limitOf, unlimited]
  have fetched := fetched_complete same.mapped named nonzero none
  obtain ⟨answered, l2_eq, fleet_eq, leaves⟩ := fetched.of_stocked (d := { d with l2, fleet })
    stocks accepts
  refine ⟨⟨(complete { d with l2, fleet } (.fetch key dest none)).1, []⟩,
    (World.run_alone same untimed).trans ?_, l2_eq, fleet_eq, leaves.wrote⟩
  rw [answered]

theorem accepted_of_fetch {s : Status} {timeout : Option Nat}
    (answered : (d.complete (.fetch key dest timeout)).2 = .status s)
    (success : s.success = true) : key.isEmpty = false ∧ 0 < dest.size := by
  apply refusal?_eq_none_iff.mp
  cases refused : refusal? key dest.size with
  | none => rfl
  | some r =>
    rw [complete, begin, refused] at answered
    cases answered
    rw [failed_of_refusal? refused] at success
    cases success

/-- A fetch that succeeds has written the resident block, or else the one that the second tier
holds. In the second case the block is resident afterwards if the first tier can hold it; if it
cannot, the first tier is as it was but for its counts. -/
theorem fetch_fills_first_tier {w : World} {s : Status} (fresh : start.Fresh capacity)
    (reachable : Reachable start ⟨d, .none⟩) (unlimited : d.defaultTimeout = none)
    (roomy : capacity ≤ d.tier.copier.pool.length)
    (ran : World.run ⟨d, []⟩ (.one (.call (.fetch key dest none) : Job α)) =
      (w, [.inl (.status s)])) (success : s.success = true) :
    ∃ data, d.tier.copier.Wrote w.deployment.tier.copier dest data ∧
      (s = .ok "hit in L1" ∧ d.Stocks key data ∨
        (∀ e, d.tier.cache.find? key = some e → ¬ d.tier.copier.Accepts dest e.size) ∧
          d.Brings key data ∧
          (0 < data.length → data.length ≤ capacity → w.deployment.Stocks key data ∧
            ServesAlone α w.deployment key dest data) ∧
          (data.length = 0 ∨ capacity < data.length →
            w.deployment.tier.cache.uncounted = d.tier.cache.uncounted ∧
              w.deployment.tier.copier.pool = d.tier.copier.pool)) := by
  have orderly := reachable.orderly fresh
  have consistent := orderly.consistent_of_none
  have capacity_eq : d.tier.cache.allocator.capacity = capacity := orderly.cache.capacity_eq
  have untimed : d.limitOf (.fetch key dest none) = none := by simp [limitOf, unlimited]
  rw [World.run_alone orderly untimed] at ran
  cases ended : d.complete (.fetch key dest none) with
  | mk d' a =>
    rw [ended] at ran
    cases ran
    obtain ⟨named, nonzero⟩ := accepted_of_fetch (congrArg Prod.snd ended) success
    have fetched := fetched_complete orderly.mapped named nonzero none
    have reached := reachable.complete fresh untimed
    rw [ended] at fetched reached
    cases fetched with
    | hit _ e data found read leaves => exact ⟨data, leaves.wrote, Or.inl ⟨rfl, e, found, read⟩⟩
    | backed _ unserved backed =>
      cases backed with
      | missed _ _ lacks code failure =>
        rw [failure] at success
        cases success
      | failed _ _ there rejected code failure =>
        rw [failure] at success
        cases success
      | restored _ _ data brings leaves _ code refills =>
        refine ⟨data, leaves.wrote, Or.inr ⟨unserved, brings, fun positive fits => ?_,
          fun unfit => ?_⟩⟩
        · rw [← capacity_eq] at roomy fits
          have stocks := refills.stocks consistent roomy unserved positive fits
          have accepts := Copier.accepts_of_readDevice leaves.accepts.1 leaves.reads
          exact ⟨stocks, servesAlone_of_stocks (reached.orderly fresh)
            (refills.defaultTimeout.trans unlimited) named nonzero stocks accepts⟩
        · rw [← capacity_eq] at unfit
          have rests := refills.rests consistent unfit
          exact ⟨rests.cache, rests.pool⟩

/-- A block of two bytes that only the second tier holds. -/
theorem fetch_promotes_block : ∃ d w s,
    World.run ⟨d, []⟩ (.one (.call (.fetch "k" ⟨0, 1, 3⟩ none) : Job Empty)) =
        (w, [.inl (.status s)]) ∧ s.success = true ∧ d.tier.cache.find? "k" = none ∧
      w.deployment.Stocks "k" [1, 2] ∧ ServesAlone Empty w.deployment "k" ⟨0, 1, 3⟩ [1, 2] := by
  let d : Deployment := { Deployment.single (.new 4) [0, 0, 0, 0] [0, 0, 0, 0] with
    fleet := { stores := [("n", { blocks := [("k", [0, 1, 2])], used := 3 })] } }
  have brings : d.Brings "k" [1, 2] := ⟨⟨"n", "h", 1, .up⟩, [0, 1, 2], rfl, rfl, rfl⟩
  have fresh : d.Fresh 4 := ⟨rfl, rfl⟩
  have quiet : Reachable d ⟨d, .none⟩ := ⟨[], .refl _⟩
  have accepts : d.tier.copier.Accepts ⟨0, 1, 3⟩ 2 := ⟨by decide, [0, 0, 0, 0], rfl, by decide⟩
  have named : "k".isEmpty = false := by decide
  have nonzero : 0 < (⟨0, 1, 3⟩ : BlockRef).size := by decide
  obtain ⟨r, ran, fetched⟩ := run_fetch (α := Empty) fresh quiet rfl named nonzero
  obtain ⟨s, answered, success, _⟩ := fetched.serves_absent rfl brings accepts
  rw [answered] at ran
  obtain ⟨data, _, ⟨_, e, found, _⟩ | ⟨_, brings', fills, _⟩⟩ :=
    fetch_fills_first_tier fresh quiet rfl (Nat.le_refl 4) ran success
  · cases found
  · cases brings_unique brings brings'
    obtain ⟨stocks, serves⟩ := fills (by decide) (by decide)
    exact ⟨d, _, _, ran, success, rfl, stocks, serves⟩

end Sidecar

end BlockTier
