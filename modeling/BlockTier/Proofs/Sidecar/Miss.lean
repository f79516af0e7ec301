import BlockTier.Proofs.Sidecar.LoneFetch
import BlockTier.Proofs.Sidecar.LoneJob
/-!
What a fetch that reports a miss says about the tiers.
-/
namespace BlockTier.Sidecar

open Deployment Traffic

variable {α : Type} {capacity : Nat} {start d : Deployment} {key : String} {dest : BlockRef}

theorem Deployment.Fetched.notFound_iff {r : Deployment × Answer} (fetched : d.Fetched key dest r) :
    ∃ s, r.2 = .status s ∧ (s.code = .notFound ↔ d.Lacks key ∧
      ∀ e, d.tier.cache.find? key = some e → ¬ d.tier.copier.Accepts dest e.size) := by
  cases fetched with
  | hit d' e data found read leaves =>
    have size := Copier.length_readPool read
    refine ⟨_, rfl, fun missed => ?_, fun unserved => ?_⟩
    · cases missed
    · exact absurd (size ▸ leaves.accepts) (unserved.2 e found)
  | backed r unserved backed =>
    cases backed with
    | missed d' s lacks code failure => exact ⟨s, rfl, fun _ => ⟨lacks, unserved⟩, fun _ => code⟩
    | restored d' s data brings leaves success code =>
      refine ⟨s, rfl, fun missed => ?_, fun unserved => ?_⟩
      · rw [code] at missed
        cases missed
      · exact absurd unserved.1 (not_lacks_of_brings brings)
    | failed d' s there rejected code =>
      exact ⟨s, rfl, fun missed => absurd missed code, fun unserved => absurd unserved.1 there⟩

theorem run_fetch (fresh : start.Fresh capacity) (reachable : Reachable start ⟨d, .none⟩)
    (unlimited : d.defaultTimeout = none) (named : key.isEmpty = false) (nonzero : 0 < dest.size) :
    ∃ r, World.run ⟨d, []⟩ (.one (.call (.fetch key dest none) : Job α)) = (⟨r.1, []⟩, [.inl r.2]) ∧
      d.Fetched key dest r := by
  have orderly := reachable.orderly fresh
  have untimed : d.limitOf (.fetch key dest none) = none := by simp [limitOf, unlimited]
  exact ⟨_, World.run_alone orderly untimed, fetched_complete orderly.mapped named nonzero none⟩

/-- A miss that a fetch reports is one of both tiers, unless the key is resident in the first tier
and the destination does not take its block. -/
theorem fetch_miss_genuine_iff (fresh : start.Fresh capacity)
    (reachable : Reachable start ⟨d, .none⟩) (unlimited : d.defaultTimeout = none)
    (named : key.isEmpty = false) (nonzero : 0 < dest.size) :
    ∃ w s, World.run ⟨d, []⟩ (.one (.call (.fetch key dest none) : Job α)) =
        (w, [.inl (.status s)]) ∧
      (s.code = .notFound ↔ d.Lacks key ∧
        ∀ e, d.tier.cache.find? key = some e → ¬ d.tier.copier.Accepts dest e.size) ∧
      ((s.code = .notFound → d.tier.cache.find? key = none ∧ d.Lacks key) ↔
        (d.Lacks key → ∀ e, d.tier.cache.find? key = some e →
          d.tier.copier.Accepts dest e.size)) := by
  obtain ⟨r, ran, fetched⟩ := run_fetch (α := α) fresh reachable unlimited named nonzero
  obtain ⟨s, answered, missed⟩ := fetched.notFound_iff
  rw [answered] at ran
  refine ⟨_, s, ran, missed, fun genuine lacks e found => ?_, fun served miss => ?_⟩
  · apply Classical.byContradiction
    intro rejects
    have miss := missed.mpr ⟨lacks, fun e' found' => by
      rw [found] at found'
      cases found'
      exact rejects⟩
    have absent := (genuine miss).1
    rw [found] at absent
    cases absent
  · obtain ⟨lacks, unserved⟩ := missed.mp miss
    refine ⟨?_, lacks⟩
    cases found : d.tier.cache.find? key with
    | none => rfl
    | some e => exact absurd (served lacks e found) (unserved e found)

/-- A destination that takes the resident block. -/
theorem fetch_stocked_not_missed : ∃ w s,
    World.run ⟨stocked, []⟩ (.one (.call (.fetch "k" ⟨0, 4, 2⟩ none) : Job Empty)) =
        (w, [.inl (.status s)]) ∧ s.code ≠ .notFound := by
  have fresh : (Deployment.single (.new 2) [1, 2, 3, 4, 0, 0, 0] [0, 0]).Fresh 2 := ⟨rfl, rfl⟩
  have named : "k".isEmpty = false := by decide
  have nonzero : 0 < (⟨0, 4, 2⟩ : BlockRef).size := by decide
  obtain ⟨w, s, ran, missed, _⟩ :=
    fetch_miss_genuine_iff (α := Empty) fresh reachable_stocked rfl named nonzero
  refine ⟨w, s, ran, fun miss => ?_⟩
  have accepts : stocked.tier.copier.Accepts ⟨0, 4, 2⟩ 2 :=
    ⟨Nat.le_refl _, [1, 2, 3, 4, 0, 0, 0], rfl, by decide⟩
  exact (missed.mp miss).2 ⟨0, 2⟩ (by cbv) accepts

/-- A destination that is too small for the resident block: the second tier lacks the key. -/
theorem fetch_stocked_missed : ∃ w s,
    World.run ⟨stocked, []⟩ (.one (.call (.fetch "k" ⟨0, 4, 1⟩ none) : Job Empty)) =
        (w, [.inl (.status s)]) ∧ s.code = .notFound ∧
      stocked.tier.cache.find? "k" = some ⟨0, 2⟩ ∧ stocked.defaultTimeout = none ∧
      (Deployment.single (.new 2) [1, 2, 3, 4, 0, 0, 0] [0, 0]).Fresh 2 ∧
      Reachable (.single (.new 2) [1, 2, 3, 4, 0, 0, 0] [0, 0]) ⟨stocked, .none⟩ := by
  have fresh : (Deployment.single (.new 2) [1, 2, 3, 4, 0, 0, 0] [0, 0]).Fresh 2 := ⟨rfl, rfl⟩
  have named : "k".isEmpty = false := by decide
  have nonzero : 0 < (⟨0, 4, 1⟩ : BlockRef).size := by decide
  have lacks : stocked.Lacks "k" := ⟨⟨"n", "h", 1, .up⟩, rfl, rfl⟩
  have found : stocked.tier.cache.find? "k" = some ⟨0, 2⟩ := by cbv
  obtain ⟨r, ran, fetched⟩ := run_fetch (α := Empty) fresh reachable_stocked rfl named nonzero
  obtain ⟨s, answered, missed⟩ := fetched.notFound_iff
  rw [answered] at ran
  refine ⟨_, s, ran, missed.mpr ⟨lacks, fun e found' accepts => ?_⟩, found, rfl, fresh,
    reachable_stocked⟩
  cases found.symm.trans found'
  exact absurd accepts.1 (by decide)

end BlockTier.Sidecar
