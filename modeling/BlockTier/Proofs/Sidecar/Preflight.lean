import BlockTier.Proofs.L2.LastPut
import BlockTier.Proofs.Sidecar.RoundTrip
/-!
A check of a key tells what a fetch of it will come to.
-/
namespace BlockTier

/-- Each frame was written by a connector, whatever its settings were. -/
def L2.Fleet.Encoded (f : L2.Fleet) (scheme : L2.Scheme) : Prop :=
  ∀ id key frame, f.frame? id key = some frame →
    ∃ codec : L2.Codec, ∃ data, codec.scheme = scheme ∧ frame = codec.encode data

namespace Sidecar

open Deployment Traffic

variable {α : Type} {capacity : Nat} {start d : Deployment} {key : String} {dest : BlockRef}

namespace Deployment

/-- The owner of the key can be reached and holds it. -/
def Backing (d : Deployment) (key : String) : Prop :=
  ∃ node, d.l2.owner? key = some node ∧ d.fleet.holds node key = .ok true

theorem success_finishExists (l2 : L2.Connector) (node : Node)
    (r : Except L2.TransportError Bool) :
    (l2.finishExists node r).2.success = true ↔ r = .ok true := by
  cases r with
  | error e => simp [L2.Connector.finishExists, (code_transportFailure l2 e).1]
  | ok present =>
    cases present <;>
      simp [L2.Connector.finishExists, Status.ok, Status.notFound, Status.failure]

theorem probed (d : Deployment) (key : String) :
    ∃ b, (conclude (d.probe key .check (probeAnswer .check))).2 = .flag b ∧
      (b = true ↔ d.Backing key) := by
  unfold Backing probe L2.Connector.route
  cases d.l2.owner? key with
  | none => exact ⟨false, rfl, by simp⟩
  | some node =>
    simp only [conclude, arrive]
    rw [carry_eq]
    refine ⟨(d.l2.finishExists node (d.fleet.holds node key)).2.success, rfl, ?_⟩
    rw [success_finishExists]
    simp only [Option.some.injEq, exists_eq_left']

theorem checked (d : Deployment) (key : String) :
    ∃ b, (d.complete (.check key)).2 = .flag b ∧
      (b = true ↔ (d.tier.cache.find? key).isSome ∨ d.Backing key) := by
  have contains (c : L1.Cache) : c.contains key = (c.find? key).isSome := rfl
  simp only [complete, begin, conclude, arrive]
  rw [carry_eq]
  simp only [resume, wake, enter, afterContains, contains]
  cases (d.tier.cache.find? key).isSome with
  | true => exact ⟨true, rfl, by simp⟩
  | false =>
    obtain ⟨b, answered, found⟩ := probed (wake { d with lock := d.lock.request 0 }
      (.entering (.contains key .check))).unlock key
    refine ⟨b, answered, found.trans ?_⟩
    simp [Backing, wake, unlock]

theorem brings_of_backing (lawful : d.l2.codec.scheme.Lawful)
    (encoded : d.fleet.Encoded d.l2.codec.scheme) (backing : d.Backing key) :
    ∃ data, d.Brings key data := by
  obtain ⟨node, owner, present⟩ := backing
  rw [L2.Fleet.holds_eq] at present
  cases reached : d.fleet.reach node with
  | error e =>
    rw [reached] at present
    cases present
  | ok _ =>
    rw [reached] at present
    cases found : d.fleet.frame? node.id key with
    | none =>
      rw [found] at present
      cases present
    | some frame =>
      obtain ⟨codec, data, same, rfl⟩ := encoded node.id key frame found
      refine ⟨data, node, _, owner, ?_, lawful.reads_encode same data _ rfl⟩
      rw [L2.Fleet.get_eq, reached, found]
      rfl

theorem lacks_of_reaches (reaches : d.Reaches key) (absent : ¬ d.Backing key) : d.Lacks key := by
  obtain ⟨node, owner, reached⟩ := reaches
  refine ⟨node, owner, ?_⟩
  cases holds : d.fleet.holds node key with
  | error e =>
    rw [L2.Fleet.holds_eq, reached] at holds
    cases holds
  | ok present =>
    cases present with
    | false => rfl
    | true => exact absurd ⟨node, owner, holds⟩ absent

theorem backing_of_brings {data : Bytes} (brings : d.Brings key data) : d.Backing key := by
  apply Classical.byContradiction
  intro absent
  exact not_lacks_of_brings brings (lacks_of_reaches (reaches_of_brings brings) absent)

/-- A fetch of a key that neither tier has. -/
theorem Fetched.of_absent {r : Deployment × Answer} (fetched : d.Fetched key dest r)
    (unmapped : d.tier.cache.find? key = none) (absent : ¬ d.Backing key) :
    ∃ s, r.2 = .status s ∧ s.success = false ∧ (d.Reaches key → s.code = .notFound) ∧
      (¬ d.Reaches key → s.code = .unavailable) := by
  cases fetched with
  | hit d' e data found => cases unmapped.symm.trans found
  | backed r unserved backed =>
    cases backed with
    | missed d' s lacks code failure =>
      exact ⟨s, rfl, failure, fun _ => code, absurd (reaches_of_lacks lacks)⟩
    | restored d' s data brings => exact absurd (backing_of_brings brings) absent
    | failed d' s there rejected code failure unreached =>
      exact ⟨s, rfl, failure, fun reaches => absurd (lacks_of_reaches reaches absent) there,
        unreached⟩

end Deployment

/-- A check and a fetch of the same key from the same state agree, if the destination holds whatever
copy there is. When they deny the key, the fetch tells whether its owner was asked. -/
theorem check_agrees_with_fetch (fresh : start.Fresh capacity)
    (reachable : Reachable start ⟨d, .none⟩) (unlimited : d.defaultTimeout = none)
    (lawful : d.l2.codec.scheme.Lawful) (encoded : d.fleet.Encoded d.l2.codec.scheme)
    (named : key.isEmpty = false) (nonzero : 0 < dest.size)
    (inside : d.tier.copier.Accepts dest dest.size)
    (resident : ∀ e, d.tier.cache.find? key = some e → e.size ≤ dest.size)
    (stored : ∀ data, d.Brings key data → data.length ≤ dest.size) :
    ∃ w b w' s,
      World.run ⟨d, []⟩ (.one (.call (.check key) : Job α)) = (w, [.inl (.flag b)]) ∧
      World.run ⟨d, []⟩ (.one (.call (.fetch key dest none) : Job α)) =
        (w', [.inl (.status s)]) ∧
      (b = true ↔ s.success = true) ∧
      (b = false → (d.Reaches key → s.code = .notFound) ∧
        (¬ d.Reaches key → s.code = .unavailable)) := by
  have orderly := reachable.orderly fresh
  obtain ⟨b, answer, told⟩ := d.checked key
  have checks := World.run_alone (α := α) (c := .check key) orderly rfl
  rw [answer] at checks
  obtain ⟨r, fetches, fetched⟩ := run_fetch (α := α) fresh reachable unlimited named nonzero
  have served {data : Bytes} (serves : d.Serves dest data r) (has : b = true) :
      ∃ s, r.2 = .status s ∧ (b = true ↔ s.success = true) ∧
        (b = false → (d.Reaches key → s.code = .notFound) ∧
          (¬ d.Reaches key → s.code = .unavailable)) := by
    obtain ⟨s, answered, success, _⟩ := serves
    refine ⟨s, answered, by simp [has, success], fun denied => ?_⟩
    rw [has] at denied
    cases denied
  suffices ∃ s, r.2 = .status s ∧ (b = true ↔ s.success = true) ∧
      (b = false → (d.Reaches key → s.code = .notFound) ∧
        (¬ d.Reaches key → s.code = .unavailable)) by
    obtain ⟨s, answered, agrees, denied⟩ := this
    rw [answered] at fetches
    exact ⟨_, b, _, s, checks, fetches, agrees, denied⟩
  cases found : d.tier.cache.find? key with
  | some e =>
    obtain ⟨data, held, size⟩ := Copier.readPool_of_stop_le (orderly.mapped key e found)
    refine served (fetched.serves_resident found held (inside.shorter ?_)) (told.mpr (Or.inl ?_))
    · rw [size]
      exact resident e found
    · rw [found]
      rfl
  | none =>
    by_cases backing : d.Backing key
    · obtain ⟨data, brings⟩ := brings_of_backing lawful encoded backing
      exact served (fetched.serves_absent found brings (inside.shorter (stored data brings)))
        (told.mpr (Or.inr backing))
    · obtain ⟨s, answered, failure, missing, unreached⟩ := fetched.of_absent found backing
      have denied : b ≠ true := by
        intro has
        rcases told.mp has with resident | backs
        · rw [found] at resident
          cases resident
        · exact backing backs
      exact ⟨s, answered, by simp [denied, failure], fun _ => ⟨missing, unreached⟩⟩

/-- A sidecar whose only block is in the second tier. -/
def backed : Deployment :=
  { Deployment.single (.new 2) [0, 0, 0, 0] [0, 0] with
    fleet := { stores := [("n", { blocks := [("k", [0, 1, 2, 3])], used := 4 })] } }

theorem encoded_backed : backed.fleet.Encoded backed.l2.codec.scheme := by
  intro id key frame found
  obtain ⟨store, here, held⟩ := Option.bind_eq_some_iff.mp found
  have entry : (if id = "n" then some _ else none) = some store := here
  split at entry
  · cases entry
    have block : (if key = "k" then some [0, 1, 2, 3] else none) = some frame := held
    split at block
    · cases block
      exact ⟨backed.l2.codec, [1, 2, 3], rfl, rfl⟩
    · cases block
  · cases entry

/-- A block that is longer than the first tier. -/
theorem check_agrees_on_backed_key : ∃ w w' s,
    World.run ⟨backed, []⟩ (.one (.call (.check "k") : Job Empty)) = (w, [.inl (.flag true)]) ∧
      World.run ⟨backed, []⟩ (.one (.call (.fetch "k" ⟨0, 0, 4⟩ none) : Job Empty)) =
        (w', [.inl (.status s)]) ∧ s.success = true := by
  have fresh : backed.Fresh 2 := ⟨rfl, rfl⟩
  have quiet : Reachable backed ⟨backed, .none⟩ := ⟨[], .refl _⟩
  have inside : backed.tier.copier.Accepts ⟨0, 0, 4⟩ 4 :=
    ⟨Nat.le_refl _, [0, 0, 0, 0], rfl, by decide⟩
  have brings : backed.Brings "k" [1, 2, 3] :=
    ⟨⟨"n", "h", 1, .up⟩, [0, 1, 2, 3], rfl, rfl, rfl⟩
  obtain ⟨found, answer, told⟩ := backed.checked "k"
  have ran := World.run_alone (α := Empty) (c := .check "k") (quiet.orderly fresh) rfl
  rw [answer, told.mpr (Or.inr (backing_of_brings brings))] at ran
  have named : "k".isEmpty = false := by decide
  have nonzero : 0 < (⟨0, 0, 4⟩ : BlockRef).size := by decide
  obtain ⟨w, b, w', s, checks, fetches, agrees, _⟩ :=
    check_agrees_with_fetch (α := Empty) fresh quiet rfl (fun _ _ => rfl) encoded_backed named
      nonzero inside nofun (fun data other => by cases brings_unique brings other; decide)
  cases ran.symm.trans checks
  exact ⟨_, w', s, ran, fetches, agrees.mp rfl⟩

/-- A destination without a byte in it is refused before either tier is asked. -/
theorem check_disagrees_on_empty_destination : ∃ d w w' s,
    World.run ⟨d, []⟩ (.one (.call (.check "k") : Job Empty)) = (w, [.inl (.flag false)]) ∧
      World.run ⟨d, []⟩ (.one (.call (.fetch "k" ⟨0, 0, 0⟩ none) : Job Empty)) =
        (w', [.inl (.status s)]) ∧
      d.Reaches "k" ∧ s.code = .invalidArgument ∧
      d.Fresh 2 ∧ Reachable d ⟨d, .none⟩ ∧ d.defaultTimeout = none ∧
      d.l2.codec.scheme.Lawful ∧ d.fleet.Encoded d.l2.codec.scheme ∧
      d.tier.cache.allocator.capacity ≤ d.tier.copier.pool.length ∧
      d.tier.copier.Accepts ⟨0, 0, 0⟩ 0 ∧ d.tier.cache.find? "k" = none ∧
      ∀ data, ¬ d.Brings "k" data := by
  let d : Deployment := .single (.new 2) [0, 0] [0, 0]
  have fresh : d.Fresh 2 := ⟨rfl, rfl⟩
  have quiet : Reachable d ⟨d, .none⟩ := ⟨[], .refl _⟩
  have lacks : d.Lacks "k" := ⟨⟨"n", "h", 1, .up⟩, rfl, rfl⟩
  have checks := World.run_alone (α := Empty) (c := .check "k") (quiet.orderly fresh) rfl
  have fetches := World.run_alone (α := Empty) (c := .fetch "k" ⟨0, 0, 0⟩ none)
    (quiet.orderly fresh) rfl
  obtain ⟨found, answer, told⟩ := d.checked "k"
  have absent : found = false := by
    rw [Bool.eq_false_iff]
    intro there
    rcases told.mp there with resident | ⟨node, owner, held⟩
    · cases resident
    · obtain ⟨node', owner', lacking⟩ := lacks
      cases owner.symm.trans owner'
      cases held.symm.trans lacking
  rw [answer, absent] at checks
  refine ⟨d, _, _, .failure .invalidArgument "zero-sized block", checks, fetches,
    reaches_of_lacks lacks, rfl, fresh, quiet, rfl, fun _ _ => rfl, fun id key frame found => ?_,
    Nat.le_refl 2, ⟨Nat.le_refl 0, [0, 0], rfl, by decide⟩, rfl, fun data brings => ?_⟩
  · cases found
  · exact not_lacks_of_brings brings lacks

end Sidecar

end BlockTier
