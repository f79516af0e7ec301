import BlockTier.Proofs.Sidecar.Upkeep
/-!
Fetches return what was offloaded: whatever the calls and their order are, a fetch that succeeds has
left the content of its key at its destination.
-/
namespace BlockTier.Sidecar.Traffic

variable {content : String → Bytes} {d d' : Deployment} {t t' : Traffic} {e : Event} {id : Nat}
  {capacity : Nat}

theorem respects_alone {before after : Option Ongoing} (actor : e.actor? = some id)
    (keeps : ∀ o ∈ after, o.call.IsManaged ∧ o.call.Offers content d') :
    Respects content ⟨d, Calls.none.set id before⟩ e ⟨d', Calls.none.set id after⟩ := by
  have only {o' : Option Ongoing} {i : Nat} {o : Ongoing}
      (waits : Calls.none.set id o' i = some o) : i = id ∧ o ∈ o' := by
    by_cases here : i = id
    · rw [here, Calls.set_self] at waits
      exact ⟨here, waits⟩
    · rw [Calls.set_ne _ _ here] at waits
      cases waits
  refine ⟨fun i o waits => (keeps o (only waits).2).1, fun i o waits => (keeps o (only waits).2).2,
    fun i o waits other => ?_, fun m moved => ?_⟩
  · rw [(only waits).1] at other
    exact absurd actor other
  · rw [moved] at actor
    cases actor

/-- Whatever calls there are and in whatever order they go on, a fetch that answers with success has
left exactly the content of its key at the start of its destination. -/
theorem fetch_leaves_content {start : Deployment} {events : List Event} {key : String}
    {dest : BlockRef} {timeout : Option Nat} {s : Status} (fresh : start.Fresh capacity)
    (empty : start.fleet.stores = []) (lawful : start.l2.codec.scheme.Lawful)
    (nonempty : ∀ key, content key ≠ [])
    (steps : Steps (Respects content) ⟨start, .none⟩ events t) (step : Step t e t')
    (respects : Respects content t e t')
    (answered : e = .answers id (.fetch key dest timeout) (.status s))
    (success : s.success = true) :
    t'.deployment.tier.copier.readDevice (dest.withSize (content key).length) =
      .ok (content key) := by
  obtain ⟨orderly, intact⟩ := intact_of_steps fresh empty lawful nonempty steps
  have serves := intact.step nonempty orderly step respects
  exact serves.served id _ _ answered key dest timeout s rfl rfl success

/-- A block of two bytes that is offloaded and then fetched. -/
theorem fetch_leaves_offloaded_content : ∃ events t t',
    Steps (Respects fun _ => [1, 2]) ⟨.single (.new 4) [1, 2, 0, 0] [0, 0, 0, 0], .none⟩ events t ∧
      Step t (.answers 0 (.fetch "k" ⟨0, 2, 2⟩ none) (.status (.ok "hit in L1"))) t' ∧
      t'.deployment.tier.copier.readDevice ⟨0, 2, 2⟩ = .ok [1, 2] := by
  let content : String → Bytes := fun _ => [1, 2]
  let offload : Call := .offload "k" ⟨0, 0, 2⟩ none
  let fetch : Call := .fetch "k" ⟨0, 2, 2⟩ none
  let putting : Stage := .entering (.put "k" ⟨0, 0, 2⟩ .offload)
  let storing : Stage := .storing ⟨"k", ⟨0, 2⟩, .toPool [1, 2] ⟨0, 2⟩, 0⟩ ⟨0, 0, 2⟩ .offload 0
  let getting : Stage := .entering (.get "k" ⟨0, 2, 2⟩ .fetch)
  let loading : Stage := .loading ⟨"k", 2, .toDevice [1, 2] ⟨0, 2, 2⟩⟩ ⟨0, 2, 2⟩ .fetch 0
  let allocator : L1.Allocator := ⟨4, 2, [⟨2, 2⟩], [⟨2, 2⟩], [⟨0, 2⟩]⟩
  let cache (hits : Nat) : L1.Cache :=
    ⟨allocator, [("k", ⟨0, 2⟩)], [⟨"k", 2⟩], { hits, insertions := 1 }⟩
  let new : Deployment := .single (.new 4) [1, 2, 0, 0] [0, 0, 0, 0]
  let taken : Deployment := .single { allocator } [1, 2, 0, 0] [0, 0, 0, 0]
  let stored : Deployment :=
    { Deployment.single (cache 0) [1, 2, 0, 0] [1, 2, 0, 0] with
      tier.copier.stats := { toHostBytes := 2, toHostCopies := 1 }, tally := { offloadsL1 := 1 } }
  let loaded : Deployment :=
    { Deployment.single (cache 1) [1, 2, 1, 2] [1, 2, 0, 0] with
      tier.copier.stats := ⟨2, 2, 1, 1, 0⟩, tally := { offloadsL1 := 1, l1Hits := 1 } }
  have offers (d : Deployment) (same : d.tier.copier.devices = [[1, 2, 0, 0]]) (stage : Stage) :
      ∀ o ∈ some (⟨offload, none, stage⟩ : Ongoing),
        o.call.IsManaged ∧ o.call.Offers content d := by
    rintro _ ⟨⟩
    refine ⟨trivial, ?_⟩
    rintro key block timeout ⟨⟩
    rw [Copier.readDevice_congr (c := new.tier.copier) same]
    rfl
  have fetches (d : Deployment) (stage : Stage) :
      ∀ o ∈ some (⟨fetch, none, stage⟩ : Ongoing),
        o.call.IsManaged ∧ o.call.Offers content d := by
    rintro _ ⟨⟩
    exact ⟨trivial, nofun⟩
  have fresh : new.Fresh 4 := ⟨rfl, rfl⟩
  have first : Step ⟨new, Calls.none.set 0 none⟩ _ _ :=
    step_start_alone offload new (.wait putting) rfl
  have second : Step ⟨new.locked, _⟩ _ _ :=
    step_resume_alone 0 ⟨offload, none, putting⟩ taken.locked (.wait storing) (by cbv) (by cbv)
  have third : Step ⟨taken.locked, _⟩ _ _ :=
    step_resume_alone 0 ⟨offload, none, storing⟩ stored (.done (.status (.ok "stored in L1")))
      (by cbv) (by cbv)
  have fourth : Step ⟨stored, Calls.none.set 0 none⟩ _ _ :=
    step_start_alone fetch stored (.wait getting) rfl
  have fifth : Step ⟨stored.locked, _⟩ _ _ :=
    step_resume_alone 0 ⟨fetch, none, getting⟩ stored.locked (.wait loading) (by cbv) (by cbv)
  have sixth : Step ⟨stored.locked, _⟩ _ _ :=
    step_resume_alone 0 ⟨fetch, none, loading⟩ loaded (.done (.status (.ok "hit in L1")))
      (by cbv) (by cbv)
  have gone (d : Deployment) : ∀ o ∈ (none : Option Ongoing),
      o.call.IsManaged ∧ o.call.Offers content d := by
    intro o absent
    cases absent
  have steps : Steps (Respects content) ⟨new, .none⟩ _ _ :=
    Calls.none_set 0 ▸ Steps.step first (respects_alone rfl (offers _ rfl _))
      (.step second (respects_alone rfl (offers _ rfl _))
        (.step third (respects_alone rfl (gone _))
          (.step fourth (respects_alone rfl (fetches _ _))
            (.step fifth (respects_alone rfl (fetches _ _)) (.refl _)))))
  exact ⟨_, _, _, steps, sixth, fetch_leaves_content fresh rfl
    (fun _ _ => rfl) (fun _ => List.cons_ne_nil _ _) steps sixth
    (respects_alone rfl (gone _)) rfl rfl⟩

end BlockTier.Sidecar.Traffic
