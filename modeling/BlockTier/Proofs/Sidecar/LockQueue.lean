import BlockTier.Proofs.Sidecar.Effects
import BlockTier.Proofs.Sidecar.Traffic
/-!
The lock of the first tier. Whoever copies in the tier holds it, and nobody is queued twice.
-/
namespace BlockTier.Sidecar

namespace Lock

/-- The holder and those behind it. -/
def queue (l : Lock) : List Nat := l.holder.toList ++ l.waiting

/-- The lock serves the calls that ask for it, one at a time, and forgets none. -/
structure Serves (l : Lock) (calls : Calls) : Prop where
  free : l.holder = none → l.waiting = []
  once : l.queue.Nodup
  queued : ∀ id ∈ l.queue, ∃ o, calls id = some o ∧ o.stage.usesLock = true
  asked : ∀ id o, calls id = some o → o.stage.usesLock = true → id ∈ l.queue
  holds : ∀ id o, calls id = some o → o.stage.work ≠ .idle → l.holder = some id

theorem serves_none : Serves {} .none where
  free := fun _ => rfl
  once := List.nodup_nil
  queued := fun _ member => absurd member List.not_mem_nil
  asked := by
    intro id o waits
    cases waits
  holds := by
    intro id o waits
    cases waits

variable {l : Lock} {calls : Calls} {id : Nat}

theorem queue_request (free : l.holder = none → l.waiting = []) (id : Nat) :
    (l.request id).queue = l.queue ++ [id] := by
  obtain ⟨holder, waiting⟩ := l
  cases holder with
  | none =>
    cases free rfl
    rfl
  | some h => rfl

theorem queue_release (l : Lock) : l.release.queue = l.waiting := by
  obtain ⟨holder, waiting⟩ := l
  cases waiting <;> rfl

theorem queue_withdraw (l : Lock) (id : Nat) : (l.withdraw id).queue = l.queue.erase id := by
  unfold withdraw
  split
  · rename_i held
    rw [queue_release, queue, held]
    exact (List.erase_cons_head ..).symm
  · rename_i other
    obtain ⟨holder, waiting⟩ := l
    cases holder with
    | none => rfl
    | some h =>
      have different : h ≠ id := fun same => other (congrArg some same)
      exact (List.erase_cons_tail (by simpa using different)).symm

theorem withdraw_of_holder (held : l.holder = some id) : l.withdraw id = l.release := if_pos held

theorem withdraw_of_absent (absent : id ∉ l.queue) : l.withdraw id = l := by
  have other : l.holder ≠ some id := by
    intro held
    exact absent (by simp [queue, held])
  have behind : id ∉ l.waiting := fun member => absent (List.mem_append_right _ member)
  rw [withdraw, if_neg other, List.erase_of_not_mem behind]

theorem free_withdraw (free : l.holder = none → l.waiting = []) (id : Nat) :
    (l.withdraw id).holder = none → (l.withdraw id).waiting = [] := by
  unfold withdraw
  split
  · obtain ⟨holder, waiting⟩ := l
    cases waiting with
    | nil => exact fun _ => rfl
    | cons next rest => exact fun absent => nomatch absent
  · intro none
    simp only [free none, List.erase_nil]

namespace Serves

theorem absent (serves : l.Serves calls) (gone : calls id = none) : id ∉ l.queue := by
  intro member
  obtain ⟨o, waits, _⟩ := serves.queued id member
  rw [gone] at waits
  cases waits

theorem absent_of_unused (serves : l.Serves calls) {o : Ongoing} (waits : calls id = some o)
    (unused : o.stage.usesLock = false) : id ∉ l.queue := by
  intro member
  obtain ⟨o', waits', used⟩ := serves.queued id member
  rw [waits] at waits'
  cases waits'
  rw [unused] at used
  cases used

theorem mem_of_holder (held : l.holder = some id) : id ∈ l.queue := by simp [queue, held]

theorem leave (serves : l.Serves calls) (id : Nat) :
    (l.withdraw id).Serves (calls.set id none) where
  free := free_withdraw serves.free id
  once := by
    rw [queue_withdraw]
    exact serves.once.erase id
  queued := by
    intro i member
    rw [queue_withdraw, serves.once.mem_erase_iff] at member
    obtain ⟨o, waits, used⟩ := serves.queued i member.2
    exact ⟨o, (Calls.set_ne calls none member.1).trans waits, used⟩
  asked := by
    intro i o waits used
    by_cases here : i = id
    · rw [here, Calls.set_self] at waits
      cases waits
    · rw [Calls.set_ne calls none here] at waits
      rw [queue_withdraw, serves.once.mem_erase_iff]
      exact ⟨here, serves.asked i o waits used⟩
  holds := by
    intro i o waits busy
    by_cases here : i = id
    · rw [here, Calls.set_self] at waits
      cases waits
    · rw [Calls.set_ne calls none here] at waits
      have held := serves.holds i o waits busy
      have other : l.holder ≠ some id := by
        rw [held]
        exact fun same => here (Option.some.inj same)
      rw [withdraw, if_neg other]
      exact held

theorem stay (serves : l.Serves calls) (gone : calls id = none) {o : Ongoing}
    (unused : o.stage.usesLock = false) : l.Serves (calls.set id (some o)) where
  free := serves.free
  once := serves.once
  queued := by
    intro i member
    have other : i ≠ id := fun same => serves.absent gone (same ▸ member)
    rw [Calls.set_ne calls _ other]
    exact serves.queued i member
  asked := by
    intro i o' waits used
    by_cases here : i = id
    · rw [here, Calls.set_self] at waits
      cases waits
      rw [unused] at used
      cases used
    · rw [Calls.set_ne calls _ here] at waits
      exact serves.asked i o' waits used
  holds := by
    intro i o' waits busy
    by_cases here : i = id
    · rw [here, Calls.set_self] at waits
      cases waits
      exact absurd (Stage.idle_of_unused unused) busy
    · rw [Calls.set_ne calls _ here] at waits
      exact serves.holds i o' waits busy

theorem enter (serves : l.Serves calls) (gone : calls id = none) {o : Ongoing} {errand : Errand}
    (entering : o.stage = .entering errand) :
    (l.request id).Serves (calls.set id (some o)) where
  free := by
    intro none
    unfold request at none
    split at none
    · cases none
    · rename_i h held
      rw [held] at none
      cases none
  once := by
    rw [queue_request serves.free, List.nodup_append]
    refine ⟨serves.once, List.pairwise_singleton _ _, ?_⟩
    rintro i member _ last rfl
    rw [List.mem_singleton.mp last] at member
    exact serves.absent gone member
  queued := by
    intro i member
    rw [queue_request serves.free, List.mem_append, List.mem_singleton] at member
    rcases member with member | rfl
    · have other : i ≠ id := fun same => serves.absent gone (same ▸ member)
      rw [Calls.set_ne calls _ other]
      exact serves.queued i member
    · exact ⟨o, Calls.set_self .., by rw [entering]; rfl⟩
  asked := by
    intro i o' waits used
    rw [queue_request serves.free, List.mem_append, List.mem_singleton]
    by_cases here : i = id
    · exact Or.inr here
    · rw [Calls.set_ne calls _ here] at waits
      exact Or.inl (serves.asked i o' waits used)
  holds := by
    intro i o' waits busy
    by_cases here : i = id
    · rw [here, Calls.set_self] at waits
      cases waits
      rw [entering] at busy
      exact absurd rfl busy
    · rw [Calls.set_ne calls _ here] at waits
      rw [request, serves.holds i o' waits busy]

theorem keep (serves : l.Serves calls) (held : l.holder = some id) {o : Ongoing}
    (uses : o.stage.usesLock = true) : l.Serves (calls.set id (some o)) where
  free := serves.free
  once := serves.once
  queued := by
    intro i member
    by_cases here : i = id
    · exact ⟨o, here ▸ Calls.set_self .., uses⟩
    · rw [Calls.set_ne calls _ here]
      exact serves.queued i member
  asked := by
    intro i o' waits used
    by_cases here : i = id
    · rw [here]
      exact mem_of_holder held
    · rw [Calls.set_ne calls _ here] at waits
      exact serves.asked i o' waits used
  holds := by
    intro i o' waits busy
    by_cases here : i = id
    · rw [here]
      exact held
    · rw [Calls.set_ne calls _ here] at waits
      exact serves.holds i o' waits busy

end Serves

end Lock

end BlockTier.Sidecar
