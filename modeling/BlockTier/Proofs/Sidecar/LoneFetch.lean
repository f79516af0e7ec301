import BlockTier.Proofs.Sidecar.LoneReceive
/-!
A fetch that runs alone. The first tier serves it when the key is resident and the destination takes
the block; otherwise it ends as the second tier makes it end.
-/
namespace BlockTier.Sidecar.Deployment

variable {d d' : Deployment} {key : String} {dest : BlockRef} {data : Bytes} {s : Status}

/-- What becomes of a fetch. -/
inductive Fetched (d : Deployment) (key : String) (dest : BlockRef) : Deployment × Answer → Prop
  | hit (d' : Deployment) (e : Extent) (data : Bytes)
    (found : d.tier.cache.find? key = some e) (read : d.tier.copier.readPool e = .ok data)
    (leaves : d.Leaves dest data d') (l2 : d'.l2 = d.l2) (fleet : d'.fleet = d.fleet) :
    Fetched d key dest (d', .status (.ok "hit in L1"))
  | backed (r : Deployment × Answer)
    (unserved : ∀ e, d.tier.cache.find? key = some e → ¬ d.tier.copier.Accepts dest e.size)
    (backed : d.Backed key dest r) : Fetched d key dest r

theorem Fetched.of_same {r : Deployment × Answer} (fetched : d'.Fetched key dest r)
    (tier : d'.tier = d.tier) (l2 : d'.l2 = d.l2) (fleet : d'.fleet = d.fleet)
    (timeout : d'.defaultTimeout = d.defaultTimeout) : d.Fetched key dest r := by
  have backs : d.Backs d' := ⟨by rw [l2], fleet, by rw [tier], by rw [tier], by rw [tier], timeout⟩
  cases fetched with
  | hit d'' e data found read leaves l2' fleet' =>
    rw [tier] at found read
    exact .hit d'' e data found read (leaves.of_devices backs.devices) (l2'.trans l2)
      (fleet'.trans fleet)
  | backed r unserved backed =>
    rw [tier] at unserved
    exact .backed r unserved (backed.of_backs backs)

theorem fetched_loading {e : Extent} (found : d.tier.cache.find? key = some e)
    (read : d.tier.copier.readPool e = .ok data) (size : data.length = e.size) (due : Nat) :
    d.Fetched key dest
      (d.carry (.loading ⟨key, e.size, .toDevice data dest⟩ dest .fetch due)) := by
  rw [carry_eq]
  simp only [resume, wake]
  have ends := d.tier.finishGet_ends ⟨key, e.size, .toDevice data dest⟩
  cases ended : d.tier.finishGet ⟨key, e.size, .toDevice data dest⟩ with
  | mk tier s =>
    rw [ended] at ends
    cases ends with
    | loaded placed copier status written same success =>
      simp only [afterGet, success, ↓reduceIte, conclude]
      exact .hit _ e data found read ⟨placed, written, same.devices⟩ rfl rfl
    | failed error unwritten =>
      refine .backed _ (fun e' found' accepts => ?_)
        ((backed_afterGet rfl).of_backs ⟨rfl, rfl, rfl, rfl, rfl, rfl⟩)
      rw [found] at found'
      cases found'
      rw [← size] at accepts
      obtain ⟨placed, written⟩ := Copier.accepts_iff.mp accepts
      rw [Copier.place, written] at unwritten
      cases unwritten

theorem fetched_carry (mapped : d.tier.Mapped) :
    d.Fetched key dest (d.carry (.entering (.get key dest .fetch))) := by
  rw [carry_eq]
  simp only [resume, wake, enter]
  have begins := d.tier.beginGet_begins key dest
  cases begun : d.tier.beginGet key dest with
  | mk tier out =>
    rw [begun] at begins
    cases begins with
    | miss absent =>
      refine .backed _ (fun e found => ?_)
        ((backed_afterGet rfl).of_backs ⟨rfl, rfl, rfl, rfl, rfl, rfl⟩)
      rw [absent] at found
      cases found
    | unread e error found unread =>
      obtain ⟨data, read, _⟩ := Copier.readPool_of_stop_le (mapped key e found)
      rw [unread] at read
      cases read
    | reading e data found read =>
      obtain ⟨data', read', size⟩ := Copier.readPool_of_stop_le (mapped key e found)
      rw [read] at read'
      cases read'
      apply Fetched.of_same
      · dsimp only [conclude, arrive]
        refine fetched_loading ?_ ?_ size _
        · exact found
        · exact read
      · rfl
      · rfl
      · rfl
      · rfl

theorem refusal?_eq_none_iff {n : Nat} : refusal? key n = none ↔ key.isEmpty = false ∧ 0 < n := by
  unfold refusal?
  cases key.isEmpty <;> simp [Nat.pos_iff_ne_zero]

theorem failed_of_refusal? {n : Nat} (refused : refusal? key n = some s) : s.success = false := by
  unfold refusal? at refused
  split at refused
  · cases refused
    rfl
  · split at refused
    · cases refused
      rfl
    · cases refused

theorem fetched_complete (mapped : d.tier.Mapped) (named : key.isEmpty = false)
    (nonzero : 0 < dest.size) (timeout : Option Nat) :
    d.Fetched key dest (d.complete (.fetch key dest timeout)) := by
  have accepted := refusal?_eq_none_iff.mpr ⟨named, nonzero⟩
  simp only [complete, begin, accepted, conclude, arrive]
  apply Fetched.of_same
  · exact fetched_carry mapped
  · rfl
  · rfl
  · rfl
  · rfl

end BlockTier.Sidecar.Deployment
