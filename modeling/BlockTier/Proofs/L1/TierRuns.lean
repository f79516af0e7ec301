import BlockTier.Proofs.L1.Runs
import BlockTier.Proofs.L1.TierSteps
/-!
What the operations of the tier make of its cache is a run of it, and what is mapped lies in the
pool.
-/
namespace BlockTier.L1

/-- From a run that has come to the first state there is one that comes to the second. -/
def Leads (c : Cache) (w : Work) (c' : Cache) (w' : Work) : Prop :=
  ∀ capacity, Reachable capacity c w → Reachable capacity c' w'

theorem Leads.refl (c : Cache) (w : Work) : Leads c w c w := fun _ reached => reached

theorem Leads.trans {c₁ c₂ c₃ : Cache} {w₁ w₂ w₃ : Work} (first : Leads c₁ w₁ c₂ w₂)
    (second : Leads c₂ w₂ c₃ w₃) : Leads c₁ w₁ c₃ w₃ :=
  fun capacity reached => second capacity (first capacity reached)

theorem Step.leads {c c' : Cache} {w w' : Work} (step : Step c w c' w') : Leads c w c' w' :=
  fun _ reached => reached.step step

namespace Tier

variable {t : Tier} {key : String} {block dest : BlockRef}

/-- What the caller of a put or a get that has begun waits for. -/
def workOfPut : Status ⊕ Storing → Work
  | .inl _ => .idle
  | .inr s => .storing s.key s.extent

def workOfGet : Status ⊕ Loading → Work
  | .inl _ => .idle
  | .inr l => .loading l.key

theorem PutBegins.leads {r : Tier × (Status ⊕ Storing)} (begins : t.PutBegins key block r) :
    Leads t.cache .idle r.1.cache (workOfPut r.2) := by
  have put := (Step.put t.cache key block.size).leads
  cases begins with
  | resident e s found size success =>
    rwa [Cache.beginPut_of_resident found size] at put
  | refused refusal refused => rwa [refused] at put
  | unread e evicted error taken unread =>
    rw [taken] at put
    exact put.trans (Step.storeFailed _ key e).leads
  | reading e evicted data taken read size => rwa [taken] at put

theorem PutEnds.leads {s : Storing} {r : Tier × Status} (ends : t.PutEnds s r) :
    Leads t.cache (.storing s.key s.extent) r.1.cache .idle := by
  cases ends with
  | stored placed copier status written same success => exact (Step.stored _ _ _).leads
  | failed e unwritten => exact (Step.storeFailed _ _ _).leads

theorem GetBegins.leads {r : Tier × (Status ⊕ Loading)} (begins : t.GetBegins key dest r) :
    Leads t.cache .idle r.1.cache (workOfGet r.2) := by
  cases begins with
  | miss absent => exact (Step.miss _ key absent).leads
  | unread e error found unread => exact (Step.read _).leads
  | reading e data found read => exact (Step.get _ key e found).leads

theorem GetEnds.leads {l : Loading} {r : Tier × Status} (ends : t.GetEnds l r) :
    Leads t.cache (.loading l.key) r.1.cache .idle := by
  cases ends with
  | loaded placed copier status written same success => exact (Step.loaded _ _).leads
  | failed e unwritten => exact (Step.notLoaded _ _).leads

/-- Every mapped extent lies in the pool. -/
def Mapped (t : Tier) : Prop :=
  ∀ key e, t.cache.find? key = some e → e.stop ≤ t.copier.pool.length

theorem Mapped.of_shrinks {t' : Tier} (mapped : t.Mapped) (shrinks : t.cache.Shrinks t'.cache)
    (pool : t'.copier.pool = t.copier.pool) : t'.Mapped := by
  intro key e found
  rw [pool]
  exact mapped key e (shrinks.kept key e found)

theorem PutBegins.shrinks {r : Tier × (Status ⊕ Storing)} (begins : t.PutBegins key block r)
    (h : t.cache.Consistent none) : t.cache.Shrinks r.1.cache := by
  have begun := h.beginPut key block.size
  cases begins with
  | resident => exact begun.shrinks
  | refused => exact begun.shrinks
  | unread e evicted error taken unread =>
    have consistent := begun.consistent
    rw [taken] at consistent
    have member : e ∈ (t.cache.beginPut key block.size).1.allocator.live :=
      consistent.live.mem_iff.mpr List.mem_cons_self
    exact begun.shrinks.trans ⟨(consistent.pool.release member).2.2, fun _ _ found => found⟩
  | reading => exact begun.shrinks

theorem PutBegins.sameRegions {r : Tier × (Status ⊕ Storing)} (begins : t.PutBegins key block r) :
    t.copier.SameRegions r.1.copier := by
  cases begins with
  | resident | refused | reading => exact .refl _
  | unread => exact t.copier.sameRegions_countFailure

theorem GetBegins.sameRegions {r : Tier × (Status ⊕ Loading)} (begins : t.GetBegins key dest r) :
    t.copier.SameRegions r.1.copier := by
  cases begins with
  | miss | reading => exact .refl _
  | unread => exact t.copier.sameRegions_countFailure

theorem GetBegins.find? {r : Tier × (Status ⊕ Loading)} (begins : t.GetBegins key dest r) :
    r.1.cache.find? = t.cache.find? := by
  cases begins <;> rfl

theorem GetEnds.find? {l : Loading} {r : Tier × Status} (ends : t.GetEnds l r) :
    r.1.cache.find? = t.cache.find? := by
  cases ends <;> rfl

theorem PutEnds.find? {s : Storing} {r : Tier × Status} (ends : t.PutEnds s r) {k : String}
    {e : Extent} (found : r.1.cache.find? k = some e) :
    t.cache.find? k = some e ∨
      k = s.key ∧ e = s.extent ∧ ∃ placed, t.copier.place s.copying = .ok placed ∧
        placed.SameRegions r.1.copier := by
  cases ends with
  | stored placed copier status written same success =>
    rw [Cache.find?_commitPut] at found
    split at found
    · rename_i here
      cases found
      exact Or.inr ⟨here, rfl, placed, written, same⟩
    · exact Or.inl found
  | failed => exact Or.inl found

theorem length_pool_place {c placed : Copier} {copying : Copying}
    (written : c.place copying = .ok placed) : placed.pool.length = c.pool.length := by
  cases copying with
  | toPool data e => exact Copier.length_writePool written
  | toDevice data b => rw [Copier.pool_writeDevice written]
  | toBuffer data =>
    cases written
    rfl

theorem PutEnds.length_pool {s : Storing} {r : Tier × Status} (ends : t.PutEnds s r) :
    r.1.copier.pool.length = t.copier.pool.length := by
  cases ends with
  | stored placed copier status written same success =>
    rw [same.pool]
    exact length_pool_place written
  | failed => rfl

theorem GetEnds.length_pool {l : Loading} {r : Tier × Status} (ends : t.GetEnds l r) :
    r.1.copier.pool.length = t.copier.pool.length := by
  cases ends with
  | loaded placed copier status written same success =>
    rw [same.pool]
    exact length_pool_place written
  | failed => rfl

theorem PutEnds.devices {s : Storing} {r : Tier × Status} (ends : t.PutEnds s r)
    (target : ∃ data, s.copying = .toPool data s.extent) :
    r.1.copier.devices = t.copier.devices := by
  obtain ⟨data, target⟩ := target
  cases ends with
  | stored placed copier status written same success =>
    rw [target] at written
    exact same.devices.trans (Copier.devices_writePool written)
  | failed => rfl

theorem PutEnds.mapped {s : Storing} {r : Tier × Status} (ends : t.PutEnds s r)
    (target : ∃ data, s.copying = .toPool data s.extent) (mapped : t.Mapped) : r.1.Mapped := by
  intro key e found
  obtain ⟨data, target⟩ := target
  rcases ends.find? found with before | ⟨_, rfl, placed, written, same⟩
  · rw [ends.length_pool]
    exact mapped key e before
  · rw [target] at written
    rw [same.pool]
    exact Copier.stop_le_of_writePool written

end Tier

end BlockTier.L1
