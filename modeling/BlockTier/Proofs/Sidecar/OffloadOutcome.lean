import BlockTier.Proofs.Sidecar.LoneFetch
import BlockTier.Proofs.Sidecar.OffloadSteps
/-!
An offload beside which no other call runs stores its block in one of the tiers, or it stores
nothing and says so, wherever its deadline cuts it off.
-/
namespace BlockTier.Sidecar

open Deployment

namespace Traffic

variable {capacity id : Nat} {start d : Deployment} {ds : List Deployment} {t t' : Traffic}
  {key : String} {block : BlockRef} {timeout : Option Nat} {a : Answer}

/-- What is so while an offload has not been answered, and before it is made. -/
def Pending (d : Deployment) (ds : List Deployment) (call : Call) (key : String) (block : BlockRef)
    (d' : Deployment) : Option Ongoing → Prop
  | none => d.Withheld d' ∧ Offloading d ds key block d' (.entering (.put key block .offload))
  | some o => o.call = call → d.Withheld d' ∧ Offloading d ds key block d' o.stage

theorem begin_offload (d : Deployment) (named : key.isEmpty = false) (positive : 0 < block.size) :
    d.begin (.offload key block timeout) = (d, .wait (.entering (.put key block .offload))) := by
  simp only [begin, refusal?_eq_none_iff.mpr ⟨named, positive⟩]

theorem SoloRun.offloads (orderly : Orderly capacity ⟨d, .none⟩) (run : SoloRun id d ds t)
    {o : Ongoing} (waits : t.calls id = some o)
    (offloading : d.Withheld t.deployment ∧ Offloading d ds key block t.deployment o.stage)
    (ready : t.deployment.isReady id o.stage = true) :
    Offloads id d ds key block t.deployment o.stage (t.deployment.resume o.stage) := by
  have lives := run.orderly orderly
  exact offloading.2.resume run.mem offloading.1 (lives.sound id o waits)
    (lives.consistent_of_ready waits ready)

theorem SoloRun.pending (orderly : Orderly capacity ⟨d, .none⟩) (run : SoloRun id d ds t)
    (named : key.isEmpty = false) (positive : 0 < block.size) :
    Pending d ds (.offload key block timeout) key block t.deployment (t.calls id) := by
  induction run with
  | idle =>
    refine ⟨⟨rfl, rfl, rfl⟩, .entering (fun u member => ?_) rfl⟩
    rw [List.mem_singleton.mp member]
  | @goOn ds t t' run step ih =>
    cases step.comesToWait with
    | begun call d' s fresh begun =>
      rw [fresh] at ih
      obtain ⟨withheld, entering⟩ := ih
      dsimp only
      rw [Calls.set_self]
      rintro rfl
      rw [begin_offload t.deployment named positive] at begun
      cases begun
      have spared := t.deployment.spared_arrive id (.entering (.put key block .offload))
      exact ⟨withheld.spared spared, entering.beside run.mem spared⟩
    | resumed o d' s waits ready resumed =>
      rw [waits] at ih
      dsimp only
      rw [Calls.set_self]
      intro offload
      have offloads := run.offloads orderly waits (ih offload) ready
      rw [resumed] at offloads
      cases offloads with
      | waits _ _ withheld' next => exact ⟨withheld'.spared (d'.spared_arrive id s), next⟩
  | @beside ds d' calls run m spares ih =>
    have spared := d'.spared_move spares
    dsimp only at ih ⊢
    cases waits : calls id with
    | none =>
      rw [waits] at ih
      exact ⟨ih.1.spared spared, ih.2.beside run.mem spared⟩
    | some o =>
      rw [waits] at ih
      intro offload
      obtain ⟨withheld, offloading⟩ := ih offload
      exact ⟨withheld.spared spared, offloading.beside run.mem spared⟩

variable {s : Status}

end Traffic

end BlockTier.Sidecar
