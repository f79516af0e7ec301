import BlockTier.Proofs.Sidecar.Effects
import BlockTier.Proofs.Sidecar.Traffic
/-!
Whom the sidecar's connector routes keys to. Only a refresh that succeeds changes the ring, whatever
else goes on, so the ring is the one of the cluster map that the last such refresh returned.
-/
namespace BlockTier.Sidecar

namespace Deployment

variable {d : Deployment}

theorem Continues.l2 {r : Deployment × Turn} (continues : d.Continues r) :
    r.1.l2.uncounted = d.l2.uncounted :=
  congrArg (fun d => d.l2) continues.core

theorem uncounted_enter (d : Deployment) (errand : Errand) :
    (d.enter errand).1.l2.uncounted = d.l2.uncounted := by
  cases errand with
  | put key block use =>
    simp only [enter]
    split
    · rename_i tier s _
      exact (continues_afterPut (d.withTier tier).unlock key block use s).l2
    · rfl
  | get key dest use =>
    simp only [enter]
    split
    · rename_i tier s _
      exact (continues_afterGet (d.withTier tier).unlock key dest use s).l2
    · rfl
  | read key use => exact (continues_afterRead d.unlock key use _).l2
  | contains key use => exact (continues_afterContains d.unlock key use _).l2
  | evict | makeRoom | l1Stats | stats => rfl

theorem uncounted_resume (d : Deployment) (s : Stage) :
    (d.resume s).1.l2.uncounted = d.l2.uncounted := by
  cases s with
  | entering errand => exact d.uncounted_enter errand
  | storing s block use due =>
    exact (continues_afterPut (d.withTier (d.tier.finishPut s).1).unlock s.key block use _).l2
  | loading l dest use due =>
    exact (continues_afterGet (d.withTier (d.tier.finishGet l).1).unlock l.key dest use _).l2
  | copying copying use due =>
    exact (continues_afterCopy
      (d.withTier { d.tier with copier := (d.tier.copier.finish copying).1 }) copying use _).l2
  | sending node key frame use due =>
    have answered := d.l2.uncounted_finishPut node (d.fleet.put node key frame).2
    exact (continues_afterSend _ use _).l2.trans answered
  | receiving node key use due =>
    have answered := d.l2.uncounted_finishGet node (d.fleet.get node key)
    cases use with
    | direct => exact answered
    | fetch dest => exact (continues_afterReceive _ key dest _).l2.trans answered
  | probing node key use due => exact d.l2.uncounted_finishExists node (d.fleet.holds node key)
  | resting due => rfl

theorem uncounted_arrive (d : Deployment) (id : Nat) (s : Stage) :
    (d.arrive id s).l2.uncounted = d.l2.uncounted := by
  cases s <;> rfl

theorem uncounted_abandon (d : Deployment) (id : Nat) (s : Stage) :
    (d.abandon id s).l2.uncounted = d.l2.uncounted := by
  cases s <;> rfl

theorem uncounted_expire (d : Deployment) (f : Flight) (limit : Limit) :
    (d.expire f limit).1.l2.uncounted = d.l2.uncounted := by
  have dropped := d.uncounted_abandon f.id f.stage
  unfold expire
  dsimp only
  split
  · exact dropped
  · split <;> exact dropped

theorem uncounted_move (d : Deployment) {m : Move} (other : m ≠ .refresh) :
    (d.move m).l2.uncounted = d.l2.uncounted := by
  have overwritten (r : Except TransferError Copier) :
      (d.overwrite r).l2.uncounted = d.l2.uncounted := by
    cases r <;> rfl
  cases m with
  | refresh => exact absurd rfl other
  | writeDevice | writePool => exact overwritten _
  | _ => rfl

end Deployment

namespace Traffic

variable {start d : Deployment} {t t' : Traffic} {e : Event} {map : Option (List Node)}

/-- The cluster map of the last successful refresh after an event, when it was `map` before. -/
def lastMap (d : Deployment) (map : Option (List Node)) : Event → Option (List Node)
  | .moves .refresh =>
    match d.clusterMap with
    | .ok nodes => some nodes
    | .error _ => map
  | _ => map

/-- Traffic with the cluster map that the last successful refresh has returned. -/
inductive Synced (start : Deployment) : Traffic → Option (List Node) → Prop
  | start : Synced start ⟨start, .none⟩ none
  | step {t t' : Traffic} {e : Event} {map : Option (List Node)} (before : Synced start t map)
    (step : Step t e t') : Synced start t' (lastMap t.deployment map e)

theorem uncounted_land (calls : Calls) (id : Nat) (call : Call) (limit : Option Limit)
    (r : Deployment × Turn) :
    (land calls id call limit r).deployment.l2.uncounted = r.1.l2.uncounted := by
  obtain ⟨d, turn⟩ := r
  cases turn with
  | done a => rfl
  | wait stage => exact d.uncounted_arrive id stage

theorem Step.uncounted (step : Step t e t') (other : e ≠ .moves .refresh) :
    t'.deployment.l2.uncounted = t.deployment.l2.uncounted := by
  cases step with
  | start d calls id call fresh =>
    exact (uncounted_land ..).trans (Deployment.continues_begin d call).l2
  | resume d calls id o waits ready => exact (uncounted_land ..).trans (d.uncounted_resume o.stage)
  | expire d calls id o limit waits limited late => exact d.uncounted_expire _ limit
  | drop d calls id o waits => exact d.uncounted_abandon id o.stage
  | move d calls m => exact d.uncounted_move (fun same => other (congrArg Event.moves same))

theorem Step.moved (step : Step t e t') {m : Move} (moves : e = .moves m) :
    t'.deployment = t.deployment.move m := by
  cases step with
  | start d calls id call fresh =>
    cases turn : (d.begin call).2 <;> rw [turn] at moves <;> cases moves
  | resume d calls id o waits ready =>
    cases turn : (d.resume o.stage).2 <;> rw [turn] at moves <;> cases moves
  | expire | drop => cases moves
  | move d calls m =>
    cases moves
    rfl

theorem lastMap_of_ne (d : Deployment) (map : Option (List Node)) (other : e ≠ .moves .refresh) :
    lastMap d map e = map := by
  unfold lastMap
  split
  · exact absurd rfl other
  · rfl

variable {virtualNodes : Nat} {hash : L2.Hash}

theorem Step.follows (step : Step t e t')
    (follows : t.deployment.l2.Follows virtualNodes hash map) :
    t'.deployment.l2.Follows virtualNodes hash (lastMap t.deployment map e) := by
  by_cases refreshes : e = .moves .refresh
  · rw [step.moved refreshes]
    subst refreshes
    simp only [lastMap, Deployment.move, Deployment.refresh]
    cases t.deployment.clusterMap with
    | ok nodes => exact follows.refresh nodes
    | error e => exact follows.of_uncounted (t.deployment.l2.uncounted_refresh_error e)
  · rw [lastMap_of_ne _ _ refreshes]
    exact follows.of_uncounted (step.uncounted refreshes)

theorem Synced.follows (synced : Synced start t map) (fresh : start.l2.ring = .new virtualNodes) :
    t.deployment.l2.Follows virtualNodes start.l2.hash map := by
  induction synced with
  | start => exact ⟨rfl, fresh⟩
  | step _ step ih => exact step.follows ih

/-- Routing follows the cluster map of the last refresh that succeeded, whatever came after it. -/
theorem owner?_follows_refresh (fresh : start.l2.ring = .new virtualNodes)
    (synced : Synced start t map) :
    (∀ nodes, map = some nodes → ∀ key, t.deployment.l2.owner? key =
      (L2.Ring.withNodes start.l2.hash virtualNodes nodes).owner? start.l2.hash key) ∧
    (∀ e, t.deployment.clusterMap = .error e → ∀ key,
      (t.deployment.move .refresh).l2.owner? key = t.deployment.l2.owner? key) ∧
    (∀ key node, t.deployment.l2.RoutesTo key node →
      ∃ nodes, map = some nodes ∧ node ∈ nodes ∧ node.isUp = true) ∧
    (∀ key, t.deployment.l2.owner? key = none ↔
      map = none ∨ ∃ nodes, map = some nodes ∧ ∀ node ∈ nodes, node.isUp = false) := by
  have follows := synced.follows fresh
  refine ⟨?_, fun e failing key => ?_, fun key node routed => ?_, follows.owner?_eq_none_iff⟩
  · rintro nodes rfl key
    exact follows.owner?_eq key
  · simp only [Deployment.move, Deployment.refresh, failing]
    rfl
  · exact follows.mem_of_owner? ((t.deployment.l2.routesTo_iff key node).mp routed)

/-- A node that goes silent and is taken down after the last refresh that succeeds. -/
theorem owner?_after_failed_refresh : ∃ start t, Synced start t (some [⟨"n", "h", 1, .up⟩]) ∧
    start.l2.ring = .new 2 ∧ t.deployment.controller.clusterMap = [] ∧
    t.deployment.l2.owner? "k" = some ⟨"n", "h", 1, .up⟩ ∧
    (t.deployment.move .refresh).l2.owner? "k" = t.deployment.l2.owner? "k" := by
  let start : Deployment :=
    { Deployment.single (.new 4) [] [] with
      l2 := { ring := .new 2, hash := fun _ => 0 }, controller := { timeout := 5 } }
  have synced : Synced start _ _ :=
    (((((Synced.start.step (.move _ _ (.register ⟨"n", "h", 1, .up⟩))).step
      (.move _ _ .refresh)).step (.move _ _ (.pass 6))).step (.move _ _ .sweep)).step
      (.move _ _ (.topology (.failing (.status 503))))).step (.move _ _ .refresh)
  obtain ⟨owner, unchanged, _, _⟩ := owner?_follows_refresh rfl synced
  refine ⟨start, _, synced, rfl, rfl, ?_, unchanged _ rfl "k"⟩
  rw [owner _ rfl]
  rfl

end Traffic

end BlockTier.Sidecar
