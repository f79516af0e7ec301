import BlockTier.Proofs.Sidecar.Integrity
/-!
What a call carries on when a tier has answered it: the content of its key, or nothing.
-/
namespace BlockTier.Sidecar

variable {content : String → Bytes} {c : Call} {key : String} {block dest : BlockRef}

namespace Deployment

variable {d d' : Deployment} {r : Deployment × Turn} {s : Status}

theorem Intact.of_core (intact : d.Intact content) (same : d'.core = d.core) :
    d'.Intact content := by
  refine ⟨fun key e found => ?_, ?_, ?_⟩
  · rw [Copier.readPool_congr (pool_of_core same)]
    exact intact.resident key e (cache_of_core same ▸ found)
  · rw [fleet_of_core same, codec_of_core same]
    exact intact.stored
  · rw [codec_of_core same]
    exact intact.lawful

theorem Intact.withTier (intact : d.Intact content) (tier : L1.Tier)
    (kept : ∀ key e, tier.cache.find? key = some e → d.tier.cache.find? key = some e)
    (pool : tier.copier.pool = d.tier.copier.pool) : (d.withTier tier).Intact content := by
  refine ⟨fun key e found => ?_, intact.stored, intact.lawful⟩
  have read := intact.resident key e (kept key e found)
  rwa [← Copier.readPool_congr pool] at read

theorem Intact.unlock (intact : d.Intact content) : d.unlock.Intact content :=
  ⟨intact.resident, intact.stored, intact.lawful⟩

/-- The call has gone on and carries the content where it has come to. -/
structure Keeps (content : String → Bytes) (c : Call) (r : Deployment × Turn) : Prop where
  intact : r.1.Intact content
  carries : r.2.Carries content r.1 c

theorem Keeps.of_continues (intact : d.Intact content) (continues : d.Continues r)
    (carries : r.2.Carries content r.1 c) : Keeps content c r :=
  ⟨intact.of_core continues.core, carries⟩

theorem keeps_done (intact : d.Intact content) {a : Answer} (served : c.Served content d a) :
    Keeps content c (d, .done a) :=
  ⟨intact, served⟩

theorem keeps_afterSend (intact : d.Intact content) (is : c.IsOffload key) (use : SendUse)
    (s : Status) : Keeps content c (d.afterSend use s) := by
  refine .of_continues intact (continues_afterSend d use s) ?_
  cases use with
  | direct | writeThrough => exact is.served _ _
  | fallback rejection =>
    simp only [afterSend]
    split <;> exact is.served _ _

theorem beginPut_ok {l2 l2' : L2.Connector} {node : Node} {data frame : Bytes}
    (begun : l2.beginPut key data = (l2', .ok (node, frame))) :
    frame = l2.codec.encode data ∧ l2'.codec = l2.codec := by
  unfold L2.Connector.beginPut L2.Connector.route at begun
  cases owner : l2.owner? key with
  | none =>
    rw [owner] at begun
    cases begun
  | some owner =>
    simp only [owner] at begun
    cases begun
    exact ⟨rfl, rfl⟩

theorem keeps_sendFor (intact : d.Intact content) (is : c.IsOffload key) {use : SendUse}
    (indirect : use ≠ .direct) : Keeps content c (d.sendFor key (content key) use) := by
  have same := d.l2.uncounted_beginPut key (content key)
  unfold sendFor
  split
  · rename_i l2 s begun
    rw [begun] at same
    exact keeps_afterSend (intact.of_core (core_withL2 same)) is use s
  · rename_i l2 node frame begun
    rw [begun] at same
    refine ⟨intact.of_core (core_withL2 same), ?_⟩
    obtain ⟨rfl, codec⟩ := beginPut_ok begun
    have decoded : l2.codec.decode (d.l2.codec.encode (content key)) = .ok (content key) := by
      rw [codec]
      exact d.l2.codec.decode_encode intact.lawful _
    cases use with
    | direct => exact absurd rfl indirect
    | fallback rejection => exact ⟨is, decoded⟩
    | writeThrough => exact ⟨is, decoded⟩

theorem startCopy_read {d' : Deployment} {copying : Copying}
    (started : d.startCopy (.read block) = (d', .ok copying)) :
    ∃ data, d.tier.copier.readDevice block = .ok data ∧ copying = .toBuffer data := by
  simp only [startCopy, Copier.start, Copier.begin?] at started
  cases read : d.tier.copier.readDevice block with
  | error e =>
    rw [read] at started
    cases started
  | ok data =>
    rw [read] at started
    cases started
    exact ⟨data, rfl, rfl⟩

theorem keeps_afterPut_offload (intact : d.Intact content) {timeout : Option Nat}
    (is : c = .offload key block timeout) (finds : c.Finds content d) (s : Status) :
    Keeps content c (d.afterPut key block .offload s) := by
  have offload : c.IsOffload key := ⟨block, timeout, is⟩
  refine .of_continues intact (continues_afterPut d key block .offload s) ?_
  simp only [afterPut]
  split
  · split
    · exact offload.served _ _
    · exact offload
  · split
    · exact offload.served _ _
    · rename_i d' copying started
      obtain ⟨data, read, rfl⟩ := startCopy_read started
      cases finds key block timeout data is read
      exact ⟨offload, rfl⟩

theorem keeps_afterPut_promotion (intact : d.Intact content)
    (restored : c.Restored content d key block) (s : Status) :
    Keeps content c (d.afterPut key block .promotion s) :=
  ⟨intact, restored.served _⟩

theorem keeps_afterGet (intact : d.Intact content) (is : c.IsFetch key dest)
    (failed : s.success = false) : Keeps content c (d.afterGet key dest .fetch s) := by
  refine .of_continues intact (continues_afterGet d key dest .fetch s) ?_
  simp only [afterGet, failed, Bool.false_eq_true, ↓reduceIte]
  split
  · rename_i l2 s begun
    refine c.served_of_failed _ ?_
    unfold L2.Connector.beginGet L2.Connector.route at begun
    cases owner : d.l2.owner? key with
    | none =>
      simp only [owner] at begun
      cases begun
      rfl
    | some owner =>
      simp only [owner] at begun
      cases begun
  · exact is

theorem keeps_afterRead (intact : d.Intact content) (is : c.IsOffload key) {data : Option Bytes}
    (read : ∀ b ∈ data, b = content key) :
    Keeps content c (d.afterRead key .writeThrough data) := by
  cases data with
  | none => exact keeps_done intact (is.served _ _)
  | some b =>
    cases read b rfl
    exact keeps_sendFor intact is nofun

theorem keeps_afterContains (intact : d.Intact content) (is : c = .check key) (found : Bool) :
    Keeps content c (d.afterContains key .check found) := by
  have served (d : Deployment) (a : Answer) : c.Served content d a := by
    rw [is]
    intro _ _ _ _ absent
    cases absent
  refine .of_continues intact (continues_afterContains d key .check found) ?_
  simp only [afterContains]
  split
  · exact served _ _
  · unfold probe
    split
    · exact served _ _
    · exact is

theorem keeps_afterReceive (intact : d.Intact content) (is : c.IsFetch key dest)
    (payload : s.success = true → s.payload = some (content key)) :
    Keeps content c (d.afterReceive key dest s) := by
  refine .of_continues intact (continues_afterReceive d key dest s) ?_
  unfold afterReceive
  split
  · exact c.served_of_failed _ rfl
  · split
    · rename_i unsuccessful
      have failed : s.success = false := by simpa using unsuccessful
      exact c.served_of_failed _ failed
    · rename_i success
      rw [payload (by simpa using success)]
      dsimp only [Option.getD_some]
      split
      · exact c.served_of_failed _ rfl
      · exact ⟨is, rfl⟩

end Deployment

end BlockTier.Sidecar
