import BlockTier.Proofs.L2.Cluster
/-!
Connectors that share a fleet find what was put last. Each of them has a ring and a codec of its
own; requests cross each other, rings are rebuilt and nodes are cut off and come back in between.
-/
namespace BlockTier.L2

variable {ι : Type} [DecidableEq ι]

/-- Whoever reads the frame, with whatever settings, gets the data. -/
def Scheme.Reads (scheme : Scheme) (frame data : Bytes) : Prop :=
  ∀ c : Codec, c.scheme = scheme → c.decode frame = .ok data

/-- What waits will be answered by the owner, and a put carries its data. -/
structure Waiting.Sound (scheme : Scheme) (w : Waiting ι) : Prop where
  owner_eq : w.owner = some w.request.node
  reads : ∀ key data, w.request.query = .put key data → scheme.Reads w.request.frame data

/-- Each node has for each key a frame of the data that was put last, or none. -/
def Fleet.Keeps (scheme : Scheme) (f : Fleet) (log : List Answer) : Prop :=
  ∀ id key, Option.Rel scheme.Reads (f.frame? id key) (lastPut log id key)

structure Cluster.Sound (scheme : Scheme) (s : Cluster ι) (log : List Answer) : Prop where
  scheme_eq : ∀ i, (s.connectors i).codec.scheme = scheme
  keeps : s.fleet.Keeps scheme log
  waiting : ∀ w ∈ s.waiting, w.Sound scheme

variable {scheme : Scheme} {s s' : Cluster ι} {f f' : Fleet} {log : List Answer} {a : Answer}
  {c : Connector} {r : Request} {id key : String}

theorem Scheme.Lawful.reads_encode (lawful : scheme.Lawful) {c : Codec}
    (same : c.scheme = scheme) (data : Bytes) : scheme.Reads (c.encode data) data := by
  intro reader same'
  rw [Codec.decode_congr (same'.trans same.symm)]
  exact c.decode_encode (same ▸ lawful) data

/-! ### Steps -/

theorem Fleet.Keeps.of_frames (keeps : f.Keeps scheme log)
    (frames : ∀ id key, f'.frame? id key = f.frame? id key)
    (unstored : ∀ id key, a.stored? id key = none) : f'.Keeps scheme (a :: log) := by
  intro id key
  rw [frames, lastPut_cons_of_none (unstored id key)]
  exact keeps id key

theorem Connector.Answers.keeps {out : Fleet × Status} (answers : c.Answers f r out)
    (keeps : f.Keeps scheme log)
    (reads : ∀ key data, r.query = .put key data → scheme.Reads r.frame data) :
    out.1.Keeps scheme (⟨r.query, some r.node, out.2⟩ :: log) := by
  cases answers with
  | cutOff | missed | corrupt =>
    exact keeps.of_frames (fun _ _ => rfl) (Answer.stored?_of_failed rfl)
  | full key data message f' query here frames =>
    exact keeps.of_frames frames (Answer.stored?_of_failed rfl)
  | present key frame message query =>
    exact keeps.of_frames (fun _ _ => rfl)
      (Answer.stored?_of_read (fun _ _ put => nomatch query.symm.trans put))
  | loaded key frame data message query =>
    exact keeps.of_frames (fun _ _ => rfl)
      (Answer.stored?_of_read (fun _ _ put => nomatch query.symm.trans put))
  | stored key data message f' query here frames =>
    intro id k
    rw [frames]
    have stored : Answer.stored? id k ⟨r.query, some r.node, .ok message⟩ =
        if id = r.node.id ∧ k = key then some data else none := by
      simp only [Answer.stored?, query, Option.map_some, Option.some.injEq, Status.ok, true_and]
      exact if_congr ⟨fun both => ⟨both.2.symm, both.1.symm⟩,
        fun both => ⟨both.2.symm, both.1.symm⟩⟩ rfl rfl
    split
    · rename_i here
      rw [lastPut, List.findSome?_cons, stored, if_pos here]
      exact .some (reads key data query)
    · rename_i other
      rw [lastPut_cons_of_none (stored.trans (if_neg other))]
      exact keeps id k

theorem Cluster.Sound.withConnector (sound : s.Sound scheme log) (i : ι)
    (same : c.codec = (s.connectors i).codec) : (s.withConnector i c).Sound scheme log := by
  refine ⟨fun j => ?_, sound.keeps, sound.waiting⟩
  unfold Cluster.withConnector
  dsimp only
  by_cases here : j = i
  · subst here
    rw [Function.update_self, same]
    exact sound.scheme_eq j
  · rw [Function.update_of_ne here]
    exact sound.scheme_eq j

theorem frame?_of_empty (empty : f.stores = []) (id key : String) : f.frame? id key = none := by
  rw [Fleet.frame?, Fleet.store?, empty]
  rfl

theorem Step.sound {a : Option Answer} (step : Step s a s') (lawful : scheme.Lawful)
    (sound : s.Sound scheme log) : s'.Sound scheme (a.toList ++ log) := by
  cases step with
  | refused i q status refused =>
    obtain ⟨_, rfl⟩ := Connector.unowned_of_ask refused
    have kept := sound.withConnector i (Connector.codec_of_uncounted
      ((s.connectors i).uncounted_ask q))
    exact ⟨kept.scheme_eq, kept.keeps.of_frames (fun _ _ => rfl)
      (Answer.stored?_of_failed rfl), kept.waiting⟩
  | sent i q r asked =>
    obtain ⟨owned, sent⟩ := Connector.owner_of_ask asked
    have kept := sound.withConnector i (Connector.codec_of_uncounted
      ((s.connectors i).uncounted_ask q))
    refine ⟨kept.scheme_eq, kept.keeps, ?_⟩
    intro w member
    rcases List.mem_cons.mp member with rfl | before
    · refine ⟨owned, fun key data put => ?_⟩
      rw [sent] at put ⊢
      cases put
      exact lawful.reads_encode (sound.scheme_eq i) data
    · exact kept.waiting w before
  | answered before after w waits =>
    have waited : ∀ x ∈ before ++ after, x ∈ s.waiting := by
      intro x member
      rw [waits]
      exact ((List.sublist_cons_self w after).append_left before).mem member
    have here := sound.waiting w (waits ▸ List.mem_append_right _ List.mem_cons_self)
    have kept := sound.withConnector w.sender (Connector.codec_of_uncounted
      ((s.connectors w.sender).uncounted_answer s.fleet w.request))
    refine ⟨kept.scheme_eq, ?_, fun x member => sound.waiting x (waited x member)⟩
    have answers := (s.connectors w.sender).answer_answers s.fleet w.request
    rw [here.owner_eq]
    exact answers.keeps sound.keeps here.reads
  | refreshed i map => exact sound.withConnector i ((s.connectors i).codec_refresh map)
  | reached id up => exact ⟨sound.scheme_eq, sound.keeps, sound.waiting⟩

theorem Run.sound (run : Run scheme s log) (lawful : scheme.Lawful) : s.Sound scheme log := by
  induction run with
  | start connectors fleet same empty =>
    refine ⟨same, fun id key => ?_, nofun⟩
    rw [frame?_of_empty empty]
    exact .none
  | step _ step ih => exact step.sound lawful ih

variable {node : Node} {frame : Bytes}

theorem lookUp_of_cutOff (gone : node.id ∈ f.cutOff) :
    lookUp f log (some node) key = .unreached := by
  simp only [lookUp, gone, ↓reduceIte]

theorem lookUp_ne_unreached (here : node.id ∉ f.cutOff) :
    lookUp f log (some node) key ≠ .unreached := by
  simp only [lookUp, here, ↓reduceIte]
  split <;> exact nofun

theorem Fleet.Keeps.lookUp_missing (keeps : f.Keeps scheme log) (here : node.id ∉ f.cutOff)
    (absent : f.frame? node.id key = none) : lookUp f log (some node) key = .missing := by
  have kept := keeps node.id key
  rw [absent] at kept
  simp only [lookUp, here, ↓reduceIte]
  cases last : lastPut log node.id key with
  | none => rfl
  | some data =>
    rw [last] at kept
    cases kept

theorem Fleet.Keeps.lookUp_held (keeps : f.Keeps scheme log) (here : node.id ∉ f.cutOff)
    (held : f.frame? node.id key = some frame) :
    ∃ data, lookUp f log (some node) key = .held data ∧ scheme.Reads frame data := by
  have kept := keeps node.id key
  rw [held] at kept
  simp only [lookUp, here, ↓reduceIte]
  cases last : lastPut log node.id key with
  | none =>
    rw [last] at kept
    cases kept
  | some data =>
    rw [last] at kept
    cases kept with
    | some reads => exact ⟨data, rfl, reads⟩

theorem Connector.Answers.refines {out : Fleet × Status} (answers : c.Answers f r out)
    (keeps : f.Keeps scheme log) (same : c.codec.scheme = scheme) :
    Answer.Refines ⟨r.query, some r.node, out.2⟩ f out.1 log := by
  cases answers with
  | cutOff message gone => exact Answer.refines_of_unreached (fun _ => lookUp_of_cutOff gone)
  | stored key data message f' query here frames =>
    exact
      { get := fun k get => nomatch query.symm.trans get
        check := fun k check => nomatch query.symm.trans check
        put := fun k _ _ => Found.toldByPut_ok message (lookUp_ne_unreached here)
        failed := fun failed => absurd rfl failed }
  | full key data message f' query here frames =>
    exact
      { get := fun k get => nomatch query.symm.trans get
        check := fun k check => nomatch query.symm.trans check
        put := fun k _ _ => Found.toldByPut_full message (lookUp_ne_unreached here)
        failed := fun _ id key => ⟨lastPut_of_failed rfl id key, frames id key⟩ }
  | missed message reads here absent =>
    have missing (key : String) (same : r.query.key = key) :
        lookUp f log (some r.node) key = .missing :=
      keeps.lookUp_missing here (same ▸ absent)
    exact
      { get := fun key get =>
          missing key (congrArg Query.key get) ▸ Found.toldByRead_missing message some
        check := fun key check =>
          missing key (congrArg Query.key check) ▸ Found.toldByRead_missing message _
        put := fun key data put => absurd put (reads key data)
        failed := fun _ id key => ⟨lastPut_of_failed rfl id key, rfl⟩ }
  | present key frame message query here held =>
    obtain ⟨data, found, _⟩ := keeps.lookUp_held here held
    refine
      { get := fun k get => nomatch query.symm.trans get
        check := fun k check => ?_
        put := fun k _ put => nomatch query.symm.trans put
        failed := fun failed => absurd rfl failed }
    cases query.symm.trans check
    exact found ▸ Found.toldByRead_held message (fun _ => none) data
  | loaded key frame data message query here held decoded =>
    obtain ⟨data', found, reads⟩ := keeps.lookUp_held here held
    refine
      { get := fun k get => ?_
        check := fun k check => nomatch query.symm.trans check
        put := fun k _ put => nomatch query.symm.trans put
        failed := fun failed => absurd rfl failed }
    cases query.symm.trans get
    cases decoded.symm.trans (reads c.codec same)
    exact found ▸ Found.toldByRead_held message some data
  | corrupt key frame e message query here held undecoded =>
    obtain ⟨data, _, reads⟩ := keeps.lookUp_held here held
    cases undecoded.symm.trans (reads c.codec same)

/-- Every answer in every run is the one that the latest puts give, and a key has no owner exactly
while the ring is empty. -/
theorem refines_of_run (lawful : scheme.Lawful) (run : Run scheme s log)
    (step : Step s (some a) s') :
    a.Refines s.fleet s'.fleet log ∧
      ∀ i key, (s.connectors i).owner? key = none ↔ (s.connectors i).ring.isEmpty = true := by
  have sound := run.sound lawful
  refine ⟨?_, fun i => (s.connectors i).owner?_eq_none_iff⟩
  cases step with
  | refused i q status refused =>
    obtain ⟨unowned, rfl⟩ := Connector.unowned_of_ask refused
    rw [unowned]
    exact Answer.refines_of_unreached (fun _ => rfl)
  | answered before after w waits =>
    have here := sound.waiting w (waits ▸ List.mem_append_right _ List.mem_cons_self)
    rw [here.owner_eq]
    exact ((s.connectors w.sender).answer_answers s.fleet w.request).refines sound.keeps
      (sound.scheme_eq w.sender)

/-- After a put that is stored there is one that finds the node cut off. A connector of other
settings, which comes to know the node only then, gets the first block. -/
theorem refines_after_lost_put : ∃ (scheme : Scheme) (s s' : Cluster Bool) (log : List Answer)
    (a : Answer), scheme.Lawful ∧ Run scheme s log ∧ Step s (some a) s' ∧
      log.map (fun a => a.status.code) = [.unavailable, .ok] ∧ a.query = .get "k" ∧
      lookUp s.fleet log a.owner "k" = .held [1, 2] ∧ a.status.payload = some [1, 2] ∧
      a.Refines s.fleet s'.fleet log := by
  -- short data is one block as it is, behind nine bytes of headers
  let scheme : Scheme :=
    ⟨fun _ data => [0x28, 0xb5, 0x2f, 0xfd, 0, 0x58, .ofNat (8 * data.length + 1), 0, 0] ++ data,
      fun frame => .ok (frame.drop 9)⟩
  let node : Node := ⟨"n", "h", 1, .up⟩
  let writer : Connector :=
    { ring := ⟨1, [⟨0, node⟩], [node]⟩, codec := ⟨scheme, true, 3⟩, hash := fun _ => 0 }
  let reader : Connector := { ring := .new 1, codec := ⟨scheme, false, 0⟩, hash := fun _ => 0 }
  have lawful : scheme.Lawful := fun _ _ => rfl
  have ask {s : Cluster Bool} {log : List Answer} (run : Run scheme s log) (i : Bool) (q : Query)
      (frame : Bytes) (asked : ((s.connectors i).ask q).2 = .ok ⟨q, node, frame⟩) :=
    run.step (.sent s i q ⟨q, node, frame⟩ asked)
  have answer {s : Cluster Bool} {log : List Answer} (run : Run scheme s log) (w : Waiting Bool)
      (waits : s.waiting = [] ++ w :: []) :=
    run.step (.answered s [] [] w waits)
  have fresh : Run scheme ⟨fun i : Bool => cond i writer reader, {}, []⟩ [] :=
    .start _ _ (fun i => by cases i <;> rfl) rfl
  have first := ask fresh true (.put "k" [1, 2]) [0, 1, 2] rfl
  have stored := answer first _ rfl
  have lost := ask (stored.step (.reached _ "n" false)) true (.put "k" [3]) [0, 3] rfl
  have refused := answer lost _ rfl
  have known := (refused.step (.reached _ "n" true)).step (.refreshed _ false (.ok [node]))
  have last := ask known false (.get "k") [] rfl
  exact ⟨scheme, _, _, _, _, lawful, last, .answered _ [] [] _ rfl, rfl, rfl, rfl, rfl,
    (refines_of_run lawful last (.answered _ [] [] _ rfl)).1⟩

end BlockTier.L2
