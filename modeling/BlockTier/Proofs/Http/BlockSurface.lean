import BlockTier.Http.StorageApi
import BlockTier.Proofs.L2.Requests
import BlockTier.Proofs.Url.Spelling
import Mathlib.Data.List.TakeWhile
/-!
Blocks that are put, got and looked for over HTTP. The answers are those of the node's store, and of
the fleet in memory, except for bodies that are longer than a request may bring.
-/
namespace BlockTier.Http.StorageApi

open L2

/-! ### Requests on a block -/

/-- The path is that of the block with this key. -/
structure Names (r : Request) (key : String) : Prop where
  nonempty : key ≠ ""
  encoded : ∃ segment, r.path = blockRoot ++ segment ∧ '/' ∉ segment ∧
    Url.Spells (Bytes.ofString (String.ofList segment)) (Bytes.ofString key)

/-- The request with the key written as an encoded segment. -/
def blockRequest (method : Method) (key : String) (body : Bytes) : Request :=
  { method, target := String.ofList (blockRoot ++ Url.encode Url.inSegment key.toList), body }

theorem takeWhile_of_notMem {cs : List Char} (noQuery : '?' ∉ cs) (noFragment : '#' ∉ cs) :
    cs.takeWhile (fun c => c ≠ '?' && c ≠ '#') = cs := by
  apply List.takeWhile_eq_self_iff.mpr
  intro c member
  have notQuery : c ≠ '?' := fun same => noQuery (same ▸ member)
  have notFragment : c ≠ '#' := fun same => noFragment (same ▸ member)
  simp only [notQuery, notFragment, ne_eq, not_false_eq_true, decide_true, Bool.and_self]

theorem path_blockRequest (method : Method) (key : String) (body : Bytes) :
    (blockRequest method key body).path = blockRoot ++ Url.encode Url.inSegment key.toList := by
  have root : blockRoot = '/' :: "v1/blocks/".toList := by decide
  have relative : afterScheme? (blockRoot ++ Url.encode Url.inSegment key.toList) = none := by
    simp [root, afterScheme?]
  rw [Request.path]
  simp only [blockRequest, String.toList_ofList, relative]
  apply takeWhile_of_notMem
  · rw [List.mem_append, not_or]
    exact ⟨by decide, Url.notMem_encode (by decide) (by decide) key.toList⟩
  · rw [List.mem_append, not_or]
    exact ⟨by decide, Url.notMem_encode (by decide) (by decide) key.toList⟩

theorem names_blockRequest {key : String} (nonempty : key ≠ "") (method : Method) (body : Bytes) :
    Names (blockRequest method key body) key := by
  refine ⟨nonempty, _, path_blockRequest method key body,
    Url.notMem_encode (by decide) (by decide) _, ?_⟩
  have spells := Url.spells_encode key.toList
  rwa [String.ofList_toList] at spells

theorem encodedKey?_blockRoot {segment : List Char} (nonempty : segment ≠ [])
    (oneSegment : '/' ∉ segment) : encodedKey? (blockRoot ++ segment) = some segment := by
  have filled : segment.isEmpty = false := by simpa using nonempty
  have noSlash : segment.contains '/' = false := by simpa using oneSegment
  unfold encodedKey?
  dsimp only
  rw [List.take_left, List.drop_left, filled, noSlash]
  simp only [decide_true, Bool.not_false, Bool.and_self, ↓reduceIte]

variable {r : Request} {key : String}

theorem handle_of_names (names : Names r key) (nodeId : String) (s : Store) :
    handle nodeId s r =
      match r.method with
      | .put => put s key r.body
      | .get => (s, get s key)
      | .head => (s, head s key)
      | _ => (s, .methodNotAllowed) := by
  obtain ⟨segment, path, oneSegment, spells⟩ := names.encoded
  have read : key? segment = some key := by
    rw [key?, spells.decode, Bytes.toString?_ofString]
  have nonempty : segment ≠ [] := by
    rintro rfl
    have none : Bytes.ofString key = Bytes.ofString "" :=
      spells.decode.symm.trans Url.Spells.nil.decode
    have same := Bytes.toString?_ofString key
    rw [none, Bytes.toString?_ofString] at same
    exact names.nonempty (Option.some.inj same).symm
  have other : r.path ≠ "/health".toList := by
    intro same
    have root : blockRoot = '/' :: 'v' :: "1/blocks/".toList := by decide
    have health : "/health".toList = '/' :: 'h' :: "ealth".toList := by decide
    rw [path, root, health] at same
    have letters : 'v' = 'h' := (List.cons.inj (List.cons.inj same).2).1
    exact absurd letters (by decide)
  have encoded : encodedKey? r.path = some segment := by
    rw [path, encodedKey?_blockRoot nonempty oneSegment]
  rw [handle, if_neg other, encoded]
  simp only [handleBlock, read]
  cases r.method <;> rfl

/-! ### What the answers should be -/

/-- A request on a block, and what it was answered. -/
structure Exchange where
  method : Method
  key : String
  body : Bytes
  response : Response

namespace Exchange

def stored? (e : Exchange) (key : String) : Option Bytes :=
  if e.method = .put ∧ e.response.code = 204 ∧ e.key = key then some e.body else none

/-- More is put than a request may bring. -/
def isTooLong (e : Exchange) : Bool := e.method = .put && maxBody < e.body.length

end Exchange

/-- What was last put and stored. Logs have their last entry first. -/
def lastPut? (log : List Exchange) (key : String) : Option Bytes := log.findSome? (·.stored? key)

/-- What a node says that answers for its store: a put is stored or does not fit, and a get or a
head finds what was last put and stored. -/
inductive Documented (maxBytes : Nat) : Store → List Exchange → Prop
  | start : Documented maxBytes (.new maxBytes) []
  | stored {s s' : Store} {log : List Exchange} {key : String} {body : Bytes}
    (before : Documented maxBytes s log) (accepted : s.put key body = .ok s') :
    Documented maxBytes s' (⟨.put, key, body, { code := 204 }⟩ :: log)
  | full {s : Store} {log : List Exchange} {key : String} {body : Bytes} {e : StoreError}
    (before : Documented maxBytes s log) (refused : s.put key body = .error e) :
    Documented maxBytes s (⟨.put, key, body, { code := 507 }⟩ :: log)
  | found {s : Store} {log : List Exchange} {key : String} {body data : Bytes}
    (before : Documented maxBytes s log) (last : lastPut? log key = some data) :
    Documented maxBytes s (⟨.get, key, body, ⟨200, .bytes data⟩⟩ :: log)
  | missed {s : Store} {log : List Exchange} {key : String} {body : Bytes}
    (before : Documented maxBytes s log) (last : lastPut? log key = none) :
    Documented maxBytes s (⟨.get, key, body, { code := 404 }⟩ :: log)
  | present {s : Store} {log : List Exchange} {key : String} {body data : Bytes}
    (before : Documented maxBytes s log) (last : lastPut? log key = some data) :
    Documented maxBytes s (⟨.head, key, body, { code := 200 }⟩ :: log)
  | absent {s : Store} {log : List Exchange} {key : String} {body : Bytes}
    (before : Documented maxBytes s log) (last : lastPut? log key = none) :
    Documented maxBytes s (⟨.head, key, body, { code := 404 }⟩ :: log)

/-- What the fleet in memory says to the same, where a code stands for the answer that it is read
as. -/
inductive InMemory (node : Node) (maxBytes : Nat) : Fleet → List Exchange → Prop
  | start : InMemory node maxBytes { nodeCapacity := maxBytes } []
  | stored {f f' : Fleet} {log : List Exchange} {key : String} {body : Bytes}
    (before : InMemory node maxBytes f log) (put : f.put node key body = (f', .ok ())) :
    InMemory node maxBytes f' (⟨.put, key, body, { code := 204 }⟩ :: log)
  | full {f f' : Fleet} {log : List Exchange} {key : String} {body : Bytes}
    (before : InMemory node maxBytes f log)
    (put : f.put node key body = (f', .error (.nodeFull node.id))) :
    InMemory node maxBytes f' (⟨.put, key, body, { code := 507 }⟩ :: log)
  | found {f : Fleet} {log : List Exchange} {key : String} {body data : Bytes}
    (before : InMemory node maxBytes f log) (got : f.get node key = .ok (some data)) :
    InMemory node maxBytes f (⟨.get, key, body, ⟨200, .bytes data⟩⟩ :: log)
  | missed {f : Fleet} {log : List Exchange} {key : String} {body : Bytes}
    (before : InMemory node maxBytes f log) (got : f.get node key = .ok none) :
    InMemory node maxBytes f (⟨.get, key, body, { code := 404 }⟩ :: log)
  | present {f : Fleet} {log : List Exchange} {key : String} {body : Bytes}
    (before : InMemory node maxBytes f log) (holds : f.holds node key = .ok true) :
    InMemory node maxBytes f (⟨.head, key, body, { code := 200 }⟩ :: log)
  | absent {f : Fleet} {log : List Exchange} {key : String} {body : Bytes}
    (before : InMemory node maxBytes f log) (holds : f.holds node key = .ok false) :
    InMemory node maxBytes f (⟨.head, key, body, { code := 404 }⟩ :: log)

/-! ### The fleet in memory -/

/-- The node is within reach and this is its store. -/
structure Serves (f : Fleet) (node : Node) (s : Store) : Prop where
  reach : f.reach node = .ok ()
  store : (f.store? node.id).getD (.new f.nodeCapacity) = s

variable {f : Fleet} {node : Node} {s s' : Store} {body : Bytes} {log : List Exchange}
  {maxBytes : Nat}

theorem Serves.setStore (serves : Serves f node s) (s' : Store) :
    Serves { f with stores := f.stores.insert node.id s' } node s' := by
  refine ⟨serves.reach, ?_⟩
  rw [Fleet.store?, Table.find?_insert, if_pos rfl, Option.getD_some]

theorem Serves.put_eq (serves : Serves f node s) (key : String) (body : Bytes) :
    f.put node key body =
      match s.put key body with
      | .ok s' => ({ f with stores := f.stores.insert node.id s' }, .ok ())
      | .error _ =>
        ({ f with stores := f.stores.insert node.id s }, .error (.nodeFull node.id)) := by
  cases taken : s.put key body <;> simp only [Fleet.put, serves.reach, serves.store, taken]

theorem Serves.frame?_eq (serves : Serves f node s) (key : String) :
    f.frame? node.id key = s.get? key := by
  rw [← serves.store, Fleet.get?_getD_new]

/-! ### Stores and logs -/

theorem lastPut?_cons_of_none {e : Exchange} {key : String} (unstored : e.stored? key = none) :
    lastPut? (e :: log) key = lastPut? log key := by
  rw [lastPut?, List.findSome?_cons, unstored, lastPut?]

/-- The store has what the log says. -/
theorem Documented.get?_eq (documented : Documented maxBytes s log) (k : String) :
    s.get? k = lastPut? log k := by
  induction documented with
  | start => rfl
  | @stored s s' log key body before accepted ih =>
    rw [Store.get?_put accepted, lastPut?, List.findSome?_cons, Exchange.stored?]
    by_cases here : k = key
    · simp only [here, and_self, ↓reduceIte]
    · have other : key ≠ k := fun same => here same.symm
      simp only [here, other, and_false, ↓reduceIte]
      exact ih
  | full before refused ih =>
    have unstored : (507 : Nat) ≠ 204 := by decide
    rw [lastPut?_cons_of_none (if_neg fun all => unstored all.2.1), ih]
  | found | missed | present | absent =>
    rename_i ih
    rw [lastPut?_cons_of_none, ih]
    exact if_neg fun all => nomatch all.1

theorem Documented.get_eq (documented : Documented maxBytes s log) (serves : Serves f node s)
    (key : String) : f.get node key = .ok (lastPut? log key) := by
  rw [Fleet.get_eq, serves.reach, serves.frame?_eq, documented.get?_eq]
  rfl

theorem Documented.holds_eq (documented : Documented maxBytes s log) (serves : Serves f node s)
    (key : String) : f.holds node key = .ok (lastPut? log key).isSome := by
  rw [Fleet.holds_eq, serves.reach, serves.frame?_eq, documented.get?_eq]
  rfl

/-- The fleet in memory says the same. -/
theorem Documented.inMemory (documented : Documented maxBytes s log) (node : Node) :
    ∃ f, InMemory node maxBytes f log ∧ Serves f node s := by
  induction documented with
  | start => exact ⟨_, .start, rfl, rfl⟩
  | @stored s s' log key body before accepted ih =>
    obtain ⟨f, same, serves⟩ := ih
    have put := serves.put_eq key body
    rw [accepted] at put
    exact ⟨_, same.stored put, serves.setStore s'⟩
  | @full s log key body e before refused ih =>
    obtain ⟨f, same, serves⟩ := ih
    have put := serves.put_eq key body
    rw [refused] at put
    exact ⟨_, same.full put, serves.setStore s⟩
  | @found s log key body data before last ih =>
    obtain ⟨f, same, serves⟩ := ih
    exact ⟨f, same.found (last ▸ before.get_eq serves key), serves⟩
  | @missed s log key body before last ih =>
    obtain ⟨f, same, serves⟩ := ih
    exact ⟨f, same.missed (last ▸ before.get_eq serves key), serves⟩
  | @present s log key body data before last ih =>
    obtain ⟨f, same, serves⟩ := ih
    have holds := before.holds_eq serves key
    rw [last] at holds
    exact ⟨f, same.present holds, serves⟩
  | @absent s log key body before last ih =>
    obtain ⟨f, same, serves⟩ := ih
    have holds := before.holds_eq serves key
    rw [last] at holds
    exact ⟨f, same.absent holds, serves⟩

theorem InMemory.code_ne (same : InMemory node maxBytes f log) :
    ∀ e ∈ log, e.response.code ≠ 413 := by
  induction same with
  | start => exact fun _ absent => nomatch absent
  | stored | full | found | missed | present | absent =>
    rename_i ih
    exact List.forall_mem_cons.mpr ⟨by simp, ih⟩

/-! ### The node -/

theorem Documented.put (documented : Documented maxBytes s log) (key : String)
    (fits : body.length ≤ maxBody) :
    Documented maxBytes (put s key body).1 (⟨.put, key, body, (put s key body).2⟩ :: log) := by
  have short : ¬ maxBody < body.length := Nat.not_lt.mpr fits
  rw [StorageApi.put, if_neg short]
  cases accepted : s.put key body with
  | ok s' => exact documented.stored accepted
  | error e => exact documented.full accepted

theorem Documented.get (documented : Documented maxBytes s log) (key : String) (body : Bytes) :
    Documented maxBytes s (⟨.get, key, body, get s key⟩ :: log) := by
  have held := documented.get?_eq key
  rw [StorageApi.get]
  cases last : lastPut? log key with
  | some data =>
    rw [held, last]
    exact documented.found last
  | none =>
    rw [held, last]
    exact documented.missed last

theorem Documented.head (documented : Documented maxBytes s log) (key : String) (body : Bytes) :
    Documented maxBytes s (⟨.head, key, body, head s key⟩ :: log) := by
  have held : s.contains key = (lastPut? log key).isSome := by
    rw [← documented.get?_eq key]
    rfl
  rw [StorageApi.head, held]
  cases last : lastPut? log key with
  | some data => exact documented.present last
  | none => exact documented.absent last

/-- Requests on blocks that a node has answered, from when its store was empty. -/
inductive Served (nodeId : String) (maxBytes : Nat) : Store → List Exchange → Prop
  | start : Served nodeId maxBytes (.new maxBytes) []
  | step {s : Store} {log : List Exchange} {r : Request} {key : String}
    (before : Served nodeId maxBytes s log) (names : Names r key)
    (method : r.method = .put ∨ r.method = .get ∨ r.method = .head) :
    Served nodeId maxBytes (handle nodeId s r).1
      (⟨r.method, key, r.body, (handle nodeId s r).2⟩ :: log)

variable {nodeId : String}

theorem Served.refused (served : Served nodeId maxBytes s log) :
    ∀ e ∈ log, e.isTooLong = true → e.response = { code := 413 } := by
  induction served with
  | start => exact fun _ absent => nomatch absent
  | @step s log r key before names method ih =>
    refine List.forall_mem_cons.mpr ⟨fun long => ?_, ih⟩
    simp only [Exchange.isTooLong, Bool.and_eq_true, decide_eq_true_eq] at long
    rw [handle_of_names names, long.1]
    dsimp only
    rw [put, if_pos long.2]

/-- The requests that are not too long are answered as if there were no others. -/
theorem Served.documented (served : Served nodeId maxBytes s log) :
    Documented maxBytes s (log.filter fun e => !e.isTooLong) := by
  induction served with
  | start => exact .start
  | @step s log r key before names method ih =>
    rw [handle_of_names names, List.filter_cons]
    rcases method with put | get | head
    · rw [put]
      dsimp only
      by_cases long : maxBody < r.body.length
      · simp only [Exchange.isTooLong, long, decide_true, Bool.and_self, Bool.not_true,
          Bool.false_eq_true, ↓reduceIte]
        rw [StorageApi.put, if_pos long]
        exact ih
      · simp only [Exchange.isTooLong, long, decide_false, Bool.and_false, Bool.not_false,
          ↓reduceIte]
        exact ih.put key (Nat.not_lt.mp long)
    · rw [get]
      exact ih.get key r.body
    · rw [head]
      exact ih.head key r.body

/-- A node's answers are those of its store, and of the fleet in memory under the same ceiling,
unless more is put than a request may bring. Such a put is refused, whatever room there is, and the
rest is answered as if it had not come. -/
theorem documented_of_served (served : Served nodeId maxBytes s log) (node : Node) :
    (Documented maxBytes s log ↔ ∀ e ∈ log, e.isTooLong = false) ∧
      ((∃ f, InMemory node maxBytes f log) ↔ ∀ e ∈ log, e.isTooLong = false) ∧
      (∀ e ∈ log, e.isTooLong = true → e.response = { code := 413 }) ∧
      Documented maxBytes s (log.filter fun e => !e.isTooLong) := by
  have whole (short : ∀ e ∈ log, e.isTooLong = false) : Documented maxBytes s log := by
    have kept : log.filter (fun e => !e.isTooLong) = log :=
      List.filter_eq_self.mpr fun e member => by rw [short e member, Bool.not_false]
    exact kept ▸ served.documented
  have short (f : Fleet) (same : InMemory node maxBytes f log) :
      ∀ e ∈ log, e.isTooLong = false := by
    intro e member
    apply Bool.eq_false_iff.mpr
    intro long
    exact same.code_ne e member (congrArg Response.code (served.refused e member long))
  refine ⟨⟨fun documented => ?_, whole⟩, ⟨fun ⟨f, same⟩ => short f same, fun all => ?_⟩,
    served.refused, served.documented⟩
  · obtain ⟨f, same, _⟩ := documented.inMemory node
    exact short f same
  · obtain ⟨f, same, _⟩ := (whole all).inMemory node
    exact ⟨f, same⟩

/-- A ceiling of two bytes takes one of two puts. -/
theorem documented_after_full : ∃ s log, Served "n" 2 s log ∧
    log.map (fun e => (e.method, e.key, e.response)) =
      [(.get, "k", ⟨200, .bytes [1, 2]⟩), (.put, "l", { code := 507 }),
        (.put, "k", { code := 204 })] ∧
      Documented 2 s log ∧ ∃ f, InMemory ⟨"n", "h", 1, .up⟩ 2 f log := by
  have put : Names (blockRequest .put "k" [1, 2]) "k" := names_blockRequest (by decide) _ _
  have more : Names (blockRequest .put "l" [3]) "l" := names_blockRequest (by decide) _ _
  have get : Names (blockRequest .get "k" []) "k" := names_blockRequest (by decide) _ _
  have empty : Served "n" 2 _ _ := .start
  have stored := empty.step put (Or.inl rfl)
  rw [handle_of_names put] at stored
  have full := stored.step more (Or.inl rfl)
  rw [handle_of_names more] at full
  have found := full.step get (Or.inr (Or.inl rfl))
  rw [handle_of_names get] at found
  have account := documented_of_served found ⟨"n", "h", 1, .up⟩
  refine ⟨_, _, found, rfl, account.1.mpr (by decide), account.2.1.mpr (by decide)⟩

/-- A node without a ceiling refuses a block that its store takes. -/
theorem refused_without_ceiling : ∃ log,
    log = [⟨.put, "k", .zeros (maxBody + 1), { code := 413 }⟩] ∧ Served "n" 0 (.new 0) log ∧
      (∃ s, (Store.new 0).put "k" (.zeros (maxBody + 1)) = .ok s) ∧
      (∀ s, ¬ Documented 0 s log) ∧ ∀ node f, ¬ InMemory node 0 f log := by
  have long : maxBody < (Bytes.zeros (maxBody + 1)).length := by
    rw [Bytes.zeros, List.length_replicate]
    exact Nat.lt_succ_self maxBody
  generalize Bytes.zeros (maxBody + 1) = body at long ⊢
  let log : List Exchange := [⟨.put, "k", body, { code := 413 }⟩]
  have names : Names (blockRequest .put "k" body) "k" := names_blockRequest (by decide) _ _
  have refused : Served "n" 0 (.new 0) log := by
    have empty : Served "n" 0 _ _ := .start
    have answered := empty.step names (Or.inl rfl)
    rw [handle_of_names names] at answered
    change Served "n" 0 (put (.new 0) "k" body).1 [⟨.put, "k", body, (put (.new 0) "k" body).2⟩]
      at answered
    rwa [put, if_pos long] at answered
  have unlike (node : Node) (f : Fleet) : ¬ InMemory node 0 f log :=
    fun same => same.code_ne _ List.mem_cons_self rfl
  refine ⟨log, rfl, refused, Store.put_of_unbounded rfl "k" body, fun s documented => ?_, unlike⟩
  obtain ⟨f, same, _⟩ := documented.inMemory ⟨"n", "h", 1, .up⟩
  exact unlike _ f same

end BlockTier.Http.StorageApi
