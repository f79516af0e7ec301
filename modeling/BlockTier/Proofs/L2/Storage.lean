import BlockTier.L2.Codec
import BlockTier.L2.Fleet
/-!
Frames and the stores that hold them: a frame decodes to the data that it was made of, and a put or
a removal changes the frame of one key on one node.
-/
namespace BlockTier.L2

theorem Codec.decode_encode (c : Codec) (lawful : c.scheme.Lawful) (data : Bytes) :
    c.decode (c.encode data) = .ok data := by
  unfold encode
  dsimp only
  split
  · have other : compressedTag ≠ rawTag := by decide
    simp only [decode, other, lawful c.level data, ↓reduceIte]
    rfl
  · simp only [decode, ↓reduceIte]

theorem Codec.decode_congr {c c' : Codec} (same : c'.scheme = c.scheme) :
    c'.decode = c.decode := by
  funext frame
  cases frame with
  | nil => rfl
  | cons tag body => rw [decode, decode, same]

theorem Store.get?_put {s s' : Store} {key : String} {data : Bytes} (put : s.put key data = .ok s')
    (k : String) : s'.get? k = if k = key then some data else s.get? k := by
  unfold Store.put at put
  dsimp only at put
  split at put
  · cases put
  · cases put
    exact Table.find?_insert ..

theorem Store.maxBytes_put {s s' : Store} {key : String} {data : Bytes}
    (put : s.put key data = .ok s') : s'.maxBytes = s.maxBytes := by
  unfold Store.put at put
  dsimp only at put
  split at put
  · cases put
  · cases put
    rfl

theorem Store.put_of_unbounded {s : Store} (unbounded : s.maxBytes = 0) (key : String)
    (data : Bytes) : ∃ s', s.put key data = .ok s' := by
  unfold Store.put
  simp only [unbounded, Nat.lt_irrefl, decide_false, Bool.false_and]
  exact ⟨_, rfl⟩

theorem Store.get?_remove (s : Store) (key k : String) :
    (s.remove key).1.get? k = if k = key then none else s.get? k := by
  unfold remove
  split
  · rename_i absent
    split
    · rename_i here
      rw [here]
      exact absent
    · rfl
  · exact Table.find?_erase ..

namespace Fleet

/-- The frame that a node holds for a key. -/
def frame? (f : Fleet) (id key : String) : Option Bytes := (f.store? id).bind (·.get? key)

variable (f : Fleet) (node : Node) (key : String) (data : Bytes)

theorem get_eq : f.get node key = (f.reach node).map (fun _ => f.frame? node.id key) := by
  unfold get
  cases f.reach node <;> rfl

theorem holds_eq :
    f.holds node key = (f.reach node).map (fun _ => (f.frame? node.id key).isSome) := by
  unfold holds
  cases f.reach node with
  | error e => rfl
  | ok _ =>
    simp only [frame?, Store.get?]
    cases f.store? node.id <;> rfl

theorem frame?_setStore {stores : Table Store} {id : String} {store : Store}
    (set : stores = f.stores.insert id store) (i k : String) :
    frame? { f with stores } i k = if i = id then store.get? k else f.frame? i k := by
  subst set
  simp only [frame?, store?, Table.find?_insert]
  split <;> rfl

theorem get?_getD_new (id k : String) :
    ((f.store? id).getD (.new f.nodeCapacity)).get? k = f.frame? id k := by
  unfold frame?
  cases f.store? id <;> rfl

variable {f node key data}

theorem get_eq_none_iff : f.get node key = .ok none ↔ f.holds node key = .ok false := by
  rw [get_eq, holds_eq]
  cases f.reach node with
  | error e => exact ⟨nofun, nofun⟩
  | ok _ => cases f.frame? node.id key <;> simp [Except.map]

theorem reach_of_put (stored : (f.put node key data).2 = .ok ()) : f.reach node = .ok () := by
  unfold put at stored
  cases reached : f.reach node with
  | error e =>
    rw [reached] at stored
    cases stored
  | ok _ => rfl

theorem frame?_put (stored : (f.put node key data).2 = .ok ()) (i k : String) :
    (f.put node key data).1.frame? i k = if i = node.id ∧ k = key then some data
      else f.frame? i k := by
  have reached := reach_of_put stored
  unfold put at stored ⊢
  rw [reached] at stored ⊢
  dsimp only at stored ⊢
  cases taken : ((f.store? node.id).getD (.new f.nodeCapacity)).put key data with
  | error e =>
    rw [taken] at stored
    cases stored
  | ok store =>
    dsimp only
    rw [frame?_setStore f rfl, Store.get?_put taken, get?_getD_new]
    by_cases here : i = node.id <;> by_cases same : k = key <;> simp [here, same]

theorem reach_put (f : Fleet) (node n : Node) (key : String) (data : Bytes) :
    (f.put node key data).1.reach n = f.reach n := by
  unfold put
  split
  · rfl
  · dsimp only
    split <;> rfl

theorem get_put (stored : (f.put node key data).2 = .ok ()) :
    (f.put node key data).1.get node key = .ok (some data) := by
  rw [get_eq, reach_put, reach_of_put stored, frame?_put stored, if_pos ⟨rfl, rfl⟩]
  rfl

theorem frame?_put_of_error {e : TransportError} (refused : (f.put node key data).2 = .error e)
    (i k : String) : (f.put node key data).1.frame? i k = f.frame? i k := by
  unfold put at refused ⊢
  cases reached : f.reach node with
  | error e => rfl
  | ok _ =>
    rw [reached] at refused
    dsimp only at refused ⊢
    cases taken : ((f.store? node.id).getD (.new f.nodeCapacity)).put key data with
    | ok store =>
      rw [taken] at refused
      cases refused
    | error e =>
      dsimp only
      rw [frame?_setStore f rfl, get?_getD_new]
      by_cases here : i = node.id <;> simp [here]

/-- Every node answers and takes every block. -/
structure Dependable (f : Fleet) : Prop where
  reachable : f.cutOff = []
  unbounded : f.nodeCapacity = 0
  stores : ∀ id store, f.store? id = some store → store.maxBytes = 0

/-- The nodes answer as before, and a key that was on a node is there still. -/
structure Grows (f f' : Fleet) : Prop where
  dependable : f.Dependable → f'.Dependable
  held : ∀ id key, (f.frame? id key).isSome = true → (f'.frame? id key).isSome = true

theorem Grows.refl (f : Fleet) : f.Grows f := ⟨id, fun _ _ => id⟩

theorem Grows.trans {f' f'' : Fleet} (first : f.Grows f') (second : f'.Grows f'') : f.Grows f'' :=
  ⟨fun dependable => second.dependable (first.dependable dependable),
    fun id key held => second.held id key (first.held id key held)⟩

theorem Dependable.reach (dependable : f.Dependable) (node : Node) : f.reach node = .ok () := by
  rw [Fleet.reach, dependable.reachable]
  rfl

theorem Dependable.maxBytes (dependable : f.Dependable) (id : String) :
    ((f.store? id).getD (.new f.nodeCapacity)).maxBytes = 0 := by
  cases there : f.store? id with
  | none => exact dependable.unbounded
  | some store => exact dependable.stores id store there

theorem Dependable.put (dependable : f.Dependable) (node : Node) (key : String) (data : Bytes) :
    (f.put node key data).2 = .ok () := by
  obtain ⟨store, taken⟩ := Store.put_of_unbounded (dependable.maxBytes node.id) key data
  simp only [Fleet.put, dependable.reach, taken]

theorem Dependable.setStore (dependable : f.Dependable) {id : String} {store : Store}
    (unbounded : store.maxBytes = 0) :
    Dependable { f with stores := f.stores.insert id store } := by
  refine ⟨dependable.reachable, dependable.unbounded, fun i store' there => ?_⟩
  rw [store?, Table.find?_insert] at there
  split at there
  · cases there
    exact unbounded
  · exact dependable.stores i store' there

theorem grows_put (f : Fleet) (node : Node) (key : String) (data : Bytes) :
    f.Grows (f.put node key data).1 := by
  refine ⟨fun dependable => ?_, fun i k held => ?_⟩
  · obtain ⟨store, taken⟩ := Store.put_of_unbounded (dependable.maxBytes node.id) key data
    simp only [put, dependable.reach, taken]
    exact dependable.setStore ((Store.maxBytes_put taken).trans (dependable.maxBytes node.id))
  · cases stored : (f.put node key data).2 with
    | ok _ =>
      rw [frame?_put stored]
      split
      · rfl
      · exact held
    | error e => rwa [frame?_put_of_error stored]

variable (f key)

theorem frame?_remove (id i k : String) :
    (f.remove id key).1.frame? i k = if i = id ∧ k = key then none else f.frame? i k := by
  unfold remove
  cases there : f.store? id with
  | none =>
    dsimp only
    split
    · rename_i same
      rw [same.1, frame?, there, Option.bind_none]
    · rfl
  | some store =>
    have frame : f.frame? id k = store.get? k := by rw [frame?, there, Option.bind_some]
    dsimp only
    rw [frame?_setStore f rfl, Store.get?_remove]
    by_cases here : i = id
    · subst here
      rw [if_pos rfl, frame]
      by_cases same : k = key <;> simp [same]
    · rw [if_neg here, if_neg (fun both => here both.1)]

end Fleet

end BlockTier.L2
