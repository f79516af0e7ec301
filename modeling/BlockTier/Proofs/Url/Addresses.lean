import BlockTier.Proofs.Url.Hosts
import BlockTier.Url.Block
import Mathlib.Data.List.Basic
import Mathlib.Data.List.TakeWhile
/-!
The addresses of nodes with a plain host. Each of them is read as a URL of the server alone: a host,
a port and an empty path.
-/
namespace BlockTier.Url

theorem toList_address (n : Node) :
    n.address.toList = n.host.toList ++ ':' :: Nat.toDigits 10 n.port := by
  have colon : (toString ":").toList = [':'] := by decide
  have host : (toString n.host).toList = n.host.toList := rfl
  simp only [Node.address, String.toList_append, host, colon, Nat.toString_eq_ofList_toDigits,
    String.toList_ofList, List.append_assoc, List.singleton_append]

theorem number_toDigits (n : Nat) : number 10 (Nat.toDigits 10 n) = n := by
  have value : ∀ m, ∀ c ∈ Nat.toDigits 10 n,
      10 * m + digitValue c = 10 * m + (c.toNat - '0'.toNat) := by
    intro m c member
    rw [digitValue, if_pos (Nat.isDigit_of_mem_toDigits (by decide) (Nat.le_refl _) member)]
    rfl
  calc number 10 (Nat.toDigits 10 n)
    _ = Nat.ofDigitChars 10 (Nat.toDigits 10 n) 0 := List.foldl_ext _ _ 0 value
    _ = n := Nat.ofDigitChars_toDigits (by decide) (Nat.le_refl _)

/-- The port that a URL shows. -/
def shownPort (p : Nat) : Option Nat := if p = 80 then none else some p

theorem port_toDigits {p : Nat} (valid : p ≤ 65535) :
    port (':' :: Nat.toDigits 10 p) = .ok (shownPort p) := by
  have digits : (Nat.toDigits 10 p).all Char.isDigit = true :=
    List.all_eq_true.mpr fun _ => Nat.isDigit_of_mem_toDigits (by decide) (Nat.le_refl _)
  have filled : (Nat.toDigits 10 p).isEmpty = false := by simp [Nat.toDigits_ne_nil]
  have small : ¬ 65535 < p := Nat.not_lt.mpr valid
  simp only [port, digits, filled, number_toDigits, small, decide_false, Bool.not_true,
    Bool.or_false, Bool.false_or, Bool.false_eq_true, ↓reduceIte, decide_eq_true_eq, shownPort]
  split <;> rfl

theorem hostLength_append {h : List Char} (plain : ∀ c ∈ h, isHostChar c = true)
    (rest : List Char) : hostLength false (h ++ ':' :: rest) = h.length := by
  induction h with
  | nil => rfl
  | cons c cs ih =>
    have other : c ≠ ':' ∧ c ≠ '[' ∧ c ≠ ']' :=
      of_isHostChar (p := fun c => c ≠ ':' ∧ c ≠ '[' ∧ c ≠ ']') (by decide)
        (plain c List.mem_cons_self)
    rw [List.cons_append, hostLength]
    simp only [other, decide_false, Bool.false_and, Bool.false_eq_true, ↓reduceIte]
    rw [ih fun x member => plain x (List.mem_cons_of_mem _ member)]
    rfl

theorem cutAfterLast_of_absent {test : Char → Bool} {cs : List Char}
    (absent : ∀ c ∈ cs, test c = false) : cutAfterLast test cs = ([], cs) := by
  have whole : cs.reverse.takeWhile (fun c => !test c) = cs.reverse := by
    apply List.takeWhile_eq_self_iff.mpr
    intro c member
    rw [absent c (List.mem_reverse.mp member), Bool.not_false]
  rw [cutAfterLast, whole, List.length_reverse, Nat.sub_self, List.take_zero, List.reverse_reverse]

/-- The characters of a plain host and a port. -/
def isServerChar (c : Char) : Bool := isHostChar c || c = ':'

theorem of_isServerChar {p : Char → Prop}
    (ascii : ∀ n < 128, isHostChar (Char.ofNat n) = true → p (Char.ofNat n)) (colon : p ':')
    {c : Char} (plain : isServerChar c = true) : p c := by
  rcases Bool.or_eq_true_iff.mp plain with plain | same
  · exact of_isHostChar ascii plain
  · rwa [of_decide_eq_true same]

theorem isServerChar_of_plain {h digits : List Char} (plain : ∀ c ∈ h, isHostChar c = true)
    (digit : ∀ c ∈ digits, isHostChar c = true) :
    ∀ c ∈ h ++ ':' :: digits, isServerChar c = true := by
  intro c member
  rcases List.mem_append.mp member with first | later
  · exact Bool.or_eq_true_iff.mpr (Or.inl (plain c first))
  · rcases List.mem_cons.mp later with rfl | later
    · rfl
    · exact Bool.or_eq_true_iff.mpr (Or.inl (digit c later))

/-- A server with a slash behind it is read up to the slash. -/
theorem read_server {server name : List Char} {p : Option Nat} (nonempty : server ≠ [])
    (plain : ∀ c ∈ server, isServerChar c = true)
    (named : host (server.take (hostLength false server)) = .ok name)
    (shown : port (server.drop (hostLength false server)) = .ok p) :
    read (server ++ ['/']) = .ok { host := name, port := p, path := [[]] } := by
  have kept : (server ++ ['/']).filter (fun c => !isIgnored c) = server ++ ['/'] := by
    apply List.filter_eq_self.mpr
    intro c member
    rcases List.mem_append.mp member with inside | slash
    · exact of_isServerChar (p := fun c => (!isIgnored c) = true) (by decide) rfl (plain c inside)
    · rw [List.mem_singleton.mp slash]
      rfl
  have first : (server ++ ['/']).dropWhile isSlash = server ++ ['/'] := by
    cases server with
    | nil => exact absurd rfl nonempty
    | cons c rest =>
      have noSlash : isSlash c = false :=
        of_isServerChar (p := fun c => isSlash c = false) (by decide) rfl
          (plain c List.mem_cons_self)
      rw [List.cons_append, List.dropWhile_cons, noSlash]
      rfl
  have inside : ∀ c ∈ server, (!endsAuthority c) = true := fun c member =>
    of_isServerChar (p := fun c => (!endsAuthority c) = true) (by decide) rfl (plain c member)
  have authority : (server ++ ['/']).takeWhile (fun c => !endsAuthority c) = server := by
    rw [List.takeWhile_append_of_pos inside]
    exact List.append_nil _
  have rest : (server ++ ['/']).dropWhile (fun c => !endsAuthority c) = ['/'] :=
    List.dropWhile_append_of_pos inside
  have noUser : cutAfterLast (· = '@') server = ([], server) :=
    cutAfterLast_of_absent fun c member =>
      of_isServerChar (p := fun c => decide (c = '@') = false) (by decide) rfl (plain c member)
  have slash : (decide ('/' ≠ '?') && decide ('/' ≠ '#')) = true := by decide
  have root : path ['/'] = [[]] := by decide +kernel
  have nobody : userinfo [].dropLast = [] := rfl
  have bare : suffix [] = [] := rfl
  rw [Url.read, kept, first]
  simp only [authority, rest, noUser, List.isEmpty_nil, Bool.not_true, Bool.false_and,
    Bool.false_eq_true, ↓reduceIte, List.takeWhile_cons, List.takeWhile_nil, List.dropWhile_cons,
    List.dropWhile_nil, slash, root, nobody, bare, named, shown]
  rfl

/-- The host of an address is written in one form, and its port is left out if it is 80. -/
theorem read_address {n : Node} {name : List Char} (plain : PlainHost n.host.toList)
    (named : host n.host.toList = .ok name) (valid : n.port ≤ 65535) :
    read (n.address.toList ++ ['/']) =
      .ok { host := name, port := shownPort n.port, path := [[]] } := by
  have length : hostLength false n.address.toList = n.host.toList.length := by
    rw [toList_address, hostLength_append plain.chars]
  refine read_server ?_ ?_ ?_ ?_
  · simp [toList_address]
  · rw [toList_address]
    exact isServerChar_of_plain plain.chars fun _ => isHostChar_toDigits _
  · rw [length, toList_address, List.take_left]
    exact named
  · rw [length, toList_address, List.drop_left]
    exact port_toDigits valid

end BlockTier.Url
