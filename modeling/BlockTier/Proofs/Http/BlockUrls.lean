import BlockTier.Http.Client
import BlockTier.Proofs.Http.BlockSurface
import BlockTier.Proofs.Url.Addresses
/-!
What nodes read from the URLs of blocks. A key stands as one segment at the end of its URL's path
and is read back from there, unless it is one or two dots or has tabs or line ends in it.
-/
namespace BlockTier.Http.StorageApi

open Url

/-! ### The segments of a block's path -/

/-- The key without what counts as absent in a URL. -/
def kept (key : String) : String := String.ofList (key.toList.filter fun c => !isIgnored c)

/-- The texts that the segments of a block's path stand for. -/
def segments (key : String) : List String :=
  if key = "." ∨ key = ".." then ["v1", "blocks"]
  else if kept key = "." then ["v1", "blocks", ""]
  else if kept key = ".." then ["v1", ""]
  else ["v1", "blocks", kept key]

/-- The key that a block's path stands for. -/
def standsFor? (key : String) : Option String :=
  match segments key with
  | [_, _, segment] => if segment = "" then none else some segment
  | _ => none

/-- The key stands for itself in a path: it is no dots, and nothing in it counts as absent. -/
structure Survives (key : String) : Prop where
  noDot : key ≠ "."
  noDoubleDot : key ≠ ".."
  noneIgnored : ∀ c ∈ key.toList, isIgnored c = false

variable {key key' : String}

theorem kept_eq_self_iff : kept key = key ↔ ∀ c ∈ key.toList, isIgnored c = false := by
  rw [← String.toList_inj, kept, String.toList_ofList, List.filter_eq_self]
  simp only [Bool.not_eq_true']

theorem Survives.segments_eq (survives : Survives key) : segments key = ["v1", "blocks", key] := by
  have whole : kept key = key := kept_eq_self_iff.mpr survives.noneIgnored
  simp only [segments, whole, survives.noDot, survives.noDoubleDot, or_self, ↓reduceIte]

/-- A path stands for the key that it is made of just when the key survives. -/
theorem standsFor?_eq_self_iff (nonempty : key ≠ "") :
    standsFor? key = some key ↔ Survives key := by
  constructor
  · intro same
    unfold standsFor? segments at same
    split_ifs at same with dots dot doubleDot
    · simp at same
    · obtain ⟨noDot, noDoubleDot⟩ := not_or.mp dots
      dsimp only at same
      split_ifs at same
      exact ⟨noDot, noDoubleDot, kept_eq_self_iff.mp (Option.some.inj same)⟩
  · intro survives
    rw [standsFor?, survives.segments_eq]
    exact if_neg nonempty

/-- A segment as it is written. -/
def written (s : String) : List Char := encode inSegment s.toList

theorem path_segments (key : String) :
    ["v1", "blocks", key].foldl (fun p s => appendSegment p s.toList) (popIfEmpty [[]]) =
      (segments key).map written := by
  have fixed : ["v1", "blocks"].foldl (fun p s => appendSegment p s.toList) (popIfEmpty [[]]) =
      ["v1", "blocks"].map written := rfl
  have filtered : (kept key).toList = key.toList.filter fun c => !isIgnored c :=
    String.toList_ofList
  have dot {s : String} : s.toList = ['.'] ↔ s = "." := by rw [← String.toList_inj]; rfl
  have doubleDot {s : String} : s.toList = ['.', '.'] ↔ s = ".." := by
    rw [← String.toList_inj]; rfl
  have other : ["v1", "blocks"].map written ≠ [[]] := by simp
  have parts : ["v1", "blocks", key] = ["v1", "blocks"] ++ [key] := rfl
  rw [parts, List.foldl_append, fixed, List.foldl_cons, List.foldl_nil, appendSegment,
    ← filtered]
  simp only [Bool.or_eq_true, decide_eq_true_eq, dot, doubleDot, other, ↓reduceIte, segments]
  split_ifs <;> rfl

/-! ### The texts of URLs -/

/-- Everything in front of the path is fixed by the server. -/
theorem toList_text {name : List Char} (plain : ∀ c ∈ name, isHostChar c = true)
    (p : Option Nat) :
    ∃ server, (∀ c ∈ server, isServerChar c = true) ∧
      ∀ path, (Http.text { host := name, port := p, path }).toList =
        "http://".toList ++ (server ++ path.flatMap ('/' :: ·)) := by
  cases p with
  | none =>
    have parts (path : List (List Char)) :
        (Http.text { host := name, port := none, path }).toList =
          "http://".toList ++ [] ++ name ++ [] ++ path.flatMap ('/' :: ·) ++ [] :=
      String.toList_ofList
    refine ⟨name, fun c member => ?_, fun path => ?_⟩
    · exact Bool.or_eq_true_iff.mpr (Or.inl (plain c member))
    · rw [parts]
      generalize "http://".toList = scheme
      simp only [List.append_nil, List.append_assoc]
  | some p =>
    have parts (path : List (List Char)) :
        (Http.text { host := name, port := some p, path }).toList =
          "http://".toList ++ [] ++ name ++ s!":{p}".toList ++ path.flatMap ('/' :: ·) ++ [] :=
      String.toList_ofList
    have shown : s!":{p}".toList = ':' :: Nat.toDigits 10 p := by
      have colon : (toString ":").toList = [':'] := by decide
      rw [String.toList_append, colon, Nat.toString_eq_ofList_toDigits, String.toList_ofList]
      rfl
    refine ⟨name ++ ':' :: Nat.toDigits 10 p, ?_, fun path => ?_⟩
    · exact isServerChar_of_plain plain fun _ => isHostChar_toDigits _
    · rw [parts, shown]
      generalize "http://".toList = scheme
      simp only [List.append_nil, List.append_assoc, List.cons_append]

theorem notMem_path {c : Char} {path : List (List Char)} (other : c ≠ '/')
    (absent : ∀ segment ∈ path, c ∉ segment) : c ∉ path.flatMap ('/' :: ·) := by
  intro member
  obtain ⟨segment, here, inside⟩ := List.mem_flatMap.mp member
  rcases List.mem_cons.mp inside with same | inside
  · exact other same
  · exact absent segment here inside

/-- A request to a URL asks for the URL's path. -/
theorem path_of_target {name : List Char} (plain : ∀ c ∈ name, isHostChar c = true)
    {p : Option Nat} {path : List (List Char)} (nonempty : path ≠ [])
    (noQuery : ∀ segment ∈ path, '?' ∉ segment) (noFragment : ∀ segment ∈ path, '#' ∉ segment)
    {r : Request} (target : r.target = Http.text { host := name, port := p, path }) :
    r.path = path.flatMap ('/' :: ·) := by
  obtain ⟨server, chars, text⟩ := toList_text plain p
  obtain ⟨first, more, rfl⟩ := List.exists_cons_of_ne_nil nonempty
  have scheme (rest : List Char) : afterScheme? ("http://".toList ++ rest) = some rest := by
    have letters : "http://".toList = ['h', 't', 't', 'p', ':', '/', '/'] := by decide
    rw [letters]
    rfl
  have inside : ∀ c ∈ server, (c ≠ '/' && c ≠ '?' && c ≠ '#') = true := fun c member =>
    of_isServerChar (p := fun c => (c ≠ '/' && c ≠ '?' && c ≠ '#') = true) (by decide) rfl
      (chars c member)
  have skipped : (server ++ (first :: more).flatMap ('/' :: ·)).dropWhile
      (fun c => c ≠ '/' && c ≠ '?' && c ≠ '#') = (first :: more).flatMap ('/' :: ·) :=
    List.dropWhile_append_of_pos inside
  have whole := takeWhile_of_notMem (notMem_path (by decide) noQuery)
    (notMem_path (by decide) noFragment)
  rw [Request.path, target, text]
  simp only [scheme, skipped, whole]
  rfl

/-- The segments of a path without slashes in them can be told from it. -/
theorem splitAt_path {path : List (List Char)} (noSlash : ∀ segment ∈ path, '/' ∉ segment) :
    splitAt (· = '/') (path.flatMap ('/' :: ·)) = [] :: path := by
  have slash : decide ('/' = '/') = true := rfl
  induction path with
  | nil => rfl
  | cons first more ih =>
    have others : ∀ c ∈ first, decide (c = '/') = false := fun c member =>
      decide_eq_false fun same => noSlash first List.mem_cons_self (same ▸ member)
    have later := ih fun segment member => noSlash segment (List.mem_cons_of_mem _ member)
    rw [List.flatMap_cons, List.cons_append, splitAt_cons_of_separator slash]
    cases more with
    | nil => rw [List.flatMap_nil, List.append_nil, splitAt_of_others others]
    | cons second more =>
      -- the slash in front of the second segment ends the first one
      rw [List.flatMap_cons, List.cons_append] at later ⊢
      rw [splitAt_cons_of_separator slash] at later
      rw [splitAt_append others slash, (List.cons.inj later).2]

/-! ### Written segments -/

theorem key?_written (s : String) : key? (written s) = some s := by
  rw [key?, written, (spells_encode s.toList).decode, Bytes.toString?_ofString,
    String.ofList_toList]

theorem written_injective : Function.Injective written := fun s s' same =>
  Option.some.inj ((key?_written s).symm.trans (same ▸ key?_written s'))

theorem notMem_written {c : Char} (reserved : inSegment (UInt8.ofNat c.toNat) = true)
    (other : c ≠ '%') (texts : List String) : ∀ segment ∈ texts.map written, c ∉ segment := by
  intro segment member
  obtain ⟨s, _, rfl⟩ := List.mem_map.mp member
  exact notMem_encode reserved other _

theorem slash_notMem_written (texts : List String) :
    ∀ segment ∈ texts.map written, '/' ∉ segment :=
  notMem_written (by decide) (by decide) texts

/-- Texts are told apart by the path that they are written as. -/
theorem flatMap_written_inj {texts texts' : List String} :
    (texts.map written).flatMap ('/' :: ·) = (texts'.map written).flatMap ('/' :: ·) ↔
      texts = texts' := by
  constructor
  · intro same
    have pieces := congrArg (splitAt (· = '/')) same
    rw [splitAt_path (slash_notMem_written texts),
      splitAt_path (slash_notMem_written texts')] at pieces
    exact written_injective.list_map (List.cons.inj pieces).2
  · rintro rfl
    rfl

/-! ### What a node reads -/

/-- The path has exactly one segment behind the root of blocks, and a node reads it as the key. -/
def Carries (path : List Char) (key : String) : Prop :=
  ∃ segment, path = blockRoot ++ segment ∧ '/' ∉ segment ∧ key? segment = some key

/-- What a node does about the block with a key, if it is one. -/
def serve (s : L2.Store) (r : Request) : Option String → L2.Store × Response
  | none => (s, .notFound)
  | some key =>
    match r.method with
    | .put => put s key r.body
    | .get => (s, get s key)
    | .head => (s, head s key)
    | _ => (s, .methodNotAllowed)

theorem flatMap_block (segment : List Char) :
    [written "v1", written "blocks", segment].flatMap ('/' :: ·) = blockRoot ++ segment := by
  have root : [written "v1", written "blocks"].flatMap ('/' :: ·) ++ ['/'] = blockRoot := rfl
  rw [← root]
  simp

variable {r : Request}

theorem handle_of_notBlock (other : r.path ≠ "/health".toList) (noKey : encodedKey? r.path = none)
    (nodeId : String) (s : L2.Store) : handle nodeId s r = (s, .notFound) := by
  rw [handle, if_neg other, noKey]

/-- A node serves the key that the path stands for. -/
theorem handle_of_segments (path : r.path = ((segments key).map written).flatMap ('/' :: ·))
    (nodeId : String) (s : L2.Store) : handle nodeId s r = serve s r (standsFor? key) := by
  have bare {texts : List String} (path : r.path = (texts.map written).flatMap ('/' :: ·))
      (other : (texts.map written).flatMap ('/' :: ·) ≠ "/health".toList)
      (noKey : encodedKey? ((texts.map written).flatMap ('/' :: ·)) = none) :
      handle nodeId s r = (s, .notFound) :=
    handle_of_notBlock (path ▸ other) (path ▸ noKey) nodeId s
  unfold segments at path
  unfold standsFor? segments
  split_ifs at path ⊢ with dots dot doubleDot
  · exact bare path (by decide) (by decide)
  · exact bare path (by decide) (by decide)
  · exact bare path (by decide) (by decide)
  · dsimp only
    split_ifs with empty
    · rw [empty] at path
      exact bare path (by decide) (by decide)
    · have names : Names r (kept key) :=
        ⟨empty, written (kept key), path.trans (flatMap_block _),
          notMem_encode (by decide) (by decide) _, by
          have spells := spells_encode (kept key).toList
          rwa [String.ofList_toList] at spells⟩
      exact handle_of_names names nodeId s

theorem carries_iff (nonempty : key ≠ "")
    (path : r.path = ((segments key).map written).flatMap ('/' :: ·)) :
    Carries r.path key ↔ Survives key := by
  constructor
  · rintro ⟨segment, found, oneSegment, read⟩
    have noSlash : ∀ piece ∈ [written "v1", written "blocks", segment], '/' ∉ piece := by
      refine List.forall_mem_cons.mpr ⟨by decide, List.forall_mem_cons.mpr ⟨by decide, ?_⟩⟩
      exact List.forall_mem_cons.mpr ⟨oneSegment, fun _ absent => nomatch absent⟩
    have pieces : (segments key).map written = [written "v1", written "blocks", segment] := by
      have same := congrArg (splitAt (· = '/'))
        ((flatMap_block segment).trans (found.symm.trans path))
      rw [splitAt_path noSlash, splitAt_path (slash_notMem_written _)] at same
      exact (List.cons.inj same).2.symm
    have last : segment ∈ (segments key).map written := by simp [pieces]
    obtain ⟨text, _, rfl⟩ := List.mem_map.mp last
    obtain rfl : text = key := Option.some.inj ((key?_written text).symm.trans read)
    have listed : segments text = ["v1", "blocks", text] := written_injective.list_map pieces
    apply (standsFor?_eq_self_iff nonempty).mp
    rw [standsFor?, listed]
    exact if_neg nonempty
  · intro survives
    rw [survives.segments_eq] at path
    exact ⟨written key, path.trans (flatMap_block _), notMem_encode (by decide) (by decide) _,
      key?_written key⟩

/-! ### URLs of blocks -/

/-- The URL of a block on a server with a plain name. -/
def urlOn (name : List Char) (p : Nat) (key : String) : Http :=
  { host := name, port := shownPort p, path := (segments key).map written }

theorem blockUrl_eq_urlOn {n : Node} {name : List Char} (plain : PlainHost n.host.toList)
    (named : host n.host.toList = .ok name) (valid : n.port ≤ 65535) (key : String) :
    n.blockUrl key = .ok (urlOn name n.port key) := by
  rw [Node.blockUrl, read_address plain named valid, urlOn, ← path_segments key]
  rfl

theorem segments_ne_nil (key : String) : segments key ≠ [] := by
  unfold segments
  split_ifs <;> simp

section Server

variable {name : List Char} (chars : ∀ c ∈ name, isHostChar c = true) {p : Nat}

include chars

theorem path_of_urlOn (target : r.target = (urlOn name p key).text) :
    r.path = ((segments key).map written).flatMap ('/' :: ·) :=
  path_of_target chars (fun none => segments_ne_nil key (List.map_eq_nil_iff.mp none))
    (notMem_written (by decide) (by decide) _) (notMem_written (by decide) (by decide) _) target

theorem text_urlOn_inj : (urlOn name p key).text = (urlOn name p key').text ↔
    segments key = segments key' := by
  obtain ⟨server, _, text⟩ := toList_text chars (shownPort p)
  rw [← String.toList_inj, urlOn, urlOn, text, text, List.append_cancel_left_eq,
    List.append_cancel_left_eq]
  exact flatMap_written_inj

end Server

/-- What the URLs of blocks are and what a node makes of requests to them. -/
structure BlockUrls (n : Node) (url : String → Http) : Prop where
  found : ∀ key, n.blockUrl key = .ok (url key)
  carries : ∀ {key : String} {r : Request}, key ≠ "" → r.target = (url key).text →
    (Carries r.path key ↔ Survives key)
  distinct : ∀ {key key' : String}, Survives key → Survives key' →
    (url key).text = (url key').text → key = key'
  shared : ∀ key key', (url key).text = (url key').text ↔ segments key = segments key'
  served : ∀ {key : String} {r : Request} (nodeId : String) (s : L2.Store),
    r.target = (url key).text → handle nodeId s r = serve s r (standsFor? key)

/-- Every key has a URL. One that survives has its own and is read back from it; others share theirs
with what is left of them. -/
theorem blockUrls_of_plain {n : Node} (plain : PlainHost n.host.toList) (valid : n.port ≤ 65535) :
    ∃ url, BlockUrls n url := by
  obtain ⟨name, named, chars⟩ := plain.host_eq
  refine ⟨urlOn name n.port, {
    found := blockUrl_eq_urlOn plain named valid
    carries := fun nonempty target => carries_iff nonempty (path_of_urlOn chars target)
    distinct := fun survives survives' same => ?_
    shared := fun _ _ => text_urlOn_inj chars
    served := fun nodeId s target => handle_of_segments (path_of_urlOn chars target) nodeId s }⟩
  have listed := (text_urlOn_inj chars).mp same
  rw [survives.segments_eq, survives'.segments_eq] at listed
  simpa using listed

/-- A key with a slash and a space is read back. -/
theorem blockUrls_spaced : ∃ url, BlockUrls ⟨"redis-0", "10.1.1.10", 6379, .up⟩ url ∧
    (url "prefix/abc def").text = "http://10.1.1.10:6379/v1/blocks/prefix%2Fabc%20def" ∧
      Survives "prefix/abc def" := by
  have plain : PlainHost "10.1.1.10".toList :=
    .address (a := 10) (b := 1) (c := 1) (d := 10) (by decide) (by decide) (by decide) (by decide)
  have named : host "10.1.1.10".toList = .ok "10.1.1.10".toList :=
    host_dotted (a := 10) (b := 1) (c := 1) (d := 10) (by decide) (by decide) (by decide)
      (by decide)
  obtain ⟨url, urls⟩ := blockUrls_of_plain (n := ⟨"redis-0", "10.1.1.10", 6379, .up⟩) plain
    (by decide)
  have same : url "prefix/abc def" = urlOn "10.1.1.10".toList 6379 "prefix/abc def" := by
    have found := (urls.found "prefix/abc def").symm.trans
      (blockUrl_eq_urlOn plain named (by decide) _)
    exact Except.ok.inj found
  have text : (urlOn "10.1.1.10".toList 6379 "prefix/abc def").text =
      "http://10.1.1.10:6379/v1/blocks/prefix%2Fabc%20def" := by decide +kernel
  have survives : Survives "prefix/abc def" :=
    ⟨by decide, by decide, kept_eq_self_iff.mp (by decide +kernel)⟩
  exact ⟨url, urls, (congrArg Http.text same).trans text, survives⟩

/-- A key with a tab has the URL of the key without it and is not read back. -/
theorem blockUrl_loses_tab : ∃ u,
    Node.blockUrl ⟨"redis-0", "10.1.1.10", 6379, .up⟩ "a\tb" = .ok u ∧
      Node.blockUrl ⟨"redis-0", "10.1.1.10", 6379, .up⟩ "ab" = .ok u ∧
      ∀ r : Request, r.target = u.text → ¬ Carries r.path "a\tb" := by
  have plain : PlainHost "10.1.1.10".toList :=
    .address (a := 10) (b := 1) (c := 1) (d := 10) (by decide) (by decide) (by decide) (by decide)
  obtain ⟨name, named, chars⟩ := plain.host_eq
  have found (key : String) : Node.blockUrl ⟨"redis-0", "10.1.1.10", 6379, .up⟩ key =
      .ok (urlOn name 6379 key) := blockUrl_eq_urlOn plain named (by decide) key
  have same : segments "a\tb" = segments "ab" := by decide
  refine ⟨_, found "a\tb", ?_, fun r target carries => ?_⟩
  · rw [found "ab", urlOn, urlOn, same]
  · have survives := (carries_iff (by decide) (path_of_urlOn chars target)).mp carries
    exact absurd (survives.noneIgnored '\t' (by decide)) (by decide)

end BlockTier.Http.StorageApi
