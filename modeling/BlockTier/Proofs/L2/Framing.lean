import BlockTier.Proofs.L2.Storage
/-!
Frames across settings. Whoever wrote a frame and whoever reads it, the tag alone decides how it is
read, and the tag costs one byte unless compression has saved it.
-/
namespace BlockTier.L2

namespace Codec

variable (c : Codec) {data frame : Bytes} {tag : UInt8}

theorem encode_cases (data : Bytes) :
    c.encode data = rawTag :: data ∨
      (c.scheme.compress c.level data).length < data.length ∧
        c.encode data = compressedTag :: c.scheme.compress c.level data := by
  unfold encode
  dsimp only
  split
  · rename_i kept
    simp only [Bool.and_eq_true, decide_eq_true_eq] at kept
    exact Or.inr ⟨kept.2, rfl⟩
  · exact Or.inl rfl

theorem length_encode_le (data : Bytes) : (c.encode data).length ≤ data.length + 1 := by
  rcases c.encode_cases data with raw | ⟨shorter, packed⟩
  · rw [raw]
    exact Nat.le_refl _
  · rw [packed, List.length_cons]
    omega

theorem length_encode_le_of_compressed (tagged : (c.encode data).head? = some compressedTag) :
    (c.encode data).length ≤ data.length := by
  rcases c.encode_cases data with raw | ⟨shorter, packed⟩
  · rw [raw] at tagged
    cases tagged
  · rw [packed, List.length_cons]
    exact shorter

/-- What a frame is read as, by its tag. -/
inductive Decodes : Bytes → Except CodecError Bytes → Prop
  | empty : Decodes [] (.error .emptyFrame)
  | raw (body : Bytes) : Decodes (rawTag :: body) (.ok body)
  | unpacked (body data : Bytes) (undone : c.scheme.decompress body = .ok data) :
    Decodes (compressedTag :: body) (.ok data)
  | corrupt (body : Bytes) (reason : String) (failed : c.scheme.decompress body = .error reason) :
    Decodes (compressedTag :: body) (.error (.compression reason))
  | unknown (tag : UInt8) (body : Bytes) (notRaw : tag ≠ rawTag)
    (notCompressed : tag ≠ compressedTag) : Decodes (tag :: body) (.error (.unknownTag tag))

theorem decodes (frame : Bytes) : c.Decodes frame (c.decode frame) := by
  cases frame with
  | nil => exact .empty
  | cons tag body =>
    rw [decode]
    split
    · rename_i raw
      exact raw ▸ .raw body
    · rename_i notRaw
      split
      · rename_i compressed
        subst compressed
        cases read : c.scheme.decompress body with
        | ok data => exact .unpacked body data read
        | error reason => exact .corrupt body reason read
      · rename_i notCompressed
        exact .unknown tag body notRaw notCompressed

theorem decode_eq_emptyFrame_iff : c.decode frame = .error .emptyFrame ↔ frame = [] := by
  constructor
  · intro reported
    have decodes := c.decodes frame
    rw [reported] at decodes
    cases decodes with
    | empty => rfl
  · rintro rfl
    rfl

theorem decode_eq_unknownTag_iff :
    c.decode frame = .error (.unknownTag tag) ↔
      frame.head? = some tag ∧ tag ≠ rawTag ∧ tag ≠ compressedTag := by
  constructor
  · intro reported
    have decodes := c.decodes frame
    rw [reported] at decodes
    cases decodes with
    | unknown tag body notRaw notCompressed => exact ⟨rfl, notRaw, notCompressed⟩
  · rintro ⟨first, notRaw, notCompressed⟩
    obtain ⟨body, rfl⟩ := List.head?_eq_some_iff.mp first
    rw [decode, if_neg notRaw, if_neg notCompressed]

end Codec

/-- Writers and readers with settings of their own understand each other. -/
structure Scheme.Interoperates (scheme : Scheme) : Prop where
  roundTrip : ∀ (compress compress' : Bool) (level level' : Int) (data : Bytes),
    Codec.decode ⟨scheme, compress', level'⟩ (Codec.encode ⟨scheme, compress, level⟩ data) =
      .ok data
  length : ∀ (compress : Bool) (level : Int) (data : Bytes),
    (Codec.encode ⟨scheme, compress, level⟩ data).length ≤ data.length + 1
  saves : ∀ (compress : Bool) (level : Int) (data : Bytes),
    (Codec.encode ⟨scheme, compress, level⟩ data).head? = some compressedTag →
      (Codec.encode ⟨scheme, compress, level⟩ data).length ≤ data.length
  settings : ∀ (compress compress' : Bool) (level level' : Int) (frame : Bytes),
    Codec.decode ⟨scheme, compress, level⟩ frame = Codec.decode ⟨scheme, compress', level'⟩ frame
  empty : ∀ (compress : Bool) (level : Int) (frame : Bytes),
    Codec.decode ⟨scheme, compress, level⟩ frame = .error .emptyFrame ↔ frame = []
  unknown : ∀ (compress : Bool) (level : Int) (frame : Bytes) (tag : UInt8),
    Codec.decode ⟨scheme, compress, level⟩ frame = .error (.unknownTag tag) ↔
      frame.head? = some tag ∧ tag ≠ rawTag ∧ tag ≠ compressedTag

/-- If decompressing undoes compressing, all codecs of the scheme share their frames. -/
theorem interoperates_of_lawful {scheme : Scheme} (lawful : scheme.Lawful) :
    scheme.Interoperates where
  roundTrip compress compress' level level' data := by
    have same : Codec.decode ⟨scheme, compress', level'⟩ = Codec.decode ⟨scheme, compress, level⟩ :=
      Codec.decode_congr rfl
    rw [same]
    exact Codec.decode_encode _ lawful data
  length compress level := Codec.length_encode_le ⟨scheme, compress, level⟩
  saves compress level _ := Codec.length_encode_le_of_compressed ⟨scheme, compress, level⟩
  settings _ _ _ _ frame := congrFun (Codec.decode_congr rfl) frame
  empty compress level _ := Codec.decode_eq_emptyFrame_iff ⟨scheme, compress, level⟩
  unknown compress level _ _ := Codec.decode_eq_unknownTag_iff ⟨scheme, compress, level⟩

/-- A run of twenty bytes is packed into seventeen and read by one who does not compress; two bytes
are left as they are by one who does. -/
theorem interoperates_with_packed_run : ∃ scheme : Scheme, scheme.Lawful ∧
    (Codec.encode ⟨scheme, true, 3⟩ (List.replicate 20 0x2a)).head? = some compressedTag ∧
      (Codec.encode ⟨scheme, true, 3⟩ (List.replicate 20 0x2a)).length = 18 ∧
      Codec.encode ⟨scheme, true, 3⟩ [1, 2] = [rawTag, 1, 2] ∧
      Codec.decode ⟨scheme, false, 0⟩ (Codec.encode ⟨scheme, true, 3⟩ (List.replicate 20 0x2a)) =
        .ok (List.replicate 20 0x2a) ∧ scheme.Interoperates := by
  let packed : Bytes :=
    [0x28, 0xb5, 0x2f, 0xfd, 0, 0x58, 0x45, 0, 0, 0x10, 0x2a, 0x2a, 1, 0, 0x1e, 0xc0, 2]
  -- other short data is one block as it is, behind nine bytes of headers
  let plain (data : Bytes) : Bytes :=
    [0x28, 0xb5, 0x2f, 0xfd, 0, 0x58, .ofNat (8 * data.length + 1), 0, 0] ++ data
  let scheme : Scheme :=
    ⟨fun _ data => if data = List.replicate 20 0x2a then packed else plain data,
      fun frame => .ok (if frame = packed then List.replicate 20 0x2a else frame.drop 9)⟩
  have other (data : Bytes) : plain data ≠ packed := by
    intro same
    have kind : some (UInt8.ofNat (8 * data.length + 1)) = some 0x45 :=
      congrArg (fun b : Bytes => b[6]?) same
    have number := congrArg UInt8.toNat (Option.some.inj kind)
    rw [UInt8.toNat_ofNat'] at number
    change (8 * data.length + 1) % 256 = 69 at number
    omega
  have lawful : scheme.Lawful := by
    intro level data
    dsimp only [scheme]
    by_cases run : data = List.replicate 20 0x2a
    · rw [if_pos run, if_pos rfl, run]
    · rw [if_neg run, if_neg (other data)]
      rfl
  have shared := interoperates_of_lawful lawful
  exact ⟨scheme, lawful, rfl, rfl, rfl, shared.roundTrip .., shared⟩

end BlockTier.L2
