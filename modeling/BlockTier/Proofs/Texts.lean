import BlockTier.Bytes
/-!
The bytes of texts: what a text is written as is read back as the text.
-/
namespace BlockTier

theorem utf8EncodeChar_ofNat {n : Nat} (small : n < 0x80) :
    String.utf8EncodeChar (Char.ofNat n) = [UInt8.ofNat n] := by
  decide +revert

namespace Bytes

theorem ofString_ofList (cs : List Char) :
    ofString (String.ofList cs) = cs.flatMap String.utf8EncodeChar := by
  simp only [ofString, String.toUTF8, String.ofList, List.utf8Encode, List.data_toByteArray]

theorem toString?_ofString (s : String) : (ofString s).toString? = some s := by
  simp only [toString?, ofString, String.toUTF8, Array.toArray_toList]
  exact dif_pos s.isValidUTF8

end Bytes

end BlockTier
