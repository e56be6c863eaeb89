import Mathlib.Data.List.Basic
import PinkyLex.Text.Bytes

namespace PinkyLex.Text

/-!
# Encoded text

The UTF-8 form of a text is put together from those of its characters, and
decoding goes back from it to the text and from nothing else.  A byte of the first
half of the range stands for the character with that code and is part of no other.
-/

private theorem toList_loop
    (bytes : ByteArray)
    (position : Nat)
    (found : List UInt8) :
    ByteArray.toList.loop bytes position found =
      found.reverse ++ bytes.data.toList.drop position := by
  fun_induction ByteArray.toList.loop bytes position found with
  | case1 position found inside inductionHypothesis =>
      have bound : position < bytes.data.toList.length := by
        simpa using inside
      have byte : bytes.get! position = bytes.data.toList[position] := by
        rw [Array.getElem_toList]
        exact getElem!_pos bytes.data position inside
      rw [inductionHypothesis, List.drop_eq_getElem_cons bound, byte, List.reverse_cons,
        List.append_assoc, List.singleton_append]
  | case2 position found outside =>
      have past : bytes.data.toList.length ≤ position := by
        simpa using outside
      rw [List.drop_eq_nil_of_le past, List.append_nil]

theorem toList_eq_data (bytes : ByteArray) :
    bytes.toList = bytes.data.toList := by
  rw [ByteArray.toList, toList_loop, List.reverse_nil, List.nil_append, List.drop_zero]

theorem toList_toByteArray (bytes : List UInt8) :
    bytes.toByteArray.toList = bytes := by
  rw [toList_eq_data, List.toList_data_toByteArray]

theorem toByteArray_toList (bytes : ByteArray) :
    bytes.toList.toByteArray = bytes := by
  apply ByteArray.ext
  rw [List.data_toByteArray, toList_eq_data]

/-- A text is encoded character by character. -/
theorem encode_ofList (characters : List Char) :
    encode (String.ofList characters) = characters.flatMap String.utf8EncodeChar := by
  rw [encode, String.toByteArray_ofList, List.utf8Encode, toList_toByteArray]

/-- Bytes are decoded to a text just where they are its encoded form. -/
theorem decode?_eq_some_iff
    {bytes : List UInt8}
    {text : String} :
    decode? bytes = some text ↔ encode text = bytes := by
  unfold decode? String.fromUTF8? encode
  constructor
  · intro decoded
    split at decoded
    case isTrue valid =>
      cases decoded
      exact toList_toByteArray bytes
    case isFalse =>
      cases decoded
  · rintro rfl
    rw [toByteArray_toList, dif_pos text.isValidUTF8]
    rfl

theorem decode?_encode (text : String) :
    decode? (encode text) = some text :=
  decode?_eq_some_iff.mpr rfl

theorem encode_injective :
    Function.Injective encode := by
  intro first second same
  have decoded := (decode?_encode first).symm.trans (same ▸ decode?_encode second)
  exact Option.some.inj decoded

theorem encode_nil :
    encode (String.ofList []) = [] :=
  encode_ofList []

/-- Bytes that are not decoded are the encoded form of no text. -/
theorem decode?_eq_none_iff
    {bytes : List UInt8} :
    decode? bytes = none ↔ ∀ text, encode text ≠ bytes := by
  rw [Option.eq_none_iff_forall_ne_some]
  exact forall_congr' fun text => not_congr decode?_eq_some_iff

/-- A byte of the first half of the range is in the form of the character with its code only. -/
theorem mem_utf8EncodeChar_iff
    {character : Char}
    {byte : UInt8}
    (small : byte.toNat < 128) :
    byte ∈ String.utf8EncodeChar character ↔ character.toNat = byte.toNat := by
  have notUpper {code : Nat} (high : 128 ≤ code) (fits : code < 256) : byte ≠ UInt8.ofNat code := by
    rintro rfl
    rw [UInt8.toNat_ofNat', Nat.mod_eq_of_lt fits] at small
    omega
  have code : character.val.toNat = character.toNat := rfl
  simp only [String.utf8EncodeChar, code]
  split
  case isTrue single =>
    rw [List.mem_singleton, ← UInt8.toNat_inj, UInt8.toNat_ofNat', Nat.mod_eq_of_lt (by omega)]
    exact eq_comm
  case isFalse notSingle =>
    have different : character.toNat ≠ byte.toNat := by
      omega
    -- All bytes of a longer form have the highest bit set.
    simp only [different, iff_false]
    split
    · simp only [List.mem_cons, List.not_mem_nil, or_false, not_or]
      exact ⟨notUpper (by omega) (by omega), notUpper (by omega) (by omega)⟩
    · split <;> simp only [List.mem_cons, List.not_mem_nil, or_false, not_or]
      · exact ⟨notUpper (by omega) (by omega), notUpper (by omega) (by omega),
          notUpper (by omega) (by omega)⟩
      · exact ⟨notUpper (by omega) (by omega), notUpper (by omega) (by omega),
          notUpper (by omega) (by omega), notUpper (by omega) (by omega)⟩

end PinkyLex.Text
