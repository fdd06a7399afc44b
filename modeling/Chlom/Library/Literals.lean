import Mathlib.Data.List.Basic

/-!
# String literals

The characters of an ASCII text are its bytes.  Reading those instead of decoding the
text keeps evaluation in the length of the literal.
-/

namespace Literals

/-- The UTF-8 form of a text. -/
def bytes (text : String) : List UInt8 := text.toByteArray.data.toList

def isAscii : List UInt8 → Bool
  | [] => true
  | b :: rest => Nat.blt b.toNat 0x80 && isAscii rest

theorem isAscii_append {first second : List UInt8} :
    isAscii (first ++ second) = (isAscii first && isAscii second) := by
  induction first with
  | nil => rfl
  | cons b rest ih =>
      rw [List.cons_append, isAscii, isAscii, ih, Bool.and_assoc]

theorem bytes_ofList (chars : List Char) :
    bytes (String.ofList chars) = chars.flatMap String.utf8EncodeChar := by
  rw [bytes, String.toByteArray_ofList, List.utf8Encode, List.toList_data_toByteArray]

/-- A character whose bytes are ASCII is its only byte. -/
theorem utf8EncodeChar_of_isAscii {c : Char} (ascii : isAscii (String.utf8EncodeChar c) = true) :
    (String.utf8EncodeChar c).map UInt8.toNat = [c.toNat] := by
  unfold String.utf8EncodeChar at ascii ⊢
  have code : c.val.toNat = c.toNat := rfl
  simp only [code] at ascii ⊢
  split_ifs at ascii ⊢ with small
  · have byte : (UInt8.ofNat c.toNat).toNat = c.toNat := by
      rw [UInt8.toNat_ofNat']
      omega
    simp [byte]
  all_goals
    have least := (Bool.and_eq_true_iff.mp ascii).1
    rw [Nat.blt_eq, UInt8.toNat_ofNat'] at least
    omega

/-- The bytes of an ASCII text are its characters. -/
theorem toNat_bytes {text : String} (ascii : isAscii (bytes text) = true) :
    (bytes text).map UInt8.toNat = text.toList.map Char.toNat := by
  obtain ⟨chars, rfl⟩ : ∃ chars, text = String.ofList chars :=
    ⟨text.toList, String.ofList_toList.symm⟩
  rw [bytes_ofList] at ascii ⊢
  rw [String.toList_ofList]
  induction chars with
  | nil => rfl
  | cons c rest ih =>
      rw [List.flatMap_cons, isAscii_append, Bool.and_eq_true] at ascii
      rw [List.flatMap_cons, List.map_append, utf8EncodeChar_of_isAscii ascii.1, ih ascii.2]
      rfl

end Literals
