import Mathlib.Data.List.Basic
import Mathlib.Data.Vector.Basic

/-!
# Self-delimiting SCALE encodings

An encoding whose images can be followed by arbitrary bytes and still be read
back in only one way.  The law is a field of the class, so every encodable type
carries it, and pairs, options, fixed arrays and little-endian words inherit it
from their parts.  Injectivity of a concatenated tuple is then one projection.
-/

/-- A byte encoding that determines the value and the bytes that follow it. -/
class Encode (α : Type) where
  encode : α → List UInt8
  split : ∀ {first second : α} {firstRest secondRest : List UInt8},
    encode first ++ firstRest = encode second ++ secondRest →
      first = second ∧ firstRest = secondRest

namespace Encode

variable {α β : Type}

theorem encode_injective [Encode α] : Function.Injective (encode : α → List UInt8) := by
  intro first second equal
  have appended : encode first ++ [] = encode second ++ [] := by rw [equal]
  exact (split appended).1

/-- Encode through an injective view, such as the tuple of a record's fields. -/
@[reducible]
def ofInjective [Encode β] (view : α → β) (injective : Function.Injective view) :
    Encode α where
  encode value := encode (view value)
  split equal := by
    obtain ⟨viewEq, restEq⟩ := split equal
    exact ⟨injective viewEq, restEq⟩

instance byte : Encode UInt8 where
  encode value := [value]
  split equal := by simpa using equal

/-- A fixed array is its elements without a length. -/
instance array {n : Nat} : Encode (Vector UInt8 n) where
  encode value := value.toList
  split equal := by
    obtain ⟨valueEq, restEq⟩ := List.append_inj equal (by simp)
    exact ⟨Vector.toList_inj.mp valueEq, restEq⟩

instance pair [Encode α] [Encode β] : Encode (α × β) where
  encode value := encode value.1 ++ encode value.2
  split equal := by
    simp only [List.append_assoc] at equal
    obtain ⟨firstEq, tailEq⟩ := split equal
    obtain ⟨secondEq, restEq⟩ := split tailEq
    exact ⟨Prod.ext firstEq secondEq, restEq⟩

/-- A leading byte tells an absent value from a present one. -/
instance option [Encode α] : Encode (Option α) where
  encode
    | none => [0]
    | some value => 1 :: encode value
  split {first second} _ _ equal := by
    cases first <;> cases second <;> simp at equal
    · exact ⟨rfl, equal⟩
    · obtain ⟨valueEq, restEq⟩ := split equal
      exact ⟨congrArg some valueEq, restEq⟩

/-! ## Little-endian words -/

/-- The low `count` bytes of a number, least significant first. -/
def littleEndian : Nat → Nat → List UInt8
  | 0, _ => []
  | count + 1, number => UInt8.ofNat number :: littleEndian count (number / 256)

theorem littleEndian_split {count first second : Nat} {firstRest secondRest : List UInt8}
    (firstFits : first < 256 ^ count) (secondFits : second < 256 ^ count)
    (equal : littleEndian count first ++ firstRest = littleEndian count second ++ secondRest) :
    first = second ∧ firstRest = secondRest := by
  induction count generalizing first second with
  | zero =>
      simp only [Nat.pow_zero, Nat.lt_one_iff] at firstFits secondFits
      exact ⟨firstFits.trans secondFits.symm, by simpa [littleEndian] using equal⟩
  | succ count ih =>
      simp only [littleEndian, List.cons_append, List.cons.injEq] at equal
      obtain ⟨lowEq, highEq⟩ := equal
      have lowNat : first % 256 = second % 256 := by
        simpa using congrArg UInt8.toNat lowEq
      rw [Nat.pow_succ] at firstFits secondFits
      obtain ⟨quotientEq, restEq⟩ := ih (by omega) (by omega) highEq
      exact ⟨by omega, restEq⟩

/-- A word of `count` bytes in little-endian order. -/
@[reducible]
def word (count : Nat) {w : Nat} (width : 2 ^ w = 256 ^ count) : Encode (BitVec w) where
  encode value := littleEndian count value.toNat
  split {first second} _ _ equal := by
    have firstFits := first.isLt
    have secondFits := second.isLt
    rw [width] at firstFits secondFits
    obtain ⟨valueEq, restEq⟩ := littleEndian_split firstFits secondFits equal
    exact ⟨BitVec.eq_of_toNat_eq valueEq, restEq⟩

instance u32 : Encode (BitVec 32) := word 4 (by decide)
instance u64 : Encode (BitVec 64) := word 8 (by decide)
instance u128 : Encode (BitVec 128) := word 16 (by decide)

/-! ## Vectors -/

/-- A length below two to the power of 32 in the compact form, whose two lowest
bits tell how many bytes follow. -/
def compactLength (length : Nat) : List UInt8 :=
  if length < 2 ^ 6 then littleEndian 1 (4 * length)
  else if length < 2 ^ 14 then littleEndian 2 (4 * length + 1)
  else if length < 2 ^ 30 then littleEndian 4 (4 * length + 2)
  else 3 :: littleEndian 4 length

/-- A vector is its length followed by its elements. -/
def vector [Encode α] (values : List α) : List UInt8 :=
  compactLength values.length ++ values.flatMap encode

/-- The mode of the compact form, which the two lowest bits of its first byte tell. -/
def compactMode (length : Nat) : Nat :=
  if length < 2 ^ 6 then 0 else if length < 2 ^ 14 then 1 else if length < 2 ^ 30 then 2 else 3

theorem compactLength_head (length : Nat) :
    ∃ byte more, compactLength length = byte :: more ∧ byte.toNat % 4 = compactMode length := by
  have low (number : Nat) : (UInt8.ofNat number).toNat % 4 = number % 4 := by
    rw [UInt8.toNat_ofNat']
    omega
  unfold compactLength compactMode
  split_ifs
  · exact ⟨_, _, rfl, by rw [low]; omega⟩
  · exact ⟨_, _, rfl, by rw [low]; omega⟩
  · exact ⟨_, _, rfl, by rw [low]; omega⟩
  · exact ⟨_, _, rfl, rfl⟩

theorem compactLength_split {first second : Nat} {firstRest secondRest : List UInt8}
    (firstFits : first < 2 ^ 32) (secondFits : second < 2 ^ 32)
    (equal : compactLength first ++ firstRest = compactLength second ++ secondRest) :
    first = second ∧ firstRest = secondRest := by
  have sameMode : compactMode first = compactMode second := by
    obtain ⟨firstByte, firstMore, firstEq, firstMode⟩ := compactLength_head first
    obtain ⟨secondByte, secondMore, secondEq, secondMode⟩ := compactLength_head second
    rw [firstEq, secondEq, List.cons_append, List.cons_append] at equal
    rw [← firstMode, ← secondMode, (List.cons.inj equal).1]
  unfold compactMode at sameMode
  unfold compactLength at equal
  split_ifs at sameMode equal with small same medium same' large same''
  any_goals omega
  · obtain ⟨lengthEq, restEq⟩ := littleEndian_split (by omega) (by omega) equal
    exact ⟨by omega, restEq⟩
  · obtain ⟨lengthEq, restEq⟩ := littleEndian_split (by omega) (by omega) equal
    exact ⟨by omega, restEq⟩
  · obtain ⟨lengthEq, restEq⟩ := littleEndian_split (by omega) (by omega) equal
    exact ⟨by omega, restEq⟩
  · exact littleEndian_split firstFits secondFits (List.cons.inj equal).2

/-- Equally many elements are read back in only one way. -/
theorem flatMap_split [Encode α] {first second : List α} {firstRest secondRest : List UInt8}
    (length : first.length = second.length)
    (equal : first.flatMap encode ++ firstRest = second.flatMap encode ++ secondRest) :
    first = second ∧ firstRest = secondRest := by
  induction first generalizing second with
  | nil =>
      obtain rfl := List.length_eq_zero_iff.mp length.symm
      exact ⟨rfl, equal⟩
  | cons value values ih =>
      cases second with
      | nil => cases length
      | cons other others =>
          simp only [List.flatMap_cons, List.append_assoc] at equal
          obtain ⟨valueEq, tailEq⟩ := split equal
          obtain ⟨valuesEq, restEq⟩ := ih (Nat.succ.inj length) tailEq
          exact ⟨by rw [valueEq, valuesEq], restEq⟩

theorem vector_split [Encode α] {first second : List α} {firstRest secondRest : List UInt8}
    (firstFits : first.length < 2 ^ 32) (secondFits : second.length < 2 ^ 32)
    (equal : vector first ++ firstRest = vector second ++ secondRest) :
    first = second ∧ firstRest = secondRest := by
  simp only [vector, List.append_assoc] at equal
  obtain ⟨lengthEq, tailEq⟩ := compactLength_split firstFits secondFits equal
  exact flatMap_split lengthEq tailEq

end Encode

/-- The bytes of an ASCII literal. -/
def asciiBytes (text : String) : List UInt8 :=
  text.toList.map fun letter => UInt8.ofNat letter.toNat
