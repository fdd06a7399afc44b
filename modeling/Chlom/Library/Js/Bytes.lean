import Chlom.Library.Js.Text
import Mathlib.Data.List.GetD
import Mathlib.Data.List.Nodup

/-!
# Bytes in JavaScript

The hexadecimal and the base64url texts of a buffer and the buffers read from them.
-/

namespace Js

/-! ## Hexadecimal -/

def hexDigit (d : Nat) : CodeUnit := unit (Nat.digitChar d)

/-- `buffer.toString('hex')`. -/
def hexText (bytes : List UInt8) : Str :=
  bytes.flatMap fun b => [hexDigit (b.toNat / 16), hexDigit (b.toNat % 16)]

def isLowerHex (c : CodeUnit) : Bool :=
  (0x30 ≤ c.val && c.val ≤ 0x39) || (0x61 ≤ c.val && c.val ≤ 0x66)

def hexValue (c : CodeUnit) : Option Nat :=
  if 0x30 ≤ c.val ∧ c.val ≤ 0x39 then some (c.val - 0x30)
  else if 0x61 ≤ c.val ∧ c.val ≤ 0x66 then some (c.val - 0x57)
  else if 0x41 ≤ c.val ∧ c.val ≤ 0x46 then some (c.val - 0x37)
  else none

/-- `Buffer.from(text, 'hex')`, which stops at the first pair that is no byte. -/
def hexBytes : Str → List UInt8
  | high :: low :: rest =>
      match hexValue high, hexValue low with
      | some h, some l => UInt8.ofNat (16 * h + l) :: hexBytes rest
      | _, _ => []
  | _ => []

theorem isLowerHex_hexDigit {d : Nat} (small : d < 16) : isLowerHex (hexDigit d) = true := by
  have all : ∀ d < 16, isLowerHex (hexDigit d) = true := by decide +kernel
  exact all d small

theorem hexValue_hexDigit {d : Nat} (small : d < 16) : hexValue (hexDigit d) = some d := by
  have all : ∀ d < 16, hexValue (hexDigit d) = some d := by decide +kernel
  exact all d small

theorem length_hexText (bytes : List UInt8) : (hexText bytes).length = 2 * bytes.length := by
  induction bytes with
  | nil => rfl
  | cons b rest ih =>
      rw [hexText, List.flatMap_cons, List.length_append, ← hexText, ih, List.length_cons]
      simp only [List.length_cons, List.length_nil]
      omega

theorem isLowerHex_of_mem_hexText {bytes : List UInt8} {c : CodeUnit} (member : c ∈ hexText bytes) :
    isLowerHex c = true := by
  obtain ⟨b, _, member⟩ := List.mem_flatMap.mp member
  have bound := b.toNat_lt
  rcases List.mem_cons.mp member with rfl | member
  · exact isLowerHex_hexDigit (by omega)
  · obtain rfl := List.mem_singleton.mp member
    exact isLowerHex_hexDigit (by omega)

@[simp]
theorem hexBytes_hexText (bytes : List UInt8) : hexBytes (hexText bytes) = bytes := by
  induction bytes with
  | nil => rfl
  | cons b rest ih =>
      have bound := b.toNat_lt
      have joined : 16 * (b.toNat / 16) + b.toNat % 16 = b.toNat := Nat.div_add_mod _ _
      rw [hexText, List.flatMap_cons, List.cons_append, List.cons_append, List.nil_append, ← hexText,
        hexBytes, hexValue_hexDigit (by omega), hexValue_hexDigit (by omega)]
      simp only [joined, ih, UInt8.ofNat_toNat]

/-- A lower-case digit is determined by its value. -/
theorem hexDigit_of_hexValue {c : CodeUnit} (lower : isLowerHex c = true) :
    ∃ d < 16, hexValue c = some d ∧ hexDigit d = c := by
  have decimal : ∀ d < 10, hexDigit d = Fin.ofNat 0x10000 (0x30 + d) := by decide +kernel
  have letter : ∀ d < 6, hexDigit (10 + d) = Fin.ofNat 0x10000 (0x61 + d) := by decide +kernel
  simp only [isLowerHex, Bool.or_eq_true, Bool.and_eq_true, decide_eq_true_eq] at lower
  rcases lower with ⟨low, high⟩ | ⟨low, high⟩
  · refine ⟨c.val - 0x30, by omega, if_pos ⟨low, high⟩, ?_⟩
    rw [decimal _ (by omega)]
    apply Fin.ext
    simp only [Fin.val_ofNat]
    omega
  · refine ⟨10 + (c.val - 0x61), by omega, ?_, ?_⟩
    · rw [hexValue, if_neg (by omega), if_pos ⟨low, high⟩]
      congr 1
      omega
    · rw [letter _ (by omega)]
      apply Fin.ext
      simp only [Fin.val_ofNat]
      omega

/-- A lower-case text of whole bytes is the text of the bytes read from it. -/
theorem hexText_hexBytes {s : Str} (lower : ∀ c ∈ s, isLowerHex c = true)
    (even : s.length % 2 = 0) : hexText (hexBytes s) = s := by
  fun_induction hexBytes s with
  | case1 high low rest h l lowValue highValue ih =>
      obtain ⟨d, dSmall, dValue, dDigit⟩ := hexDigit_of_hexValue (lower high (by simp))
      obtain ⟨e, eSmall, eValue, eDigit⟩ := hexDigit_of_hexValue (lower low (by simp))
      obtain rfl : h = d := Option.some.inj (highValue.symm.trans dValue)
      obtain rfl : l = e := Option.some.inj (lowValue.symm.trans eValue)
      have code : (UInt8.ofNat (16 * h + l)).toNat = 16 * h + l := by
        rw [UInt8.toNat_ofNat']
        omega
      have quotient : (16 * h + l) / 16 = h := by omega
      have remainder : (16 * h + l) % 16 = l := by omega
      have tail := ih (fun c member => lower c (by simp [member])) (by
        simp only [List.length_cons] at even
        omega)
      rw [hexText, List.flatMap_cons, ← hexText, tail, code, quotient, remainder, dDigit, eDigit]
      rfl
  | case2 high low rest failed =>
      obtain ⟨d, _, dValue, _⟩ := hexDigit_of_hexValue (lower high (by simp))
      obtain ⟨e, _, eValue, _⟩ := hexDigit_of_hexValue (lower low (by simp))
      exact absurd eValue (failed d e dValue)
  | case3 s notPair =>
      cases s with
      | nil => rfl
      | cons c rest =>
          cases rest with
          | nil => simp at even
          | cons d rest => exact absurd rfl (notPair c d rest)

/-! ## Base64url -/

def base64Alphabet : Str :=
  lit "ABCDEFGHIJKLMNOPQRSTUVWXYZabcdefghijklmnopqrstuvwxyz0123456789-_"

def base64Digit (d : Nat) : CodeUnit := base64Alphabet.getD d 0

def base64Value (c : CodeUnit) : Option Nat := base64Alphabet.idxOf? c

/-- `buffer.toString('base64url')`. -/
def base64url : List UInt8 → Str
  | a :: b :: c :: rest =>
      let n := a.toNat * 65536 + b.toNat * 256 + c.toNat
      base64Digit (n / 262144) :: base64Digit (n / 4096 % 64) :: base64Digit (n / 64 % 64) ::
        base64Digit (n % 64) :: base64url rest
  | [a, b] =>
      let n := a.toNat * 1024 + b.toNat * 4
      [base64Digit (n / 4096), base64Digit (n / 64 % 64), base64Digit (n % 64)]
  | [a] => [base64Digit (a.toNat / 4), base64Digit (a.toNat % 4 * 16)]
  | [] => []

def base64Bytes : List Nat → List UInt8
  | a :: b :: c :: d :: rest =>
      let n := a * 262144 + b * 4096 + c * 64 + d
      UInt8.ofNat (n / 65536) :: UInt8.ofNat (n / 256 % 256) :: UInt8.ofNat (n % 256) ::
        base64Bytes rest
  | [a, b, c] =>
      let n := (a * 4096 + b * 64 + c) / 4
      [UInt8.ofNat (n / 256), UInt8.ofNat (n % 256)]
  | [a, b] => [UInt8.ofNat ((a * 64 + b) / 16)]
  | _ => []

/-- `Buffer.from(text, 'base64url')` of a text in the alphabet. -/
def base64urlBytes (s : Str) : List UInt8 := base64Bytes (s.filterMap base64Value)

/-- The alphabet is made of three ranges of codes and two more. -/
theorem base64Alphabet_codes : base64Alphabet.map Fin.val =
    List.range' 65 26 ++ (List.range' 97 26 ++ (List.range' 48 10 ++ [45, 95])) := by
  decide +kernel

theorem length_base64Alphabet : base64Alphabet.length = 64 := by
  rw [← List.length_map (f := Fin.val), base64Alphabet_codes]
  rfl

theorem nodup_base64Alphabet : base64Alphabet.Nodup := by
  apply List.Nodup.of_map Fin.val
  rw [base64Alphabet_codes]
  decide

theorem base64Digit_eq {d : Nat} (small : d < base64Alphabet.length) :
    base64Digit d = base64Alphabet[d] :=
  List.getD_eq_getElem _ _ small

theorem base64Value_base64Digit {d : Nat} (small : d < 64) :
    base64Value (base64Digit d) = some d := by
  have inside : d < base64Alphabet.length := length_base64Alphabet ▸ small
  rw [base64Digit_eq inside, base64Value, List.idxOf?_eq_some_iff]
  refine ⟨inside, rfl, fun other before same => ?_⟩
  have equal := (List.Nodup.getElem_inj_iff nodup_base64Alphabet).mp same
  omega

theorem base64Digit_mem {d : Nat} (small : d < 64) : base64Digit d ∈ base64Alphabet := by
  have inside : d < base64Alphabet.length := length_base64Alphabet ▸ small
  rw [base64Digit_eq inside]
  exact List.getElem_mem inside

theorem length_base64url (bytes : List UInt8) :
    (base64url bytes).length = (4 * bytes.length + 2) / 3 := by
  fun_induction base64url bytes with
  | case1 a b c rest n ih =>
      simp only [List.length_cons, ih]
      omega
  | case2 | case3 | case4 => simp

theorem mem_base64url {bytes : List UInt8} {c : CodeUnit} (member : c ∈ base64url bytes) :
    c ∈ base64Alphabet := by
  fun_induction base64url bytes with
  | case1 x y z rest n ih =>
      have xBound := x.toNat_lt
      have yBound := y.toNat_lt
      have zBound := z.toNat_lt
      simp only [List.mem_cons] at member
      rcases member with rfl | rfl | rfl | rfl | member
      · exact base64Digit_mem (by omega)
      · exact base64Digit_mem (by omega)
      · exact base64Digit_mem (by omega)
      · exact base64Digit_mem (by omega)
      · exact ih member
  | case2 x y n =>
      have xBound := x.toNat_lt
      have yBound := y.toNat_lt
      simp only [List.mem_cons, List.not_mem_nil, or_false] at member
      rcases member with rfl | rfl | rfl
      · exact base64Digit_mem (by omega)
      · exact base64Digit_mem (by omega)
      · exact base64Digit_mem (by omega)
  | case3 x =>
      have xBound := x.toNat_lt
      simp only [List.mem_cons, List.not_mem_nil, or_false] at member
      rcases member with rfl | rfl
      · exact base64Digit_mem (by omega)
      · exact base64Digit_mem (by omega)
  | case4 => cases member

theorem ofNat_eq {n : Nat} {b : UInt8} (equal : n = b.toNat) : UInt8.ofNat n = b := by
  rw [equal, UInt8.ofNat_toNat]

/-- A buffer is read back from its base64url text. -/
theorem base64urlBytes_base64url (bytes : List UInt8) : base64urlBytes (base64url bytes) = bytes := by
  unfold base64urlBytes
  fun_induction base64url bytes with
  | case1 a b c rest n ih =>
      have aBound := a.toNat_lt
      have bBound := b.toNat_lt
      have cBound := c.toNat_lt
      have whole : n / 262144 * 262144 + n / 4096 % 64 * 4096 + n / 64 % 64 * 64 + n % 64 = n := by
        omega
      rw [List.filterMap_cons_some (base64Value_base64Digit (by omega)),
        List.filterMap_cons_some (base64Value_base64Digit (by omega)),
        List.filterMap_cons_some (base64Value_base64Digit (by omega)),
        List.filterMap_cons_some (base64Value_base64Digit (by omega)), base64Bytes, ih]
      simp only [whole]
      rw [ofNat_eq (b := a) (by omega), ofNat_eq (b := b) (by omega), ofNat_eq (b := c) (by omega)]
  | case2 a b n =>
      have aBound := a.toNat_lt
      have bBound := b.toNat_lt
      have whole : n / 4096 * 4096 + n / 64 % 64 * 64 + n % 64 = n := by omega
      rw [List.filterMap_cons_some (base64Value_base64Digit (by omega)),
        List.filterMap_cons_some (base64Value_base64Digit (by omega)),
        List.filterMap_cons_some (base64Value_base64Digit (by omega)), List.filterMap_nil,
        base64Bytes]
      simp only [whole]
      rw [ofNat_eq (b := a) (by omega), ofNat_eq (b := b) (by omega)]
  | case3 a =>
      have aBound := a.toNat_lt
      rw [List.filterMap_cons_some (base64Value_base64Digit (by omega)),
        List.filterMap_cons_some (base64Value_base64Digit (by omega)), List.filterMap_nil,
        base64Bytes, ofNat_eq (b := a) (by omega)]
  | case4 => rfl

end Js
