import Chlom.Library.Python.Text
import Mathlib.Tactic.IntervalCases

/-!
# Numerals and digests as text

Decimal numerals, zero-padded fields and lowercase hexadecimal bytes, with the
characters they are made of and the facts that they can be read back.
-/

namespace Python

/-! ## Decimal digits -/

def isDigit (c : CodePoint) : Bool :=
  48 ≤ c.val && c.val ≤ 57

/-- The number that decimal digits spell, read from the left. -/
def digitsValue (digits : Str) : Nat :=
  digits.foldl (fun value c => 10 * value + (c.val - 48)) 0

/-- `str` of a natural number. -/
def natText (n : Nat) : Str := (Nat.toDigits 10 n).map point

/-- `str` of an integer. -/
def intText (i : Int) : Str :=
  if i < 0 then point '-' :: natText i.natAbs else natText i.natAbs

@[simp]
theorem point_val (c : Char) : (point c).val = c.toNat :=
  rfl

theorem isDigit_of_mem_natText {n : Nat} {c : CodePoint} (member : c ∈ natText n) :
    isDigit c = true := by
  obtain ⟨char, charMember, rfl⟩ := List.mem_map.mp member
  have digit := Nat.isDigit_of_mem_toDigits (b := 10) (by decide) (by decide) charMember
  simp only [Char.isDigit, Bool.and_eq_true, decide_eq_true_eq, UInt32.le_iff_toNat_le] at digit
  simp only [isDigit, Bool.and_eq_true, decide_eq_true_eq]
  exact digit

theorem natText_ne_nil (n : Nat) : natText n ≠ [] := by
  simp [natText]

@[simp]
theorem digitsValue_natText (n : Nat) : digitsValue (natText n) = n := by
  have readBack : Nat.ofDigitChars 10 (Nat.toDigits 10 n) 0 = n := Nat.ofDigitChars_ten_toDigits
  rw [digitsValue, natText, List.foldl_map]
  exact readBack

theorem length_natText_le_iff {n width : Nat} (positive : 0 < width) :
    (natText n).length ≤ width ↔ n < 10 ^ width := by
  rw [natText, List.length_map, Nat.length_toDigits_le_iff (by decide) positive]

/-- A numeral starts with a zero only if it is the zero. -/
theorem natText_head_ne_zero {n : Nat} (positive : 0 < n) {c : CodePoint} {rest : Str}
    (spelled : natText n = c :: rest) : c ≠ point '0' := by
  induction n using Nat.base_induction 10 (by decide) generalizing c rest with
  | single n small =>
      rw [natText, Nat.toDigits_of_lt_base small] at spelled
      obtain ⟨rfl, _⟩ := List.cons.inj spelled
      interval_cases n <;> decide
  | digit n d dSmall nPositive ih =>
      rw [natText, ← Nat.toDigits_append_toDigits (by decide) nPositive dSmall,
        List.map_append] at spelled
      cases front : natText n with
      | nil => exact absurd front (natText_ne_nil n)
      | cons first others =>
          rw [natText] at front
          rw [front] at spelled
          obtain ⟨rfl, _⟩ := List.cons.inj spelled
          exact ih nPositive front

/-! ## Zero-padded fields -/

/-- The last `width` decimal digits of a number, as `%0{width}d` writes a number
that fits. -/
def padded : Nat → Nat → Str
  | 0, _ => []
  | width + 1, n => padded width (n / 10) ++ [point (Nat.digitChar (n % 10))]

@[simp]
theorem length_padded (width n : Nat) : (padded width n).length = width := by
  induction width generalizing n with
  | zero => rfl
  | succ width ih => simp [padded, ih]

@[simp]
theorem drop_padded {width n past : Nat} (beyond : width ≤ past) :
    (padded width n).drop past = [] :=
  List.drop_eq_nil_of_le (by rwa [length_padded])

theorem isDigit_digitChar {d : Nat} (small : d < 10) :
    isDigit (point (Nat.digitChar d)) = true := by
  interval_cases d <;> rfl

theorem isDigit_of_mem_padded {width n : Nat} {c : CodePoint} (member : c ∈ padded width n) :
    isDigit c = true := by
  induction width generalizing n with
  | zero => cases member
  | succ width ih =>
      rcases List.mem_append.mp member with front | last
      · exact ih front
      · obtain rfl := List.mem_singleton.mp last
        exact isDigit_digitChar (Nat.mod_lt _ (by decide))

theorem digitsValue_append_digit (digits : Str) {d : Nat} (small : d < 10) :
    digitsValue (digits ++ [point (Nat.digitChar d)]) = 10 * digitsValue digits + d := by
  have last : (Nat.digitChar d).toNat - 48 = d := Nat.toNat_digitChar_sub_48_of_lt_ten small
  simp [digitsValue, List.foldl_append, last]

/-- A padded field spells its number if the number fits. -/
theorem digitsValue_padded {width n : Nat} (fits : n < 10 ^ width) :
    digitsValue (padded width n) = n := by
  induction width generalizing n with
  | zero =>
      obtain rfl : n = 0 := by omega
      rfl
  | succ width ih =>
      have front : n / 10 < 10 ^ width := by
        rw [pow_succ] at fits
        omega
      rw [padded, digitsValue_append_digit _ (Nat.mod_lt _ (by decide)), ih front]
      omega

/-! ## Hexadecimal -/

/-- A digit as `hexdigest` writes it. -/
def isLowerHex (c : CodePoint) : Bool :=
  isDigit c || (97 ≤ c.val && c.val ≤ 102)

def hexDigit (d : Nat) : CodePoint := point (Nat.digitChar d)

/-- `bytes.hex()`. -/
def hexText (bytes : List UInt8) : Str :=
  bytes.flatMap fun byte => [hexDigit (byte.toNat / 16), hexDigit (byte.toNat % 16)]

theorem isLowerHex_hexDigit {d : Nat} (small : d < 16) : isLowerHex (hexDigit d) = true := by
  interval_cases d <;> rfl

theorem hexDigit_inj {d e : Nat} (dSmall : d < 16) (eSmall : e < 16)
    (equal : hexDigit d = hexDigit e) : d = e := by
  have chars : Nat.digitChar d = Nat.digitChar e := point_inj.mp equal
  have table : ∀ d < 16, ∀ e < 16, Nat.digitChar d = Nat.digitChar e → d = e := by decide
  exact table d dSmall e eSmall chars

@[simp]
theorem length_hexText (bytes : List UInt8) : (hexText bytes).length = 2 * bytes.length := by
  induction bytes with
  | nil => rfl
  | cons byte rest ih =>
      simp only [hexText, List.flatMap_cons, List.length_append, List.length_cons] at ih ⊢
      simp only [List.length_nil]
      omega

theorem isLowerHex_of_mem_hexText {bytes : List UInt8} {c : CodePoint}
    (member : c ∈ hexText bytes) : isLowerHex c = true := by
  obtain ⟨byte, _, digit⟩ := List.mem_flatMap.mp member
  have bound := byte.toNat_lt
  rcases List.mem_pair.mp digit with rfl | rfl
  · exact isLowerHex_hexDigit (by omega)
  · exact isLowerHex_hexDigit (by omega)

theorem hexText_injective : Function.Injective hexText := by
  intro first second equal
  induction first generalizing second with
  | nil =>
      have lengths := congrArg List.length equal
      rw [length_hexText, length_hexText] at lengths
      exact (List.eq_nil_of_length_eq_zero (by simp at lengths; simp [lengths])).symm
  | cons byte rest ih =>
      cases second with
      | nil => simp [hexText] at equal
      | cons other others =>
          simp only [hexText, List.flatMap_cons, List.cons_append, List.nil_append,
            List.cons.injEq] at equal
          obtain ⟨high, low, tails⟩ := equal
          have byteBound := byte.toNat_lt
          have otherBound := other.toNat_lt
          have highEq := hexDigit_inj (by omega) (by omega) high
          have lowEq := hexDigit_inj (by omega) (by omega) low
          have bytes : byte = other := UInt8.toNat_inj.mp (by omega)
          rw [bytes, ih tails]

end Python
