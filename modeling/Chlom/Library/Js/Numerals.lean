import Chlom.Library.Js.Value
import Mathlib.Data.Nat.Digits.Lemmas

/-!
# Decimal texts in JavaScript

Integers are written in decimal.  The safe integers are one choice of numbers: those
that a 64-bit float keeps exactly and without a neighbour.
-/

namespace Js

/-- `toString()` of a natural number. -/
def natText (n : Nat) : Str := (Nat.toDigits 10 n).map unit

/-- `toString()` of an integer. -/
def intText (i : Int) : Str :=
  if i < 0 then unit '-' :: natText i.natAbs else natText i.natAbs

theorem unit_val {c : Char} (small : c.toNat < 0x10000) : (unit c).val = c.toNat :=
  Nat.mod_eq_of_lt small

theorem isDigit_of_mem_natText {n : Nat} {c : CodeUnit} (member : c ∈ natText n) :
    isDigit c = true := by
  obtain ⟨char, charMember, rfl⟩ := List.mem_map.mp member
  have digit := Nat.isDigit_of_mem_toDigits (b := 10) (by decide) (by decide) charMember
  simp only [Char.isDigit, Bool.and_eq_true, decide_eq_true_eq, UInt32.le_iff_toNat_le] at digit
  have code : (unit char).val = char.toNat := unit_val (lt_of_le_of_lt digit.2 (by decide))
  rw [isDigit, code, Bool.and_eq_true, decide_eq_true_eq, decide_eq_true_eq]
  exact digit

theorem natText_ne_nil (n : Nat) : natText n ≠ [] := by
  simp [natText]

/-- The digits are among the code units of numbers. -/
theorem mem_of_isDigit {c : CodeUnit} (digit : isDigit c = true) : c ∈ lit "0123456789+-.e" := by
  simp only [isDigit, Bool.and_eq_true, decide_eq_true_eq] at digit
  have all : ∀ d < 10, Fin.ofNat 0x10000 (0x30 + d) ∈ lit "0123456789+-.e" := by decide
  have equal : Fin.ofNat 0x10000 (0x30 + (c.val - 0x30)) = c := by
    apply Fin.ext
    simp only [Fin.val_ofNat]
    omega
  exact equal ▸ all (c.val - 0x30) (by omega)

theorem intText_ne_nil (i : Int) : intText i ≠ [] := by
  unfold intText
  split_ifs
  · exact List.cons_ne_nil _ _
  · exact natText_ne_nil _

theorem intText_units {i : Int} {c : CodeUnit} (member : c ∈ intText i) :
    c ∈ lit "0123456789+-.e" := by
  unfold intText at member
  split_ifs at member
  · rcases List.mem_cons.mp member with rfl | member
    · decide
    · exact mem_of_isDigit (isDigit_of_mem_natText member)
  · exact mem_of_isDigit (isDigit_of_mem_natText member)

theorem digitsValue_natText (n : Nat) : digitsValue (natText n) = n := by
  have units : ∀ (chars : List Char) (start : Nat), (∀ c ∈ chars, c.toNat < 0x10000) →
      (chars.map unit).foldl (fun n c => 10 * n + (c.val - 0x30)) start =
        Nat.ofDigitChars 10 chars start := by
    intro chars
    induction chars with
    | nil => exact fun _ _ => rfl
    | cons c rest ih =>
        intro start small
        rw [List.map_cons, List.foldl_cons, unit_val (small c List.mem_cons_self),
          ih _ fun d member => small d (List.mem_cons_of_mem _ member)]
        rfl
  have readBack : Nat.ofDigitChars 10 (Nat.toDigits 10 n) 0 = n := Nat.ofDigitChars_ten_toDigits
  refine (units _ 0 fun c member => ?_).trans readBack
  have digit := Nat.isDigit_of_mem_toDigits (b := 10) (by decide) (by decide) member
  simp only [Char.isDigit, Bool.and_eq_true, decide_eq_true_eq, UInt32.le_iff_toNat_le] at digit
  exact lt_of_le_of_lt digit.2 (by decide)

theorem intText_inj {i j : Int} (equal : intText i = intText j) : i = j := by
  have signed : ∀ m n, natText m ≠ unit '-' :: natText n := by
    intro m n same
    have head := isDigit_of_mem_natText (n := m) (c := unit '-') (same ▸ List.mem_cons_self)
    exact absurd head (by decide)
  have magnitude : i.natAbs = j.natAbs ∧ (i < 0 ↔ j < 0) := by
    unfold intText at equal
    split_ifs at equal with first second second
    · have digits := congrArg digitsValue (List.cons.inj equal).2
      rw [digitsValue_natText, digitsValue_natText] at digits
      exact ⟨digits, iff_of_true first second⟩
    · exact absurd equal.symm (signed _ _)
    · exact absurd equal (signed _ _)
    · have digits := congrArg digitsValue equal
      rw [digitsValue_natText, digitsValue_natText] at digits
      exact ⟨digits, iff_of_false first second⟩
  omega

/-! ## Safe integers -/

/-- The integers that `Number.isSafeInteger` accepts. -/
abbrev SafeInteger := { i : Int // -2 ^ 53 < i ∧ i < 2 ^ 53 }

def SafeInteger.one : SafeInteger := ⟨1, by decide⟩

instance : Numbers SafeInteger where
  isFinite _ := true
  isZero n := decide (n.val = 0)
  truthy n := decide (n.val ≠ 0)
  safeInteger n := some n.val
  text n := intText n.val
  text_ne_nil n _ := intText_ne_nil n.val
  text_units _ _ _ member := intText_units member
  text_zero n zero := by
    rw [of_decide_eq_true zero]
    decide

end Js
