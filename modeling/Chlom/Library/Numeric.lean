import Mathlib.Data.Nat.Log
import Mathlib.Algebra.Order.Field.Basic
import Mathlib.Data.Rat.Cast.Order
import Mathlib.Tactic.Positivity
import Mathlib.Tactic.Ring

/-!
# Division of whole numbers into a decimal

A quotient is rounded, halves up, to a number of decimal places that gives at least
sixteen significant digits.  The number of places is estimated from the leading
groups of four digits of the two numbers.  A proper fraction stays at most one.
-/

namespace Numeric

/-- The number of groups of four digits after the leading one. -/
def weight (n : Nat) : Nat :=
  Nat.log 10000 n

/-- The leading group of four digits. -/
def leadingGroup (n : Nat) : Nat :=
  n / 10000 ^ weight n

/-- The decimal places of a quotient. -/
def divScale (a b : Nat) : Nat :=
  let quotientWeight : Int :=
    weight a - weight b - if leadingGroup a ≤ leadingGroup b then 1 else 0
  min (16 - 4 * quotientWeight).toNat 1000

/-- The quotient in units of its last decimal place. -/
def divUnits (a b scale : Nat) : Nat :=
  (2 * (a * 10 ^ scale) + b) / (2 * b)

def div (a b : Nat) : Rat :=
  divUnits a b (divScale a b) / 10 ^ divScale a b

theorem divUnits_le {a b scale : Nat} (le : a ≤ b) : divUnits a b scale ≤ 10 ^ scale := by
  rcases Nat.eq_zero_or_pos b with rfl | positive
  · simp [divUnits]
  · have scaled : a * 10 ^ scale ≤ b * 10 ^ scale := Nat.mul_le_mul_right _ le
    have below : 2 * (a * 10 ^ scale) + b < (10 ^ scale + 1) * (2 * b) := by
      have expand : (10 ^ scale + 1) * (2 * b) = 2 * (b * 10 ^ scale) + 2 * b := by ring
      omega
    exact Nat.lt_succ_iff.mp ((Nat.div_lt_iff_lt_mul (by omega)).mpr below)

/-- A proper fraction is at most one. -/
theorem div_le_one {a b : Nat} (le : a ≤ b) : div a b ≤ 1 := by
  have positive : (0 : Rat) < 10 ^ divScale a b := by positivity
  rw [div, div_le_one₀ positive]
  exact_mod_cast divUnits_le le

/-! ## Whole units -/

/-- A decimal of a number of places, rounded to whole units with halves up. -/
def roundUnits (units scale : Nat) : Nat :=
  (2 * units + 10 ^ scale) / (2 * 10 ^ scale)

/-- A quotient, rounded to whole units after it was rounded to its decimal places. -/
def divWhole (a b : Nat) : Nat :=
  roundUnits (divUnits a b (divScale a b)) (divScale a b)

theorem four_dvd_divScale (a b : Nat) : 4 ∣ divScale a b := by
  dsimp only [divScale]
  omega

/-- Four decimal places hold a quotient by ten thousand exactly. -/
theorem divUnits_tenThousand (a places : Nat) :
    divUnits a 10000 (places + 4) = a * 10 ^ places := by
  have shifted : 2 * (a * 10 ^ (places + 4)) + 10000 =
      10000 + 2 * 10000 * (a * 10 ^ places) := by ring
  rw [divUnits, shifted, Nat.add_mul_div_left _ _ (by decide)]
  simp

/-- The two roundings of a quotient by ten thousand are one rounding with halves up. -/
theorem divWhole_tenThousand (a : Nat) :
    divWhole a 10000 = (2 * a + 10000) / (2 * 10000) := by
  obtain ⟨groups, scale⟩ := four_dvd_divScale a 10000
  rw [divWhole, scale]
  cases groups with
  | zero =>
      simp only [Nat.mul_zero, roundUnits, divUnits, Nat.pow_zero, Nat.mul_one]
      omega
  | succ more =>
      have places : 4 * (more + 1) = 4 * more + 4 := by ring
      have numerator : 2 * (a * 10 ^ (4 * more)) + 10 ^ (4 * more + 4) =
          (2 * a + 10000) * 10 ^ (4 * more) := by ring
      have denominator : 2 * 10 ^ (4 * more + 4) = 2 * 10000 * 10 ^ (4 * more) := by ring
      rw [places, divUnits_tenThousand, roundUnits, numerator, denominator]
      exact Nat.mul_div_mul_right _ _ (by positivity)

end Numeric
