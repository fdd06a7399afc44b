import Mathlib.Algebra.Order.BigOperators.Group.List
import Mathlib.Algebra.Order.Ring.Int
import Mathlib.Tactic.Linarith
import Mathlib.Tactic.Ring

/-!
# Sharing out a whole

Every share of a whole but one is rounded on its own, and what is left over goes to
the remaining one.  The roundings then show up in the remainder with the opposite
sign, so what bounds each of them bounds how far the remainder is off its exact part.
-/

namespace Apportion

/-- A weight and the amount that was given to it. -/
structure Share where
  weight : Int
  amount : Int

variable (scale whole : Int)

/-- How far the amount of a share lies above its exact part, in parts of the scale. -/
def Share.excess (share : Share) : Int :=
  scale * share.amount - whole * share.weight

/-- What the given shares leave of the weights and of the whole. -/
def remainder (shares : List Share) : Share where
  weight := scale - (shares.map Share.weight).sum
  amount := whole - (shares.map Share.amount).sum

theorem sum_excess (shares : List Share) :
    (shares.map (Share.excess scale whole)).sum =
      scale * (shares.map Share.amount).sum - whole * (shares.map Share.weight).sum := by
  induction shares with
  | nil => simp
  | cons share rest ih =>
      simp only [List.map_cons, List.sum_cons, ih, Share.excess]
      ring

/-- The remainder is off by what the other shares are off together. -/
theorem excess_remainder (shares : List Share) :
    (remainder scale whole shares).excess scale whole =
      -(shares.map (Share.excess scale whole)).sum := by
  rw [sum_excess, Share.excess, remainder]
  ring

theorem excess_remainder_le {shares : List Share} {bound : Int}
    (bounded : ∀ share ∈ shares, -bound ≤ share.excess scale whole) :
    (remainder scale whole shares).excess scale whole ≤ shares.length * bound := by
  have below : ∀ excess ∈ shares.map (Share.excess scale whole), -bound ≤ excess := by
    simpa using bounded
  have total := List.card_nsmul_le_sum _ _ below
  rw [List.length_map, nsmul_eq_mul] at total
  rw [excess_remainder]
  linarith

theorem le_excess_remainder {shares : List Share} {bound : Int}
    (bounded : ∀ share ∈ shares, share.excess scale whole ≤ bound) :
    -(shares.length * bound) ≤ (remainder scale whole shares).excess scale whole := by
  have above : ∀ excess ∈ shares.map (Share.excess scale whole), excess ≤ bound := by
    simpa using bounded
  have total := List.sum_le_card_nsmul _ _ above
  rw [List.length_map, nsmul_eq_mul] at total
  rw [excess_remainder]
  linarith

/-- Shares that are never too large leave an exact remainder only if all are exact. -/
theorem excess_remainder_eq_zero {shares : List Share}
    (bounded : ∀ share ∈ shares, share.excess scale whole ≤ 0) :
    (remainder scale whole shares).excess scale whole = 0 ↔
      ∀ share ∈ shares, share.excess scale whole = 0 := by
  rw [excess_remainder, neg_eq_zero]
  induction shares with
  | nil => simp
  | cons share rest ih =>
      obtain ⟨first, others⟩ := List.forall_mem_cons.mp bounded
      have restLe := le_excess_remainder scale whole others
      rw [excess_remainder, mul_zero, neg_zero] at restLe
      rw [List.map_cons, List.sum_cons, List.forall_mem_cons, ← ih others]
      omega

/-! ## Roundings -/

/-- The part of a weight, rounded down. -/
def floorPart (weight : Int) : Int := whole * weight / scale

/-- The part of a weight, rounded to the nearest whole number with halves up. -/
def halfUpPart (weight : Int) : Int := (2 * (whole * weight) + scale) / (2 * scale)

theorem excess_floorPart {scale : Int} (positive : 0 < scale) (whole weight : Int) :
    -scale < Share.excess scale whole ⟨weight, floorPart scale whole weight⟩ ∧
      Share.excess scale whole ⟨weight, floorPart scale whole weight⟩ ≤ 0 := by
  have divided := Int.emod_add_mul_ediv (whole * weight) scale
  have low := Int.emod_nonneg (whole * weight) positive.ne'
  have high := Int.emod_lt_of_pos (whole * weight) positive
  simp only [Share.excess, floorPart]
  constructor <;> linarith

theorem excess_halfUpPart {scale : Int} (positive : 0 < scale) (whole weight : Int) :
    -scale < 2 * Share.excess scale whole ⟨weight, halfUpPart scale whole weight⟩ ∧
      2 * Share.excess scale whole ⟨weight, halfUpPart scale whole weight⟩ ≤ scale := by
  have divided := Int.emod_add_mul_ediv (2 * (whole * weight) + scale) (2 * scale)
  have low := Int.emod_nonneg (2 * (whole * weight) + scale) (show 2 * scale ≠ 0 by omega)
  have high := Int.emod_lt_of_pos (2 * (whole * weight) + scale) (show 0 < 2 * scale by omega)
  simp only [Share.excess, halfUpPart]
  constructor <;> linarith

/-- The nearest whole number is as far off as what the division leaves. -/
theorem excess_halfUpPart_eq {scale : Int} (positive : 0 < scale) (whole weight : Int) :
    Share.excess scale whole ⟨weight, halfUpPart scale whole weight⟩ =
      if 2 * (whole * weight % scale) < scale then -(whole * weight % scale)
      else scale - whole * weight % scale := by
  have divided := Int.emod_add_mul_ediv (whole * weight) scale
  have low := Int.emod_nonneg (whole * weight) positive.ne'
  have high := Int.emod_lt_of_pos (whole * weight) positive
  simp only [Share.excess, halfUpPart]
  generalize whole * weight % scale = rest at *
  generalize whole * weight / scale = quotient at *
  generalize whole * weight = product at *
  split
  · next below =>
      have part : (2 * product + scale) / (2 * scale) = quotient := by
        rw [Int.ediv_eq_iff_of_pos (by linarith)]
        constructor <;> linarith
      rw [part]
      linarith
  · next above =>
      have part : (2 * product + scale) / (2 * scale) = quotient + 1 := by
        rw [Int.ediv_eq_iff_of_pos (by linarith)]
        constructor <;> linarith
      rw [part]
      linarith

end Apportion
