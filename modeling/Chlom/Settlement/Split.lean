import Chlom.Library.Apportion
import Chlom.Settlement.Pallet
import Mathlib.Algebra.Order.Ring.Nat

/-!
# Splitting an amount by basis points

The split succeeds exactly on the nonempty lists of legs that add up to the full
basis points, whatever the amount.  Each leg but the last takes the floor of its
share, which never overspends, and the last leg takes the remainder, which exceeds
its own floor by less than the number of legs.  The sum that a policy saturates is
full exactly when the sum that a split checks is.
-/

namespace Chlom

/-- The basis points of all legs together, without overflow. -/
def totalBasisPoints (legs : List BasisPoints) : Nat :=
  (legs.map BitVec.toNat).sum

@[simp]
theorem totalBasisPoints_nil : totalBasisPoints [] = 0 :=
  rfl

@[simp]
theorem totalBasisPoints_cons (basisPoints : BasisPoints) (legs : List BasisPoints) :
    totalBasisPoints (basisPoints :: legs) = basisPoints.toNat + totalBasisPoints legs :=
  List.sum_cons

@[simp]
theorem FULL_BASIS_POINTS_toNat : FULL_BASIS_POINTS.toNat = 10000 :=
  rfl

theorem toNat_setWidth_basisPoints {w : Nat} (wide : 16 ≤ w) (basisPoints : BasisPoints) :
    (basisPoints.setWidth w).toNat = basisPoints.toNat := by
  have fits : basisPoints.toNat < 2 ^ w :=
    basisPoints.isLt.trans_le (Nat.pow_le_pow_right (by omega) wide)
  rw [BitVec.toNat_setWidth, Nat.mod_eq_of_lt fits]

/-! ## The sum of the basis points -/

theorem foldlM_checked_add {legs : List BasisPoints} {start sum : U32} :
    legs.foldlM (fun sum value => Checked.add sum (value.setWidth 32)) start = some sum ↔
      sum.toNat = start.toNat + totalBasisPoints legs := by
  induction legs generalizing start with
  | nil => simp [BitVec.toNat_eq, eq_comm]
  | cons basisPoints legs ih =>
      have width := toNat_setWidth_basisPoints (w := 32) (by omega) basisPoints
      rw [List.foldlM_cons, totalBasisPoints_cons, Option.bind_eq_bind, Option.bind_eq_some_iff]
      constructor
      · rintro ⟨next, added, rest⟩
        have nextEq := Checked.add_eq_some.mp added
        have sumEq := ih.mp rest
        omega
      · intro sumEq
        have bound := sum.isLt
        obtain ⟨next, added⟩ := Checked.exists_add (x := start) (y := basisPoints.setWidth 32)
          (by omega)
        have nextEq := Checked.add_eq_some.mp added
        exact ⟨next, added, ih.mpr (by omega)⟩

theorem sumBasisPoints_eq_full {legs : List BasisPoints} :
    sumBasisPoints legs = some FULL_BASIS_POINTS ↔ totalBasisPoints legs = 10000 := by
  rw [sumBasisPoints, foldlM_checked_add, FULL_BASIS_POINTS_toNat]
  simp [eq_comm]

/-- Adding up with saturation. -/
def saturatingTotal (start : U32) (legs : List BasisPoints) : U32 :=
  legs.foldl (fun sum value => Checked.saturatingAdd sum (value.setWidth 32)) start

theorem toNat_saturatingTotal (start : U32) (legs : List BasisPoints) :
    (saturatingTotal start legs).toNat =
      min (start.toNat + totalBasisPoints legs) (2 ^ 32 - 1) := by
  induction legs generalizing start with
  | nil =>
      have bound := start.isLt
      simp only [saturatingTotal, List.foldl_nil, totalBasisPoints_nil]
      omega
  | cons basisPoints legs ih =>
      have width := toNat_setWidth_basisPoints (w := 32) (by omega) basisPoints
      have next := Checked.toNat_saturatingAdd start (basisPoints.setWidth 32)
      have rest := ih (Checked.saturatingAdd start (basisPoints.setWidth 32))
      rw [saturatingTotal, List.foldl_cons, ← saturatingTotal, rest, totalBasisPoints_cons]
      omega

/-- Saturation and overflow agree on what is full. -/
theorem saturatingTotal_eq_full {legs : List BasisPoints} :
    saturatingTotal 0 legs = FULL_BASIS_POINTS ↔ totalBasisPoints legs = 10000 := by
  have value := toNat_saturatingTotal 0 legs
  have zero : (0 : U32).toNat = 0 := rfl
  rw [BitVec.toNat_eq, FULL_BASIS_POINTS_toNat, value, zero]
  omega

/-! ## The amounts of the legs -/

/-- The share of a leg is the floor of its part of the total. -/
theorem exists_legShare (total : U128) {basisPoints : BasisPoints}
    (part : basisPoints.toNat ≤ 10000) :
    ∃ amount, legShare total basisPoints = some amount ∧
      amount.toNat = total.toNat * basisPoints.toNat / 10000 := by
  have width := toNat_setWidth_basisPoints (w := 128) (by omega) basisPoints
  have denominator : (FULL_BASIS_POINTS.setWidth 128).toNat = 10000 := rfl
  have bound := total.isLt
  have divided := Nat.div_add_mod total.toNat 10000
  have remainder := Nat.mod_lt total.toNat (show 0 < 10000 by omega)
  have wholeLe : total.toNat / 10000 * basisPoints.toNat ≤ total.toNat / 10000 * 10000 :=
    Nat.mul_le_mul_left _ part
  have partLe : total.toNat % 10000 * basisPoints.toNat ≤ total.toNat % 10000 * 10000 :=
    Nat.mul_le_mul_left _ part
  have share : total.toNat * basisPoints.toNat / 10000 =
      total.toNat / 10000 * basisPoints.toNat +
        total.toNat % 10000 * basisPoints.toNat / 10000 := by
    conv_lhs => rw [← divided, Nat.add_mul, Nat.mul_assoc]
    rw [Nat.mul_add_div (by omega)]
  obtain ⟨whole, wholeEq⟩ := Checked.exists_mul (x := total / FULL_BASIS_POINTS.setWidth 128)
    (y := basisPoints.setWidth 128) (by rw [BitVec.toNat_udiv, denominator, width]; omega)
  obtain ⟨scaled, scaledEq⟩ := Checked.exists_mul (x := total % FULL_BASIS_POINTS.setWidth 128)
    (y := basisPoints.setWidth 128) (by rw [BitVec.toNat_umod, denominator, width]; omega)
  have wholeNat := Checked.mul_eq_some.mp wholeEq
  have scaledNat := Checked.mul_eq_some.mp scaledEq
  rw [BitVec.toNat_udiv, denominator, width] at wholeNat
  rw [BitVec.toNat_umod, denominator, width] at scaledNat
  have floorNat : (scaled / FULL_BASIS_POINTS.setWidth 128).toNat =
      total.toNat % 10000 * basisPoints.toNat / 10000 := by
    rw [BitVec.toNat_udiv, denominator, scaledNat]
  obtain ⟨amount, amountEq⟩ := Checked.exists_add (x := whole)
    (y := scaled / FULL_BASIS_POINTS.setWidth 128) (by rw [wholeNat, floorNat]; omega)
  have amountNat := Checked.add_eq_some.mp amountEq
  refine ⟨amount, ?_, by rw [amountNat, wholeNat, floorNat, share]⟩
  simp only [legShare, wholeEq, scaledEq, Option.bind_eq_bind, Option.bind_some, amountEq]

/-- The legs left can be paid while they are owed no more than what remains. -/
theorem exists_splitLegs (total remaining : U128) {legs : List BasisPoints}
    (nonempty : legs ≠ []) (part : totalBasisPoints legs ≤ 10000)
    (owed : total.toNat * totalBasisPoints legs ≤ 10000 * remaining.toNat) :
    ∃ allocations, splitLegs total remaining legs = some allocations ∧
      allocations.length = legs.length ∧
      (allocations.map BitVec.toNat).sum = remaining.toNat := by
  induction legs generalizing remaining with
  | nil => exact absurd rfl nonempty
  | cons basisPoints rest ih =>
      rw [totalBasisPoints_cons] at part owed
      cases rest with
      | nil =>
          obtain ⟨zero, subtracted⟩ := Checked.exists_sub (x := remaining) (y := remaining) le_rfl
          refine ⟨[remaining], ?_, rfl, by simp⟩
          simp [splitLegs, subtracted]
      | cons next rest =>
          obtain ⟨amount, share, amountNat⟩ := exists_legShare total
            (show basisPoints.toNat ≤ 10000 by omega)
          rw [Nat.mul_add] at owed
          have floor := Nat.mul_div_le (total.toNat * basisPoints.toNat) 10000
          obtain ⟨left, subtracted⟩ := Checked.exists_sub (x := remaining) (y := amount)
            (by omega)
          have leftNat := Checked.sub_eq_some.mp subtracted
          obtain ⟨allocations, split, length, sum⟩ := ih left
            (List.cons_ne_nil _ _) (by omega) (by omega)
          refine ⟨amount :: allocations, ?_, by simp [length], ?_⟩
          · rw [splitLegs]
            simp [share, subtracted, split]
          · rw [List.map_cons, List.sum_cons, sum]
            omega

/-- A split succeeds on exactly the nonempty lists of legs that are full, and its
amounts add up to the whole. -/
theorem exists_splitByBasisPoints (total : U128) {legs : List BasisPoints} (nonempty : legs ≠ [])
    (full : totalBasisPoints legs = 10000) :
    ∃ allocations, splitByBasisPoints total legs = some allocations ∧
      allocations.length = legs.length ∧ (allocations.map BitVec.toNat).sum = total.toNat := by
  obtain ⟨allocations, split, length, sum⟩ := exists_splitLegs total total
    nonempty full.le (by rw [full]; omega)
  refine ⟨allocations, ?_, length, sum⟩
  rw [splitByBasisPoints, sumBasisPoints_eq_full.mpr full]
  simp [nonempty, split]

theorem splitByBasisPoints_isSome {total : U128} {legs : List BasisPoints} :
    (splitByBasisPoints total legs).isSome ↔ legs ≠ [] ∧ totalBasisPoints legs = 10000 := by
  constructor
  · intro succeeded
    by_cases nonempty : legs = []
    · simp [splitByBasisPoints, nonempty] at succeeded
    refine ⟨nonempty, sumBasisPoints_eq_full.mp ?_⟩
    cases sum : sumBasisPoints legs with
    | none => simp [splitByBasisPoints, nonempty, sum] at succeeded
    | some value =>
        by_cases full : value = FULL_BASIS_POINTS
        · rw [full]
        · simp [splitByBasisPoints, nonempty, sum, full] at succeeded
  · rintro ⟨nonempty, full⟩
    obtain ⟨allocations, split, _⟩ := exists_splitByBasisPoints total nonempty full
    rw [split, Option.isSome_some]

/-! ## The exact amounts -/

open Apportion (Share remainder)

/-- The part of a total that basis points stand for, rounded down. -/
def floorShare (total : U128) (basisPoints : BasisPoints) : Nat :=
  total.toNat * basisPoints.toNat / 10000

theorem legShare_eq_some {total amount : U128} {basisPoints : BasisPoints}
    (part : basisPoints.toNat ≤ 10000) (share : legShare total basisPoints = some amount) :
    amount.toNat = floorShare total basisPoints := by
  obtain ⟨other, shareEq, floor⟩ := exists_legShare total part
  obtain rfl := Option.some.inj (share.symm.trans shareEq)
  exact floor

theorem toNat_le_of_mem {legs : List BasisPoints} (full : totalBasisPoints legs = 10000)
    {basisPoints : BasisPoints} (member : basisPoints ∈ legs) : basisPoints.toNat ≤ 10000 := by
  rw [← full]
  exact List.single_le_sum (fun _ _ => Nat.zero_le _) _ (List.mem_map_of_mem member)

/-- Every amount but the last is the floor of its share. -/
theorem splitLegs_dropLast {total remaining : U128} {legs : List BasisPoints}
    {allocations : List U128} (parts : ∀ leg ∈ legs, leg.toNat ≤ 10000)
    (split : splitLegs total remaining legs = some allocations) :
    allocations.length = legs.length ∧
      allocations.dropLast.map BitVec.toNat = legs.dropLast.map (floorShare total) := by
  induction legs generalizing remaining allocations with
  | nil =>
      obtain rfl := Option.some.inj split
      exact ⟨rfl, rfl⟩
  | cons basisPoints rest ih =>
      obtain ⟨part, restParts⟩ := List.forall_mem_cons.mp parts
      cases rest with
      | nil =>
          simp only [splitLegs, List.isEmpty_nil, if_true, Option.bind_eq_bind, Option.bind_some,
            Option.bind_eq_some_iff, Option.some.injEq] at split
          obtain ⟨left, _, rfl⟩ := split
          exact ⟨rfl, rfl⟩
      | cons next others =>
          simp only [splitLegs, List.isEmpty_cons, Bool.false_eq_true, if_false,
            Option.bind_eq_bind, Option.bind_eq_some_iff] at split
          obtain ⟨amount, share, left, _, amounts, later, done⟩ := split
          obtain rfl := Option.some.inj done
          obtain ⟨length, floors⟩ := ih restParts (by simpa [splitLegs] using later)
          have nonempty : amounts ≠ [] := by
            rintro rfl
            cases length
          refine ⟨by simp [length], ?_⟩
          rw [List.dropLast_cons_of_ne_nil nonempty, List.dropLast_cons_cons, List.map_cons,
            List.map_cons, floors, legShare_eq_some part share]

/-- A leg with the floor of its share. -/
def floorLeg (total : U128) (basisPoints : BasisPoints) : Share where
  weight := basisPoints.toNat
  amount := floorShare total basisPoints

theorem floorLeg_excess (total : U128) (basisPoints : BasisPoints) :
    -10000 < (floorLeg total basisPoints).excess 10000 total.toNat ∧
      (floorLeg total basisPoints).excess 10000 total.toNat ≤ 0 := by
  have floor : (floorLeg total basisPoints).amount =
      Apportion.floorPart 10000 total.toNat basisPoints.toNat := by
    simp [floorLeg, floorShare, Apportion.floorPart]
  have excess := Apportion.excess_floorPart (show (0 : Int) < 10000 by decide) total.toNat
    basisPoints.toNat
  rw [← floor] at excess
  exact excess

theorem sum_floorLegs (total : U128) (legs : List BasisPoints) :
    ((legs.map (floorLeg total)).map Share.weight).sum = totalBasisPoints legs ∧
      ((legs.map (floorLeg total)).map Share.amount).sum =
        (legs.map (floorShare total)).sum := by
  induction legs with
  | nil => exact ⟨rfl, rfl⟩
  | cons basisPoints rest ih =>
      simp only [List.map_cons, List.sum_cons, totalBasisPoints_cons, ih.1, ih.2, Nat.cast_add]
      exact ⟨rfl, rfl⟩

/-- The last leg of a split takes what the floors of the others leave. -/
theorem splitByBasisPoints_eq_some {total : U128} {legs : List BasisPoints}
    {allocations : List U128} (split : splitByBasisPoints total legs = some allocations) :
    ∃ front last amounts amount, legs = front ++ [last] ∧ allocations = amounts ++ [amount] ∧
      amounts.length = front.length ∧ amounts.map BitVec.toNat = front.map (floorShare total) ∧
      (allocations.map BitVec.toNat).sum = total.toNat ∧
      (⟨last.toNat, amount.toNat⟩ : Share) =
        remainder 10000 total.toNat (front.map (floorLeg total)) := by
  obtain ⟨nonempty, full⟩ := splitByBasisPoints_isSome.mp (Option.isSome_of_eq_some split)
  obtain ⟨others, splitEq, length, sum⟩ := exists_splitByBasisPoints total nonempty full
  obtain rfl := Option.some.inj (split.symm.trans splitEq)
  have legsSplit : splitLegs total total legs = some allocations := by
    rw [splitByBasisPoints, sumBasisPoints_eq_full.mpr full] at split
    simpa [nonempty] using split
  have floors := (splitLegs_dropLast (fun _ member => toNat_le_of_mem full member) legsSplit).2
  have paid : allocations ≠ [] := by
    rintro rfl
    exact nonempty (List.eq_nil_of_length_eq_zero length.symm)
  have legsEq := List.dropLast_append_getLast nonempty
  have amountsEq := List.dropLast_append_getLast paid
  refine ⟨legs.dropLast, legs.getLast nonempty, allocations.dropLast, allocations.getLast paid,
    legsEq.symm, amountsEq.symm, by simp [length], floors, sum, ?_⟩
  rw [totalBasisPoints, ← legsEq, List.map_append, List.sum_append] at full
  rw [← amountsEq, List.map_append, List.sum_append, floors] at sum
  simp only [List.map_cons, List.map_nil, List.sum_cons, List.sum_nil, add_zero] at full sum
  obtain ⟨weights, amounts⟩ := sum_floorLegs total legs.dropLast
  rw [totalBasisPoints] at weights
  simp only [remainder, weights, amounts, Share.mk.injEq]
  omega

/-- A split succeeds exactly on the nonempty lists of legs that add up to the full basis
points, and then no step of it overflows.  It has one amount for each leg, and they add
up to the total.  All but the last are the floors of their shares, and the last is at
least its floor and above it by less than the number of legs. -/
theorem splitByBasisPoints_exact (total : U128) (legs : List BasisPoints) :
    ((splitByBasisPoints total legs).isSome ↔ legs ≠ [] ∧ totalBasisPoints legs = 10000) ∧
    (totalBasisPoints legs = 10000 → sumBasisPoints legs = some FULL_BASIS_POINTS ∧
      ∀ leg ∈ legs, (legShare total leg).isSome) ∧
    ∀ allocations, splitByBasisPoints total legs = some allocations →
      allocations.length = legs.length ∧
      (allocations.map BitVec.toNat).sum = total.toNat ∧
      (∀ index leg amount, index + 1 < legs.length → legs[index]? = some leg →
        allocations[index]? = some amount → amount.toNat = floorShare total leg) ∧
      ∀ last amount, legs.getLast? = some last → allocations.getLast? = some amount →
        floorShare total last ≤ amount.toNat ∧
          amount.toNat < floorShare total last + legs.length := by
  refine ⟨splitByBasisPoints_isSome, fun full => ⟨sumBasisPoints_eq_full.mpr full, ?_⟩, ?_⟩
  · intro leg member
    obtain ⟨amount, share, _⟩ := exists_legShare total (toNat_le_of_mem full member)
    rw [share, Option.isSome_some]
  · intro allocations split
    obtain ⟨front, last, amounts, amount, rfl, rfl, length, floors, sum, rest⟩ :=
      splitByBasisPoints_eq_some split
    refine ⟨by simp [length], sum, ?_, ?_⟩
    · intro index leg found inFront legEq foundEq
      have inside : index < front.length := by simpa using inFront
      rw [List.getElem?_append_left inside] at legEq
      rw [List.getElem?_append_left (by omega)] at foundEq
      have floor := congrArg (fun list => list[index]?) floors
      simpa [legEq, foundEq] using floor
    · intro other given lastEq givenEq
      obtain rfl : last = other := by simpa using lastEq
      obtain rfl : amount = given := by simpa using givenEq
      have notAbove : ∀ share ∈ front.map (floorLeg total),
          share.excess 10000 total.toNat ≤ 0 := by
        simp [floorLeg_excess]
      have notBelow : ∀ share ∈ front.map (floorLeg total),
          -10000 ≤ share.excess 10000 total.toNat := by
        simpa using fun leg _ => (floorLeg_excess total leg).1.le
      have lower := Apportion.le_excess_remainder 10000 total.toNat notAbove
      have upper := Apportion.excess_remainder_le 10000 total.toNat notBelow
      have own := floorLeg_excess total last
      simp only [← rest, Share.excess, floorLeg, List.length_map, List.length_append,
        List.length_singleton] at lower upper own ⊢
      omega

end Chlom
