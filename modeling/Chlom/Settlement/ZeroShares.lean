import Chlom.Settlement.Previews

/-!
# Shares of zero basis points

A policy may list legs without a share.  Before the last position such a leg gets
nothing, but the last leg takes the remainder of all roundings whatever its own share
is, so a leg without a share gets money exactly if it stands last and something was
rounded.
-/

namespace Chlom.Settlement

open Chlom.Frame
open Apportion (Share)

variable {T : Config} {AccountId BlockNumber : Type}

/-- Whatever amounts a preview computes, a leg of zero basis points gets nothing. -/
def RevenuePolicy.ZeroSharesWorthNothing (policy : RevenuePolicy T) (gross : U128) : Prop :=
  ∀ allocations, policy.allocations gross = some allocations →
    ∀ (index : Nat) (leg : SplitLeg) (amount : U128), policy.legs.toList[index]? = some leg →
      leg.basisPoints = 0 → allocations[index]? = some amount → amount = 0

/-- The last leg has a share, or no leg's share of the amount has to be rounded. -/
def RevenuePolicy.NothingLeftOver (policy : RevenuePolicy T) (gross : U128) : Prop :=
  policy.basisPoints.getLast? ≠ some 0 ∨
    ∀ basisPoints ∈ policy.basisPoints, 10000 ∣ gross.toNat * basisPoints.toNat

/-- Floors leave nothing exactly if none of them is rounded. -/
theorem floorLeg_exact {total : U128} {basisPoints : BasisPoints} :
    (floorLeg total basisPoints).excess 10000 total.toNat = 0 ↔
      10000 ∣ total.toNat * basisPoints.toNat := by
  simp only [Share.excess, floorLeg, floorShare]
  omega

/-- Of an accepted policy, the legs without a share get nothing exactly if the last leg
has a share or nothing is left over. -/
theorem zeroSharesWorthNothing_iff {env : Env AccountId BlockNumber}
    {origin : RawOrigin AccountId} {s s' : Storage T} {policyId : Id32} {policy : RevenuePolicy T}
    (accepted : recordRevenuePolicy env origin policyId policy s = .ok () s') (gross : U128) :
    policy.ZeroSharesWorthNothing gross ↔ policy.NothingLeftOver gross := by
  obtain ⟨_, nonempty, full, _⟩ := recordRevenuePolicy_ok.mp accepted
  obtain ⟨allocations, split, _⟩ := exists_splitByBasisPoints gross nonempty full
  obtain ⟨front, last, amounts, amount, legsEq, rfl, length, floors, _, rest⟩ :=
    splitByBasisPoints_eq_some split
  have floorsLe : ∀ share ∈ front.map (floorLeg gross), share.excess 10000 gross.toNat ≤ 0 := by
    simp [floorLeg_excess]
  have exact := Apportion.excess_remainder_eq_zero 10000 gross.toNat floorsLe
  rw [← rest, List.forall_mem_map] at exact
  simp only [floorLeg_exact] at exact
  have basisPointsAt (index : Nat) : (policy.legs.toList[index]?).map SplitLeg.basisPoints =
      (front ++ [last])[index]? := by
    rw [← legsEq, RevenuePolicy.basisPoints, List.getElem?_map]
  constructor
  · intro nothing
    by_cases share : last = 0
    · subst share
      have atLast := basisPointsAt front.length
      rw [List.getElem?_concat_length, Option.map_eq_some_iff] at atLast
      obtain ⟨leg, legEq, none⟩ := atLast
      have unpaid : amount = 0 :=
        nothing _ split front.length leg amount legEq none (by simp [← length])
      have divides := exact.mp (by simp [Share.excess, unpaid])
      refine .inr fun basisPoints member => ?_
      rw [legsEq, List.mem_append, List.mem_singleton] at member
      rcases member with before | rfl
      · exact divides basisPoints before
      · simp
    · refine .inl ?_
      rw [legsEq, List.getLast?_concat, ne_eq, Option.some_inj]
      exact share
  · intro left others splitEq index leg found legEq none foundEq
    obtain rfl := Option.some.inj (split.symm.trans splitEq)
    have weight := basisPointsAt index
    rw [legEq, Option.map_some, none] at weight
    by_cases inFront : index < front.length
    · rw [List.getElem?_append_left inFront] at weight
      rw [List.getElem?_append_left (by omega)] at foundEq
      have floor := congrArg (fun list => list[index]?) floors
      simp only [List.getElem?_map, foundEq, ← weight, Option.map_some, Option.some.injEq] at floor
      exact BitVec.eq_of_toNat_eq (by simpa [floorShare] using floor)
    · have atLast : index = front.length := by
        have inside := (List.getElem?_eq_some_iff.mp weight.symm).1
        rw [List.length_append, List.length_singleton] at inside
        omega
      subst atLast
      rw [List.getElem?_concat_length] at weight
      obtain rfl : 0 = last := Option.some.inj weight
      obtain rfl : amount = found := by simpa [← length] using foundEq
      have divides : ∀ basisPoints ∈ policy.basisPoints, 10000 ∣ gross.toNat * basisPoints.toNat :=
        left.resolve_left (by simp [legsEq])
      have settled := exact.mpr fun basisPoints member =>
        divides basisPoints (by simp [legsEq, member])
      exact BitVec.eq_of_toNat_eq (by simpa [Share.excess] using settled)

/-! ## A leg without a share that is paid -/

/-- A policy of three legs, of which the last has no share. -/
def unevenPolicy : RevenuePolicy ⟨3, fun _ => ZERO_ID⟩ where
  calculationBasis := .repeated 1
  currencyId := .repeated 2
  legalTaxReviewHash := .repeated 3
  moneyMovementAuthorized := false
  legs := ⟨[3333, 6667, 0].map fun basisPoints =>
    ⟨.repeated 4, .repeated 5, .repeated 6, basisPoints, .repeated 7⟩, by decide⟩
  recordHash := .repeated 8

theorem unevenPolicy_accepted :
    ∃ s', recordRevenuePolicy sampleEnv .root (.repeated 9) unevenPolicy (.empty _) =
      .ok () s' :=
  recordRevenuePolicy_succeeds.mpr
    ⟨⟨rfl, by decide, rfl, rfl, by decide +kernel⟩, 0, by decide +kernel⟩

theorem zeroSharesWorthNothing_iff_uneven :
    unevenPolicy.ZeroSharesWorthNothing 1 ↔ unevenPolicy.NothingLeftOver 1 :=
  unevenPolicy_accepted.elim fun _ accepted => zeroSharesWorthNothing_iff accepted 1

/-- One unit goes to the leg without a share. -/
theorem zero_share_paid :
    (∃ s', recordRevenuePolicy sampleEnv .root (.repeated 9) unevenPolicy (.empty _) =
      .ok () s') ∧ unevenPolicy.allocations 1 = some [0, 0, 1] ∧
      ¬ unevenPolicy.ZeroSharesWorthNothing 1 := by
  have paid : unevenPolicy.allocations 1 = some [0, 0, 1] := by decide
  refine ⟨unevenPolicy_accepted, paid, fun nothing => ?_⟩
  have unpaid := nothing _ paid 2 ⟨.repeated 4, .repeated 5, .repeated 6, 0, .repeated 7⟩ 1 rfl rfl
    rfl
  cases unpaid

end Chlom.Settlement
