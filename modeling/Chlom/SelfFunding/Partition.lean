import Chlom.Library.Apportion
import Chlom.SelfFunding.Functions

/-!
# How fair the allocations are

Four shares are rounded to the nearest unit and the fifth takes what is left.  The
amounts add up to the gross and stay within two units of their exact shares, but four
roundings up can take more than the fifth share is worth, and then it is negative.
-/

namespace Chlom.SelfFunding

open Assurance (Text text Uuid SqlError)
open Sql
open Apportion (Share)

/-! ## The property -/

/-- The shares that are rounded on their own. -/
def Policy.roundedBps (pol : Policy) : List Int :=
  [pol.providerBps, pol.hqGrowthTechBps, pol.regionalLeadershipBps, pol.nationalAdBps]

/-- Rows of the shares of a policy that divide an amount fairly. -/
structure FairPartition (pol : Policy) (grossMinor : Int) (rows : List Allocation) : Prop where
  shares : rows.map Allocation.basisBps = pol.roundedBps ++ [pol.thrivefundBps]
  nonneg : ∀ a ∈ rows, 0 ≤ a.amountMinor
  total : (rows.map Allocation.amountMinor).sum = grossMinor
  close : ∀ a ∈ rows, |10000 * a.amountMinor - grossMinor * a.basisBps| < 5 * 10000
  worthless : ∀ a ∈ rows, a.allocationCode ≠ text "THRIVEFUND" → a.basisBps = 0 →
    a.amountMinor = 0

/-- A computation inserted a fair partition of the gross of a transaction. -/
def PartitionsFairly (t t' : Tables) (tx : Transaction) (pol : Policy) : Prop :=
  ∃ rows, t'.allocations = kept tx.transactionId t.allocations ++ rows ∧
    FairPartition pol tx.grossMinor rows

/-- What rounding a ten-thousandth of a product to the nearest whole number adds to it,
in ten-thousandths. -/
def roundingGain (product : Int) : Int :=
  if 2 * (product % 10000) < 10000 then -(product % 10000) else 10000 - product % 10000

/-- The last share is worth what the roundings of the others add to them. -/
def Policy.CoversRoundings (pol : Policy) (grossMinor : Int) : Prop :=
  (pol.roundedBps.map fun bps => roundingGain (grossMinor * bps)).sum ≤
    grossMinor * pol.thrivefundBps

/-! ## What a computation inserts -/

variable {σ β : Type} {s s' : σ} {t t' : Tables} {args : Calculate} {answer : List Returned}
  {tx : Transaction} {pol : Policy}

/-- A check of a range leaves the state alone. -/
theorem addAll_ok {fits : Int → Sql σ Unit} [∀ value, Dispatch.ReadOnly (fits value)]
    {first total : Int} {rest : List Int} (ran : addAll fits first rest s = .ok total s') :
    total = first + rest.sum ∧ s' = s := by
  induction rest generalizing first with
  | nil =>
      cases ran
      simp
  | cons next rest ih =>
      rw [addAll, Dispatch.ReadOnly.bind_ok] at ran
      obtain ⟨sum, same⟩ := ih ran.2
      rw [sum, List.sum_cons, add_assoc]
      exact ⟨rfl, same⟩

instance fitsBigint_readOnly (value : Int) : Dispatch.ReadOnly (fitsBigint value : Sql σ Unit) :=
  Dispatch.ReadOnly.ensure _ _

instance fitsInteger_readOnly (value : Int) :
    Dispatch.ReadOnly (fitsInteger value : Sql σ Unit) :=
  Dispatch.ReadOnly.ensure _ _

theorem addAll_bind_ok {fits : Int → Sql σ Unit} [∀ value, Dispatch.ReadOnly (fits value)]
    {first : Int} {rest : List Int} {next : Int → Sql σ β} {result : β}
    (ran : (addAll fits first rest >>= next) s = .ok result s') :
    next (first + rest.sum) s = .ok result s' := by
  obtain ⟨total, middle, sum, after⟩ := Dispatch.bind_ok.mp ran
  obtain ⟨rfl, rfl⟩ := addAll_ok sum
  exact after

theorem shareOf_bind_ok {gross bps : Int} {next : Int → Sql σ β} {result : β}
    (ran : (shareOf gross bps >>= next) s = .ok result s') :
    next (tenThousandth (gross * bps)) s = .ok result s' := by
  obtain ⟨amount, middle, share, rest⟩ := Dispatch.bind_ok.mp ran
  rw [shareOf, Dispatch.ReadOnly.bind_ok] at share
  cases share.2
  exact rest

/-- The row of the remainder gets what the other rows leave of the gross. -/
def allocate (tx : Transaction) (pol : Policy) : List Allocation :=
  let amounts := pol.roundedBps.map fun bps => tenThousandth (tx.grossMinor * bps)
  calculatedRows tx pol (tenThousandth (tx.grossMinor * pol.providerBps))
    (tenThousandth (tx.grossMinor * pol.hqGrowthTechBps))
    (tenThousandth (tx.grossMinor * pol.regionalLeadershipBps))
    (tenThousandth (tx.grossMinor * pol.nationalAdBps)) (tx.grossMinor - amounts.sum)

theorem calculate_ok (ran : ctCalculateSelfFundingAllocations args t = .ok answer t')
    (found : args.transactionId.bind t.transactions.find = some tx)
    (active : activePolicy t tx = some pol) :
    t'.allocations = kept tx.transactionId t.allocations ++ allocate tx pol := by
  simp only [ctCalculateSelfFundingAllocations, Dispatch.read_bind, id, demand,
    Dispatch.okOr_bind_ok] at ran
  obtain ⟨tx', found', pol', active', ran⟩ := ran
  obtain rfl := Option.some.inj (found.symm.trans found')
  obtain rfl := Option.some.inj (active.symm.trans active')
  have totalBps := addAll_bind_ok ran
  simp only [require, Dispatch.ensure_bind_ok] at totalBps
  have shares := shareOf_bind_ok (shareOf_bind_ok (shareOf_bind_ok (shareOf_bind_ok totalBps.2.2)))
  have checked := addAll_bind_ok (addAll_bind_ok shares)
  simp only [Dispatch.ensure_bind_ok, Dispatch.write_bind, Dispatch.read_bind, id] at checked
  cases checked.2
  simp only [allocate, Policy.roundedBps, List.map_cons, List.map_nil, List.sum_cons,
    List.sum_nil]
  congr 2
  ring

/-! ## How far the amounts are off -/

theorem tenThousandth_eq {gross bps : Int} (nonneg : 0 ≤ gross * bps) :
    tenThousandth (gross * bps) = Apportion.halfUpPart 10000 gross bps := by
  rw [tenThousandth, Numeric.divWhole_tenThousand, Apportion.halfUpPart]
  obtain ⟨product, product_eq⟩ := Int.eq_ofNat_of_zero_le nonneg
  rw [product_eq]
  cases product with
  | zero => rfl
  | succ product =>
      rw [Int.sign_eq_one_of_pos (by omega), Int.natAbs_natCast]
      omega

/-- The rounded shares of an amount. -/
def Policy.roundedShares (pol : Policy) (grossMinor : Int) : List Share :=
  pol.roundedBps.map fun bps => ⟨bps, Apportion.halfUpPart 10000 grossMinor bps⟩

/-- The amounts of the rows, rounded share by share and then the remainder. -/
theorem allocate_shares (pol : Policy) (nonneg : 0 ≤ tx.grossMinor) :
    (allocate tx pol).map (fun a => (⟨a.basisBps, a.amountMinor⟩ : Share)) =
      pol.roundedShares tx.grossMinor ++
        [Apportion.remainder 10000 tx.grossMinor (pol.roundedShares tx.grossMinor)] := by
  obtain ⟨provider, hq, regional, ad, _, sum⟩ := pol.allocationSumCheck
  have rounded (bps : Int) (share : 0 ≤ bps) :
      tenThousandth (tx.grossMinor * bps) = Apportion.halfUpPart 10000 tx.grossMinor bps :=
    tenThousandth_eq (Int.mul_nonneg nonneg share)
  have left : pol.thrivefundBps = 10000 - (pol.providerBps + (pol.hqGrowthTechBps +
      (pol.regionalLeadershipBps + (pol.nationalAdBps + 0)))) := by omega
  simp only [allocate, calculatedRows, calculated, Policy.roundedShares, Policy.roundedBps,
    Apportion.remainder, List.map_cons, List.map_nil, List.sum_cons, List.sum_nil, rounded _ hq,
    rounded _ provider, rounded _ regional, rounded _ ad, left, List.cons_append, List.nil_append]

/-- The excess of the rounded shares is what their roundings add. -/
theorem excess_roundedShares (pol : Policy) (grossMinor : Int) :
    (pol.roundedShares grossMinor).map (Share.excess 10000 grossMinor) =
      pol.roundedBps.map fun bps => roundingGain (grossMinor * bps) := by
  rw [Policy.roundedShares, List.map_map]
  exact List.map_congr_left fun bps _ =>
    Apportion.excess_halfUpPart_eq (by decide) grossMinor bps

theorem excess_roundedShare {grossMinor : Int} {share : Share}
    (rounded : share ∈ pol.roundedShares grossMinor) :
    |share.excess 10000 grossMinor| ≤ 5000 := by
  obtain ⟨bps, _, rfl⟩ := List.mem_map.mp rounded
  have bound := Apportion.excess_halfUpPart (show (0 : Int) < 10000 by decide) grossMinor bps
  rw [abs_le]
  omega

/-- The remainder is not negative exactly if the last share covers the roundings. -/
theorem remainder_nonneg_iff (pol : Policy) (grossMinor : Int) :
    0 ≤ (Apportion.remainder 10000 grossMinor (pol.roundedShares grossMinor)).amount ↔
      pol.CoversRoundings grossMinor := by
  have excess := Apportion.excess_remainder 10000 grossMinor (pol.roundedShares grossMinor)
  have weight : (Apportion.remainder 10000 grossMinor (pol.roundedShares grossMinor)).weight =
      pol.thrivefundBps := by
    obtain ⟨_, _, _, _, _, sum⟩ := pol.allocationSumCheck
    simp only [Apportion.remainder, Policy.roundedShares, Policy.roundedBps, List.map_cons,
      List.map_nil, List.sum_cons, List.sum_nil]
    omega
  rw [excess_roundedShares, Share.excess, weight] at excess
  rw [Policy.CoversRoundings]
  omega

theorem excess_remainder_bounds (pol : Policy) (grossMinor : Int) :
    |(Apportion.remainder 10000 grossMinor (pol.roundedShares grossMinor)).excess 10000
      grossMinor| ≤ 20000 := by
  have bounds (share : Share) (rounded : share ∈ pol.roundedShares grossMinor) :=
    abs_le.mp (excess_roundedShare rounded)
  have above := Apportion.excess_remainder_le 10000 grossMinor fun share rounded =>
    (bounds share rounded).1
  have below := Apportion.le_excess_remainder 10000 grossMinor fun share rounded =>
    (bounds share rounded).2
  have four : (pol.roundedShares grossMinor).length = 4 := rfl
  rw [four] at above below
  exact abs_le.mpr ⟨below, above⟩

theorem roundedShare_nonneg {grossMinor : Int} {share : Share} (nonneg : 0 ≤ grossMinor)
    (rounded : share ∈ pol.roundedShares grossMinor) : 0 ≤ share.amount := by
  have bounds := abs_le.mp (excess_roundedShare rounded)
  obtain ⟨bps, member, rfl⟩ := List.mem_map.mp rounded
  obtain ⟨provider, hq, regional, ad, _, _⟩ := pol.allocationSumCheck
  have weight : 0 ≤ bps := by
    simp only [Policy.roundedBps, List.mem_cons, List.not_mem_nil, or_false] at member
    omega
  have product := Int.mul_nonneg nonneg weight
  simp only [Share.excess] at bounds ⊢
  omega

/-- The inserted amounts add up to the gross. -/
theorem sum_allocate (tx : Transaction) (pol : Policy) :
    ((allocate tx pol).map Allocation.amountMinor).sum = tx.grossMinor := by
  simp only [allocate, calculatedRows, calculated, Policy.roundedBps, List.map_cons,
    List.map_nil, List.sum_cons, List.sum_nil]
  ring

/-- A share of nothing that is rounded on its own is nothing. -/
theorem allocate_worthless {a : Allocation} (member : a ∈ allocate tx pol)
    (rounded : a.allocationCode ≠ text "THRIVEFUND") (zero : a.basisBps = 0) :
    a.amountMinor = 0 := by
  have amount (bps : Int) (none : bps = 0) : tenThousandth (tx.grossMinor * bps) = 0 := by
    rw [none, mul_zero]
    rfl
  simp only [allocate, calculatedRows, List.mem_cons, List.not_mem_nil, or_false] at member
  rcases member with rfl | rfl | rfl | rfl | rfl
  · exact amount _ zero
  · exact amount _ zero
  · exact amount _ zero
  · exact amount _ zero
  · exact absurd rfl rounded

/-- The amounts of the inserted rows are a fair partition exactly if the last share
covers the roundings of the others. -/
theorem allocate_fair_iff (nonneg : 0 ≤ tx.grossMinor) :
    FairPartition pol tx.grossMinor (allocate tx pol) ↔ pol.CoversRoundings tx.grossMinor := by
  have shares := allocate_shares pol nonneg
  have share_of {a : Allocation} (member : a ∈ allocate tx pol) :
      ⟨a.basisBps, a.amountMinor⟩ ∈ pol.roundedShares tx.grossMinor ++
        [Apportion.remainder 10000 tx.grossMinor (pol.roundedShares tx.grossMinor)] :=
    shares ▸ List.mem_map_of_mem member
  rw [← remainder_nonneg_iff]
  constructor
  · intro fair
    have last : Apportion.remainder 10000 tx.grossMinor (pol.roundedShares tx.grossMinor) ∈
        (allocate tx pol).map fun a => (⟨a.basisBps, a.amountMinor⟩ : Share) := by
      simp [shares]
    obtain ⟨a, member, remainder⟩ := List.mem_map.mp last
    rw [← remainder]
    exact fair.nonneg a member
  · intro covered
    refine ⟨rfl, ?_, sum_allocate tx pol, ?_, fun a => allocate_worthless⟩
    · intro a member
      rcases List.mem_append.mp (share_of member) with rounded | last
      · exact roundedShare_nonneg nonneg rounded
      · rw [← List.mem_singleton.mp last] at covered
        exact covered
    · intro a member
      rcases List.mem_append.mp (share_of member) with rounded | last
      · exact (excess_roundedShare rounded).trans_lt (by decide)
      · have bound := excess_remainder_bounds pol tx.grossMinor
        rw [← List.mem_singleton.mp last] at bound
        exact bound.trans_lt (by decide)

/-- A computation of an amount that is not negative inserts a fair partition of it exactly
if the last share is worth what the roundings of the others add. -/
theorem partitionsFairly_iff
    (ran : ctCalculateSelfFundingAllocations args t = .ok answer t')
    (found : args.transactionId.bind t.transactions.find = some tx)
    (active : activePolicy t tx = some pol) (nonneg : 0 ≤ tx.grossMinor) :
    PartitionsFairly t t' tx pol ↔ pol.CoversRoundings tx.grossMinor := by
  have inserted := calculate_ok ran found active
  rw [← allocate_fair_iff nonneg]
  constructor
  · rintro ⟨rows, also, fair⟩
    obtain rfl := List.append_cancel_left (inserted.symm.trans also)
    exact fair
  · exact fun fair => ⟨_, inserted, fair⟩

/-- Two units for the last share cover all roundings. -/
theorem coversRoundings_of_two_units {grossMinor : Int}
    (worth : 20000 ≤ grossMinor * pol.thrivefundBps) : pol.CoversRoundings grossMinor := by
  have gains := excess_remainder_bounds pol grossMinor
  rw [Apportion.excess_remainder, excess_roundedShares, abs_neg] at gains
  exact (le_abs_self _).trans (gains.trans worth)

/-! ## The policy of the contract -/

/-- The policy of 80, 10, 5, 3 and 2 percent. -/
def contractPolicy : Policy where
  policyKey := text "CT-SFE-80-10-5-3-2"
  version := text "1.0.0"
  state := text "active"
  providerBps := 8000
  hqGrowthTechBps := 1000
  regionalLeadershipBps := 500
  nationalAdBps := 300
  thrivefundBps := 200
  allocationSumCheck := by decide

/-- A transaction of some gross amount that passed both reviews. -/
def passedTransaction (grossMinor : Int) : Transaction where
  transactionId := 1
  idempotencyKey := text "simulation"
  providerRef := text "simulation:provider"
  policyKey := text "CT-SFE-80-10-5-3-2"
  grossMinor
  complianceState := some (text "pass")
  rightsState := some (text "pass")
  allocationState := text "pending"
  updatedAt := 0

def contractTables (grossMinor : Int) : Tables where
  policies := [contractPolicy]
  transactions := Table.empty.put (passedTransaction grossMinor)
  allocations := []
  events := []

def calculateFirst : Calculate where
  transactionId := some 1
  now := 1
  collates _ _ := true

/-- The computation of the allocations of some gross amount. -/
def contractRun (grossMinor : Int) : Tables × Except SqlError (List Returned) :=
  statement (ctCalculateSelfFundingAllocations calculateFirst) (contractTables grossMinor)

theorem contract_found (grossMinor : Int) :
    calculateFirst.transactionId.bind (contractTables grossMinor).transactions.find =
      some (passedTransaction grossMinor) := by
  change (contractTables grossMinor).transactions.find (passedTransaction grossMinor).transactionId
    = _
  exact Table.find_put_self

theorem partitionsFairly_iff_contract :
    ∃ answer, (contractRun 100).2 = .ok answer ∧
      (PartitionsFairly (contractTables 100) (contractRun 100).1 (passedTransaction 100)
          contractPolicy ↔ contractPolicy.CoversRoundings 100) := by
  cases answered : (contractRun 100).2 with
  | ok answer =>
      exact ⟨answer, rfl, partitionsFairly_iff (ok_of_statement answered) (contract_found 100) rfl
        (by decide)⟩
  | error failure =>
      have succeeds : (contractRun 100).2.isOk = true := by decide
      rw [answered] at succeeds
      cases succeeds

/-- Of seventeen units, the first four shares are rounded up to eighteen. -/
theorem thrivefund_negative :
    (contractRun 17).1.allocations.map Allocation.amountMinor = [14, 2, 1, 1, -1] ∧
      ¬ PartitionsFairly (contractTables 17) (contractRun 17).1 (passedTransaction 17)
        contractPolicy := by
  have amounts : (contractRun 17).1.allocations.map Allocation.amountMinor = [14, 2, 1, 1, -1] := by
    decide
  refine ⟨amounts, fun ⟨rows, inserted, fair⟩ => ?_⟩
  have negative : (-1 : Int) ∈ (contractRun 17).1.allocations.map Allocation.amountMinor := by
    simp [amounts]
  obtain ⟨a, member, amount⟩ := List.mem_map.mp negative
  have nonneg := fair.nonneg a (by simpa [inserted, kept, contractTables] using member)
  rw [amount] at nonneg
  exact absurd nonneg (by decide)

end Chlom.SelfFunding
