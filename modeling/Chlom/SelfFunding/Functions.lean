import Chlom.Library.Numeric
import Chlom.Sql

/-!
# Allocating what a transaction brought in

The active policy of a transaction divides its gross amount into five shares.  Four
are computed as decimals and rounded on their own by a cast; the fifth is what they
leave.  The rows of an earlier computation are replaced unless they are past being
computed again.  Policies stand in the order in which a query meets them, allocations
and events in the order of their insertion.
-/

namespace Chlom.SelfFunding

open Assurance (Text text Timestamp Uuid SqlError)
open Sql

/-! ## Rows -/

/-- A policy, whose shares the table checks. -/
structure Policy where
  policyKey : Text
  version : Text
  state : Text
  providerBps : Int
  hqGrowthTechBps : Int
  regionalLeadershipBps : Int
  nationalAdBps : Int
  thrivefundBps : Int
  allocationSumCheck : 0 ≤ providerBps ∧ 0 ≤ hqGrowthTechBps ∧ 0 ≤ regionalLeadershipBps ∧
    0 ≤ nationalAdBps ∧ 0 ≤ thrivefundBps ∧
    providerBps + hqGrowthTechBps + regionalLeadershipBps + nationalAdBps + thrivefundBps = 10000
  deriving DecidableEq

structure Transaction where
  transactionId : Uuid
  idempotencyKey : Text
  providerRef : Text
  policyKey : Text
  grossMinor : Int
  complianceState : Option Text
  rightsState : Option Text
  allocationState : Text
  updatedAt : Timestamp
  deriving DecidableEq

structure Allocation where
  transactionId : Uuid
  allocationCode : Text
  destinationRef : Text
  basisBps : Int
  amountMinor : Int
  state : Text
  deriving DecidableEq

structure Payload where
  policyKey : Text
  policyVersion : Text
  grossMinor : Int
  totalBps : Int
  deriving DecidableEq

structure Event where
  eventType : Text
  transactionId : Uuid
  idempotencyKey : Text
  payload : Payload
  deriving DecidableEq

structure Tables where
  policies : List Policy
  transactions : Table Transaction.transactionId
  allocations : List Allocation
  events : List Event

/-! ## Arithmetic -/

variable {σ : Type}

/-- Add numbers from left to right, each sum within the range of the type. -/
def addAll (fits : Int → Sql σ Unit) (first : Int) : List Int → Sql σ Int
  | [] => pure first
  | next :: rest => do
      fits (first + next)
      addAll fits (first + next) rest

/-- Subtract numbers from left to right, each difference within the range of the type. -/
def subtractAll (fits : Int → Sql σ Unit) (first : Int) (rest : List Int) : Sql σ Int :=
  addAll fits first (rest.map Neg.neg)

/-- A decimal quotient by ten thousand, cast to a whole number. -/
def tenThousandth (product : Int) : Int :=
  product.sign * Numeric.divWhole product.natAbs 10000

/-- The share of some basis points of an amount. -/
def shareOf (grossMinor basisBps : Int) : Sql σ Int := do
  let amount := tenThousandth (grossMinor * basisBps)
  fitsBigint amount
  pure amount

/-! ## The function -/

/-- The arguments of a computation, and the order that the database gives to texts. -/
structure Calculate where
  transactionId : Option Uuid
  now : Timestamp
  collates : Text → Text → Bool

structure Returned where
  allocationCode : Text
  basisBps : Int
  amountMinor : Int
  deriving DecidableEq

def activePolicy (t : Tables) (tx : Transaction) : Option Policy :=
  t.policies.find? fun pol => pol.policyKey = tx.policyKey ∧ pol.state = text "active"

/-- A state that is not known to differ from a pass. -/
def Passes (state : Option Text) : Prop :=
  ∀ value ∈ state, value = text "pass"

instance (state : Option Text) : Decidable (Passes state) :=
  inferInstanceAs (Decidable (∀ value ∈ state, _))

/-- The row may be computed again. -/
def Allocation.Recomputable (a : Allocation) : Prop :=
  a.state = text "calculated" ∨ a.state = text "hold" ∨ a.state = text "failed"

instance (a : Allocation) : Decidable a.Recomputable :=
  inferInstanceAs (Decidable (_ ∨ _ ∨ _))

/-- The allocations that a computation leaves in place. -/
def kept (transactionId : Uuid) (allocations : List Allocation) : List Allocation :=
  allocations.filter fun a => ¬ (a.transactionId = transactionId ∧ a.Recomputable)

def returned (args : Calculate) (transactionId : Uuid) (allocations : List Allocation) :
    List Returned :=
  ((allocations.filter fun a => a.transactionId = transactionId).map fun a =>
    ⟨a.allocationCode, a.basisBps, a.amountMinor⟩).mergeSort fun a b =>
      args.collates a.allocationCode b.allocationCode

/-- The row of a share that was just computed. -/
def calculated (tx : Transaction) (code destinationRef : Text) (basisBps amountMinor : Int) :
    Allocation where
  transactionId := tx.transactionId
  allocationCode := code
  destinationRef
  basisBps
  amountMinor
  state := text "calculated"

/-- The rows of the shares of a policy, with their amounts. -/
def calculatedRows (tx : Transaction) (pol : Policy)
    (providerAmt hqAmt regionalAmt adAmt impactAmt : Int) : List Allocation :=
  [calculated tx (text "PROVIDER") tx.providerRef pol.providerBps providerAmt,
    calculated tx (text "HQ_GROWTH_TECH") (text "hq_growth_technology") pol.hqGrowthTechBps hqAmt,
    calculated tx (text "REGIONAL_LEADERSHIP") (text "regional_leadership")
      pol.regionalLeadershipBps regionalAmt,
    calculated tx (text "NATIONAL_AD") (text "national_ad_fund") pol.nationalAdBps adAmt,
    calculated tx (text "THRIVEFUND") (text "thrivefund") pol.thrivefundBps impactAmt]

def ctCalculateSelfFundingAllocations (args : Calculate) : Sql Tables (List Returned) := do
  let t ← Dispatch.read id
  let tx ← demand (args.transactionId.bind t.transactions.find) "transaction_not_found"
  let pol ← demand (activePolicy t tx) "active_policy_not_found"
  let totalBps ← addAll fitsInteger pol.providerBps
    [pol.hqGrowthTechBps, pol.regionalLeadershipBps, pol.nationalAdBps, pol.thrivefundBps]
  require (totalBps = 10000) "policy_allocation_must_equal_10000_bps"
  require (Passes tx.complianceState ∧ Passes tx.rightsState) "transaction_not_eligible"
  let providerAmt ← shareOf tx.grossMinor pol.providerBps
  let hqAmt ← shareOf tx.grossMinor pol.hqGrowthTechBps
  let regionalAmt ← shareOf tx.grossMinor pol.regionalLeadershipBps
  let adAmt ← shareOf tx.grossMinor pol.nationalAdBps
  let impactAmt ← subtractAll fitsBigint tx.grossMinor [providerAmt, hqAmt, regionalAmt, adAmt]
  let total ← addAll fitsBigint providerAmt [hqAmt, regionalAmt, adAmt, impactAmt]
  require (total = tx.grossMinor) "allocation_total_mismatch"
  Dispatch.write fun t =>
    { t with
      allocations := kept tx.transactionId t.allocations ++
        calculatedRows tx pol providerAmt hqAmt regionalAmt adAmt impactAmt
      transactions := t.transactions.put
        { tx with allocationState := text "calculated", updatedAt := args.now }
      events := t.events ++
        [⟨text "allocation.calculated", tx.transactionId, tx.idempotencyKey,
          pol.policyKey, pol.version, tx.grossMinor, totalBps⟩] }
  let t ← Dispatch.read id
  pure (returned args tx.transactionId t.allocations)

end Chlom.SelfFunding
