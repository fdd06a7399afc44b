import Chlom.Frame
import Chlom.Library.StorageMap
import Chlom.Primitives

/-!
# The settlement pallet: revenue policies and previews

A revenue policy splits an amount among its legs by basis points.  A preview
commits to the amounts of one split by their hash; no money moves.
-/

namespace Chlom.Settlement

open Chlom.Frame

structure SplitLeg where
  legId : Id32
  beneficiarySubjectId : Id32
  allocationRole : Id32
  basisPoints : BasisPoints
  conditionsHash : Id32
  deriving DecidableEq

/-- The pallet's constant, and the host's BLAKE2-256. -/
structure Config where
  maxLegs : U32
  blake2_256 : List UInt8 → Id32

structure RevenuePolicy (T : Config) where
  calculationBasis : Id32
  currencyId : Id32
  legalTaxReviewHash : Id32
  moneyMovementAuthorized : Bool
  legs : BoundedVec SplitLeg T.maxLegs.toNat
  recordHash : Id32

/-- What a caller supplies of a preview. -/
structure PreviewDetails where
  policyId : Id32
  sourceObjectId : Id32
  grossAmount : U128
  currencyId : Id32
  recordHash : Id32
  deriving DecidableEq

structure SettlementPreview extends PreviewDetails where
  allocationRoot : Id32
  moneyMoved : Bool
  deriving DecidableEq

inductive Event where
  | revenuePolicyRecorded (policyId : Id32) (legCount : U32) (recordHash : Id32)
  | settlementPreviewCalculated (previewId policyId : Id32) (grossAmount : U128)
      (currencyId allocationRoot : Id32) (moneyMoved : Bool)
  deriving DecidableEq

inductive Error where
  | invalidIdentifier | policyAlreadyExists | previewAlreadyExists | emptyPolicy
  | unbalancedPolicy | moneyMovementForbidden | policyMissing | currencyMismatch
  | arithmeticFailure
  deriving DecidableEq, Repr

/-- The pallet's storage together with the events deposited so far. -/
structure Storage (T : Config) where
  revenuePolicies : StorageMap Id32 (RevenuePolicy T)
  settlementPreviews : StorageMap Id32 SettlementPreview
  events : List Event

def Storage.empty (T : Config) : Storage T where
  revenuePolicies := .empty
  settlementPreviews := .empty
  events := []

section Calls

variable {T : Config} {AccountId BlockNumber : Type}

/-- The body of a settlement call. -/
abbrev Body (T : Config) (α : Type) :=
  Dispatch (Storage T) (DispatchError Error) α

def depositEvent (event : Event) : Body T Unit :=
  .write fun s => { s with events := s.events ++ [event] }

/-- The loop over the legs of a policy, which checks each leg and adds up the
basis points. -/
def checkLegs : U32 → List SplitLeg → Body T U32
  | total, [] => pure total
  | total, leg :: rest => do
      ensure (leg.legId ≠ ZERO_ID ∧ leg.beneficiarySubjectId ≠ ZERO_ID ∧
        leg.allocationRole ≠ ZERO_ID) Error.invalidIdentifier
      checkLegs (Checked.saturatingAdd total (leg.basisPoints.setWidth 32)) rest

/-- The origin is the one configured for settlement. -/
def recordRevenuePolicy (env : Env AccountId BlockNumber) (origin : RawOrigin AccountId)
    (policyId : Id32) (policy : RevenuePolicy T) : Body T Unit := do
  ensureOrigin env origin
  ensure (policyId ≠ ZERO_ID ∧ policy.calculationBasis ≠ ZERO_ID ∧
    policy.currencyId ≠ ZERO_ID ∧ policy.legalTaxReviewHash ≠ ZERO_ID ∧
    policy.recordHash ≠ ZERO_ID) Error.invalidIdentifier
  ensure (← Dispatch.read fun s => s.revenuePolicies.get policyId).isNone
    Error.policyAlreadyExists
  ensure (policy.legs.toList ≠ []) Error.emptyPolicy
  ensure (¬ policy.moneyMovementAuthorized) Error.moneyMovementForbidden
  let total ← checkLegs 0 policy.legs.toList
  ensure (total = FULL_BASIS_POINTS) Error.unbalancedPolicy
  let legCount := BitVec.ofNat 32 policy.legs.toList.length
  Dispatch.write fun s => { s with
    revenuePolicies := s.revenuePolicies.insert policyId policy }
  depositEvent (.revenuePolicyRecorded policyId legCount policy.recordHash)

/-- The bytes an allocation root commits to. -/
def allocationPreimage (details : PreviewDetails) (allocations : List U128) : List UInt8 :=
  Encode.encode
      (details.policyId, details.sourceObjectId, details.grossAmount, details.currencyId) ++
    Encode.vector allocations

/-- The origin is the one configured for settlement. -/
def previewSettlement (env : Env AccountId BlockNumber) (origin : RawOrigin AccountId)
    (previewId : Id32) (details : PreviewDetails) : Body T Unit := do
  ensureOrigin env origin
  ensure (previewId ≠ ZERO_ID ∧ details.policyId ≠ ZERO_ID ∧
    details.sourceObjectId ≠ ZERO_ID ∧ details.currencyId ≠ ZERO_ID ∧
    details.recordHash ≠ ZERO_ID) Error.invalidIdentifier
  ensure (← Dispatch.read fun s => s.settlementPreviews.get previewId).isNone
    Error.previewAlreadyExists
  let policy ← okOr (← Dispatch.read fun s => s.revenuePolicies.get details.policyId)
    Error.policyMissing
  ensure (policy.currencyId = details.currencyId) Error.currencyMismatch
  ensure (¬ policy.moneyMovementAuthorized) Error.moneyMovementForbidden
  let basisPoints := policy.legs.toList.map SplitLeg.basisPoints
  let allocations ← okOr (splitByBasisPoints details.grossAmount basisPoints)
    Error.arithmeticFailure
  let allocationRoot := T.blake2_256 (allocationPreimage details allocations)
  Dispatch.write fun s => { s with
    settlementPreviews := s.settlementPreviews.insert previewId
      { details with allocationRoot, moneyMoved := false } }
  depositEvent (.settlementPreviewCalculated previewId details.policyId details.grossAmount
    details.currencyId allocationRoot false)

inductive Call (T : Config) where
  | recordRevenuePolicy (policyId : Id32) (policy : RevenuePolicy T)
  | previewSettlement (previewId : Id32) (details : PreviewDetails)

/-- The body of each call of the pallet. -/
def pallet (T : Config) : Pallet AccountId BlockNumber (Storage T) Error (Call T) :=
  fun env origin call => match call with
    | .recordRevenuePolicy policyId policy => recordRevenuePolicy env origin policyId policy
    | .previewSettlement previewId details => previewSettlement env origin previewId details

end Calls

end Chlom.Settlement
