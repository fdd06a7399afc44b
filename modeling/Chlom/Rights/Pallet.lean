import Chlom.Frame
import Chlom.Library.Checked
import Chlom.Library.StorageMap
import Chlom.Primitives

/-!
# The rights pallet: ownership interests and rights instruments

Records are written once by a privileged origin.  A record may supersede one
earlier record of the same asset, which thereby stops being current.  The
arguments of a call are an identifier and the fields of the record.
-/

namespace Chlom.Rights

open Chlom.Frame

structure OwnershipInterest where
  assetId : Id32
  assetVersionHash : Id32
  holderSubjectId : Id32
  interestType : Id32
  shareBasisPoints : BasisPoints
  state : RecordState
  authorityClass : AuthorityClass
  basisInstrumentHash : Option Id32
  supersedesInterestId : Option Id32
  evidenceHash : Id32
  recordHash : Id32
  deriving DecidableEq

structure RightsInstrument (BlockNumber : Type) where
  assetId : Id32
  assetVersionHash : Id32
  grantorSubjectId : Id32
  granteeSubjectId : Id32
  instrumentType : Id32
  rightsScopeHash : Id32
  excludedScopeHash : Id32
  territoryScopeHash : Id32
  channelScopeHash : Id32
  exclusive : Bool
  transferable : Bool
  sublicensable : Bool
  commercialUse : Bool
  validFrom : Option BlockNumber
  validUntil : Option BlockNumber
  royaltyPolicyId : Option Id32
  state : RecordState
  authorityClass : AuthorityClass
  governingInstrumentHash : Option Id32
  supersedesInstrumentId : Option Id32
  evidenceHash : Id32
  termsHash : Id32
  recordHash : Id32
  deriving DecidableEq

inductive Event where
  | ownershipInterestRecorded (interestId assetId holderSubjectId : Id32) (state : RecordState)
      (recordHash : Id32)
  | rightsInstrumentRecorded (instrumentId assetId grantorSubjectId granteeSubjectId : Id32)
      (state : RecordState) (recordHash : Id32)
  deriving DecidableEq

inductive Error where
  | invalidIdentifier | invalidShare | recordAlreadyExists | supersededRecordMissing
  | supersededRecordMismatch | recordAlreadySuperseded | contractualStateRequiresD3
  | contractualStateRequiresGoverningInstrument | invalidTerm
  deriving DecidableEq, Repr

/-- The pallet's storage together with the events deposited so far. -/
structure Storage (BlockNumber : Type) where
  ownershipInterests : StorageMap Id32 OwnershipInterest
  ownershipSupersededBy : StorageMap Id32 Id32
  rightsInstruments : StorageMap Id32 (RightsInstrument BlockNumber)
  rightsSupersededBy : StorageMap Id32 Id32
  events : List Event

def Storage.empty (BlockNumber : Type) : Storage BlockNumber where
  ownershipInterests := .empty
  ownershipSupersededBy := .empty
  rightsInstruments := .empty
  rightsSupersededBy := .empty
  events := []

section Calls

variable {AccountId BlockNumber : Type}

/-- The body of a rights call. -/
abbrev Body (BlockNumber α : Type) :=
  Dispatch (Storage BlockNumber) (DispatchError Error) α

def depositEvent (event : Event) : Body BlockNumber Unit :=
  .write fun s => { s with events := s.events ++ [event] }

def recordOwnershipInterest (env : Env AccountId BlockNumber) (origin : RawOrigin AccountId)
    (interestId : Id32) (value : OwnershipInterest) : Body BlockNumber Unit := do
  ensureOrigin env origin
  ensure (interestId ≠ ZERO_ID ∧ value.assetId ≠ ZERO_ID ∧ value.assetVersionHash ≠ ZERO_ID ∧
    value.holderSubjectId ≠ ZERO_ID ∧ value.interestType ≠ ZERO_ID ∧
    value.evidenceHash ≠ ZERO_ID ∧ value.recordHash ≠ ZERO_ID) Error.invalidIdentifier
  ensure (0 < value.shareBasisPoints ∧ value.shareBasisPoints.setWidth 32 ≤ FULL_BASIS_POINTS)
    Error.invalidShare
  ensure (← Dispatch.read fun s => s.ownershipInterests.get interestId).isNone
    Error.recordAlreadyExists
  Dispatch.onlyIf value.state.Contractual do
    ensure (value.authorityClass.permits .d3) Error.contractualStateRequiresD3
    ensure (value.basisInstrumentHash.any (· ≠ ZERO_ID))
      Error.contractualStateRequiresGoverningInstrument
  Dispatch.ifSome value.supersedesInterestId fun priorId => do
    let prior ← okOr (← Dispatch.read fun s => s.ownershipInterests.get priorId)
      Error.supersededRecordMissing
    ensure (prior.assetId = value.assetId) Error.supersededRecordMismatch
    ensure (← Dispatch.read fun s => s.ownershipSupersededBy.get priorId).isNone
      Error.recordAlreadySuperseded
    Dispatch.write fun s => { s with
      ownershipSupersededBy := s.ownershipSupersededBy.insert priorId interestId }
  Dispatch.write fun s => { s with
    ownershipInterests := s.ownershipInterests.insert interestId value }
  depositEvent (.ownershipInterestRecorded interestId value.assetId value.holderSubjectId
    value.state value.recordHash)

variable [LinearOrder BlockNumber]

/-- Whether a term with two ends ends before it starts. -/
def invertedTerm : Option BlockNumber → Option BlockNumber → Bool
  | some start, some finish => finish < start
  | _, _ => false

def recordRightsInstrument (env : Env AccountId BlockNumber) (origin : RawOrigin AccountId)
    (instrumentId : Id32) (value : RightsInstrument BlockNumber) : Body BlockNumber Unit := do
  ensureOrigin env origin
  ensure (instrumentId ≠ ZERO_ID ∧ value.assetId ≠ ZERO_ID ∧ value.assetVersionHash ≠ ZERO_ID ∧
    value.grantorSubjectId ≠ ZERO_ID ∧ value.granteeSubjectId ≠ ZERO_ID ∧
    value.instrumentType ≠ ZERO_ID ∧ value.rightsScopeHash ≠ ZERO_ID ∧
    value.evidenceHash ≠ ZERO_ID ∧ value.termsHash ≠ ZERO_ID ∧ value.recordHash ≠ ZERO_ID)
    Error.invalidIdentifier
  ensure (← Dispatch.read fun s => s.rightsInstruments.get instrumentId).isNone
    Error.recordAlreadyExists
  ensure (¬ invertedTerm value.validFrom value.validUntil) Error.invalidTerm
  Dispatch.onlyIf value.state.Contractual do
    ensure (value.authorityClass.permits .d3) Error.contractualStateRequiresD3
    ensure (value.governingInstrumentHash.any (· ≠ ZERO_ID))
      Error.contractualStateRequiresGoverningInstrument
  Dispatch.ifSome value.supersedesInstrumentId fun priorId => do
    let prior ← okOr (← Dispatch.read fun s => s.rightsInstruments.get priorId)
      Error.supersededRecordMissing
    ensure (prior.assetId = value.assetId) Error.supersededRecordMismatch
    ensure (← Dispatch.read fun s => s.rightsSupersededBy.get priorId).isNone
      Error.recordAlreadySuperseded
    Dispatch.write fun s => { s with
      rightsSupersededBy := s.rightsSupersededBy.insert priorId instrumentId }
  Dispatch.write fun s => { s with
    rightsInstruments := s.rightsInstruments.insert instrumentId value }
  depositEvent (.rightsInstrumentRecorded instrumentId value.assetId value.grantorSubjectId
    value.granteeSubjectId value.state value.recordHash)

inductive Call (BlockNumber : Type) where
  | recordOwnershipInterest (interestId : Id32) (value : OwnershipInterest)
  | recordRightsInstrument (instrumentId : Id32) (value : RightsInstrument BlockNumber)

/-- The body of each call of the pallet. -/
def pallet : Pallet AccountId BlockNumber (Storage BlockNumber) Error (Call BlockNumber) :=
  fun env origin call => match call with
    | .recordOwnershipInterest interestId value =>
        recordOwnershipInterest env origin interestId value
    | .recordRightsInstrument instrumentId value =>
        recordRightsInstrument env origin instrumentId value

end Calls

end Chlom.Rights
