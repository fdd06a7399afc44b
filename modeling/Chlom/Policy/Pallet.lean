import Chlom.Frame
import Chlom.Library.Checked
import Chlom.Library.StorageMap
import Chlom.Library.VersionTable
import Chlom.Primitives

/-!
# The policy pallet: approved policy commitments

A privileged origin approves dated policy versions for a scope and revokes them.
The registry stores commitments only; it interprets no policy.
-/

namespace Chlom.Policy

open Chlom.Frame

structure PolicyScope where
  tenantId : Id32
  jurisdictionId : Id32
  purposeId : Id32
  deriving DecidableEq

structure PolicyVersion (BlockNumber : Type) where
  scope : PolicyScope
  version : U32
  policyHash : Id32
  effectiveFrom : BlockNumber
  effectiveUntil : BlockNumber
  approvalHash : Id32
  evidenceHash : Id32
  recordedAt : BlockNumber
  deriving DecidableEq

instance {BlockNumber : Type} : DatedTerms (PolicyVersion BlockNumber) BlockNumber where
  effectiveFrom := PolicyVersion.effectiveFrom
  effectiveUntil := PolicyVersion.effectiveUntil
  recordedAt := PolicyVersion.recordedAt

structure Revocation (BlockNumber : Type) where
  approvalHash : Id32
  reasonHash : Id32
  revokedAt : BlockNumber
  deriving DecidableEq

/-- The pallet's constant, and the host's BLAKE2-256. -/
structure Config where
  maxVersionsPerScope : U32
  blake2_256 : List UInt8 → Id32

inductive Event where
  | policyApproved (scopeId : Id32) (version : U32) (policyHash approvalHash : Id32)
  | policyRevoked (scopeId : Id32) (version : U32) (reasonHash : Id32)
  deriving DecidableEq

inductive Error where
  | invalidIdentifier | invalidInterval | versionOutOfSequence | versionConflict | versionLimit
  | effectiveTimeRegression | policyMissing | alreadyRevoked
  deriving DecidableEq, Repr

/-- The pallet's storage together with the events deposited so far. -/
structure Storage (T : Config) (BlockNumber : Type) where
  versions : StorageMap (Id32 × U32) (PolicyVersion BlockNumber)
  versionIndex : StorageMap Id32 (BoundedVec U32 T.maxVersionsPerScope.toNat)
  revocations : StorageMap (Id32 × U32) (Revocation BlockNumber)
  events : List Event

def Storage.empty (T : Config) (BlockNumber : Type) : Storage T BlockNumber where
  versions := .empty
  versionIndex := .empty
  revocations := .empty
  events := []

instance : Encode PolicyScope :=
  .ofInjective (fun scope => (scope.tenantId, scope.jurisdictionId, scope.purposeId)) (by
    rintro ⟨⟩ ⟨⟩ equal
    simpa using equal)

/-- The domain-separated hash of a scope. -/
def scopeId (T : Config) (scope : PolicyScope) : Id32 :=
  T.blake2_256 (asciiBytes "CHLOM:policy-scope:v1" ++ Encode.encode scope)

section Calls

variable {T : Config} {AccountId BlockNumber : Type}

/-- The approved versions filed under one scope identifier. -/
def Storage.policyTable (s : Storage T BlockNumber) (scopeId : Id32) :
    VersionTable 32 (PolicyVersion BlockNumber) BlockNumber where
  index := (s.versionIndex.getD scopeId .empty).toList
  terms version := s.versions.get (scopeId, version)
  revokedAt version := (s.revocations.get (scopeId, version)).map Revocation.revokedAt

/-- The policy in force for a scope at a block: the scan of the scope's index
from the newest version. -/
def activePolicy [LinearOrder BlockNumber] (s : Storage T BlockNumber) (scope : PolicyScope)
    (block : BlockNumber) : Option (PolicyVersion BlockNumber) :=
  ((s.policyTable (scopeId T scope)).active block).map Prod.snd

/-- The body of a policy call. -/
abbrev Body (T : Config) (BlockNumber α : Type) :=
  Dispatch (Storage T BlockNumber) (DispatchError Error) α

def depositEvent (event : Event) : Body T BlockNumber Unit :=
  .write fun s => { s with events := s.events ++ [event] }

variable [LinearOrder BlockNumber]

def approveVersion (env : Env AccountId BlockNumber) (origin : RawOrigin AccountId)
    (scope : PolicyScope) (version : U32) (policyHash : Id32)
    (effectiveFrom effectiveUntil : BlockNumber) (approvalHash evidenceHash : Id32) :
    Body T BlockNumber Unit := do
  ensureOrigin env origin
  ensure (scope.tenantId ≠ ZERO_ID ∧ scope.jurisdictionId ≠ ZERO_ID ∧ scope.purposeId ≠ ZERO_ID ∧
    policyHash ≠ ZERO_ID ∧ approvalHash ≠ ZERO_ID ∧ evidenceHash ≠ ZERO_ID)
    Error.invalidIdentifier
  let scopeId := scopeId T scope
  -- an exact retry is accepted even after its effective date
  match ← Dispatch.read fun s => s.versions.get (scopeId, version) with
  | some existing =>
      ensure (existing.scope = scope ∧ existing.policyHash = policyHash ∧
        existing.effectiveFrom = effectiveFrom ∧ existing.effectiveUntil = effectiveUntil ∧
        existing.approvalHash = approvalHash ∧ existing.evidenceHash = evidenceHash)
        Error.versionConflict
  | none => do
      let now := env.blockNumber
      ensure (now ≤ effectiveFrom ∧ effectiveFrom < effectiveUntil) Error.invalidInterval
      let index ← Dispatch.read fun s => s.versionIndex.getD scopeId .empty
      let previous := index.toList.getLast?.getD 0
      ensure (Checked.add previous 1 = some version) Error.versionOutOfSequence
      Dispatch.onlyIf (previous ≠ 0) do
        let prior ← okOr (← Dispatch.read fun s => s.versions.get (scopeId, previous))
          Error.policyMissing
        ensure (prior.effectiveFrom ≤ effectiveFrom) Error.effectiveTimeRegression
      let index ← okOr (index.tryPush version) Error.versionLimit
      Dispatch.write fun s => { s with
        versions := s.versions.insert (scopeId, version)
          { scope, version, policyHash, effectiveFrom, effectiveUntil, approvalHash, evidenceHash,
            recordedAt := now } }
      Dispatch.write fun s => { s with versionIndex := s.versionIndex.insert scopeId index }
      depositEvent (.policyApproved scopeId version policyHash approvalHash)

def revokeVersion (env : Env AccountId BlockNumber) (origin : RawOrigin AccountId)
    (scopeId : Id32) (version : U32) (approvalHash reasonHash : Id32) :
    Body T BlockNumber Unit := do
  ensureOrigin env origin
  ensure (approvalHash ≠ ZERO_ID ∧ reasonHash ≠ ZERO_ID) Error.invalidIdentifier
  ensure (← Dispatch.read fun s => s.versions.get (scopeId, version)).isSome Error.policyMissing
  match ← Dispatch.read fun s => s.revocations.get (scopeId, version) with
  | some prior =>
      ensure (prior.approvalHash = approvalHash ∧ prior.reasonHash = reasonHash)
        Error.alreadyRevoked
  | none => do
      Dispatch.write fun s => { s with
        revocations := s.revocations.insert (scopeId, version)
          { approvalHash, reasonHash, revokedAt := env.blockNumber } }
      depositEvent (.policyRevoked scopeId version reasonHash)

inductive Call (BlockNumber : Type) where
  | approveVersion (scope : PolicyScope) (version : U32) (policyHash : Id32)
      (effectiveFrom effectiveUntil : BlockNumber) (approvalHash evidenceHash : Id32)
  | revokeVersion (scopeId : Id32) (version : U32) (approvalHash reasonHash : Id32)

/-- The body of each call of the pallet. -/
def pallet (T : Config) :
    Pallet AccountId BlockNumber (Storage T BlockNumber) Error (Call BlockNumber) :=
  fun env origin call => match call with
    | .approveVersion scope version policyHash effectiveFrom effectiveUntil approvalHash
        evidenceHash =>
        approveVersion env origin scope version policyHash effectiveFrom effectiveUntil
          approvalHash evidenceHash
    | .revokeVersion scopeId version approvalHash reasonHash =>
        revokeVersion env origin scopeId version approvalHash reasonHash

/-- The chain after a list of inputs from empty storage at a genesis block. -/
abbrev run (T : Config) (genesis : BlockNumber)
    (inputs : List (Input AccountId BlockNumber (Call BlockNumber))) :
    World BlockNumber (Storage T BlockNumber) :=
  Frame.run (pallet T) ⟨genesis, .empty T BlockNumber⟩ inputs

end Calls

end Chlom.Policy
