import Chlom.Frame
import Chlom.Library.Checked
import Chlom.Library.StorageMap
import Chlom.Primitives

/-!
# The licensing pallet: DLAs, licenses, offers and entitlements

Four families of versioned records, each with a head per identifier.  A DLA
binds a rights instrument, which the pallet looks up through a verifier; a
license stands on a DLA and an entitlement on a license.  The arguments of a
call are an identifier and the fields of the new version.
-/

namespace Chlom.Licensing

open Chlom.Frame

/-- What the pallet learns about a source rights instrument. -/
structure RightsReference (BlockNumber : Type) where
  assetId : Id32
  assetVersionHash : Id32
  state : RecordState
  validFrom : Option BlockNumber
  validUntil : Option BlockNumber
  superseded : Bool
  deriving DecidableEq

/-- The configured source rights lookup. -/
abbrev RightsVerifier (BlockNumber : Type) := Id32 → Option (RightsReference BlockNumber)

structure DlaVersion where
  version : U32
  assetId : Id32
  assetVersionHash : Id32
  rightsInstrumentId : Id32
  rightsState : RecordState
  evidenceReadinessHash : Id32
  policyBindingHash : Id32
  offerability : DlaState
  tokenizationState : RecordState
  previousRecordHash : Option Id32
  recordHash : Id32
  deriving DecidableEq

structure LicenseVersion (BlockNumber : Type) where
  version : U32
  dlaId : Id32
  licenseType : Id32
  issuerSubjectId : Id32
  holderSubjectId : Id32
  jurisdictionScopeHash : Id32
  termsHash : Id32
  expiresAt : Option BlockNumber
  status : LicenseStatus
  transferable : Bool
  previousRecordHash : Option Id32
  recordHash : Id32
  deriving DecidableEq

structure LexOfferVersion (BlockNumber : Type) where
  version : U32
  dlaId : Id32
  licenseTemplateHash : Id32
  licensorSubjectId : Id32
  offeredScopeHash : Id32
  excludedScopeHash : Id32
  price : U128
  currencyId : Id32
  state : OfferState
  providerActivationVerified : Bool
  validUntil : Option BlockNumber
  previousRecordHash : Option Id32
  recordHash : Id32
  deriving DecidableEq

structure EntitlementVersion (BlockNumber : Type) where
  version : U32
  licenseId : Id32
  holderSubjectId : Id32
  grantedScopeHash : Id32
  obligationsHash : Id32
  state : RecordState
  validUntil : Option BlockNumber
  previousRecordHash : Option Id32
  recordHash : Id32
  deriving DecidableEq

inductive Event where
  | dlaVersionRecorded (dlaId : Id32) (version : U32) (assetId : Id32) (offerability : DlaState)
      (recordHash : Id32)
  | licenseVersionRecorded (licenseId : Id32) (version : U32) (holderSubjectId : Id32)
      (status : LicenseStatus) (recordHash : Id32)
  | lexOfferVersionRecorded (offerId : Id32) (version : U32) (dlaId : Id32) (state : OfferState)
      (recordHash : Id32)
  | entitlementVersionRecorded (entitlementId : Id32) (version : U32)
      (licenseId holderSubjectId : Id32) (state : RecordState) (recordHash : Id32)
  deriving DecidableEq

inductive Error where
  | invalidIdentifier | invalidVersion | previousHashMismatch | versionAlreadyExists | dlaMissing
  | dlaNotEligible | rightsNotReady | licenseMissing | licenseNotActive | invalidStatusTransition
  | offerNotEligible | publicOfferRequiresProviderReadback | invalidTerm
  | rightsInstrumentMissing | rightsBindingMismatch | recordBindingMismatch | transferForbidden
  | entitlementHolderMismatch
  deriving DecidableEq, Repr

/-- The pallet's storage together with the events deposited so far. -/
structure Storage (BlockNumber : Type) where
  dlaHeads : StorageMap Id32 U32
  dlaVersions : StorageMap (Id32 × U32) DlaVersion
  licenseHeads : StorageMap Id32 U32
  licenseVersions : StorageMap (Id32 × U32) (LicenseVersion BlockNumber)
  offerHeads : StorageMap Id32 U32
  offerVersions : StorageMap (Id32 × U32) (LexOfferVersion BlockNumber)
  entitlementHeads : StorageMap Id32 U32
  entitlementVersions : StorageMap (Id32 × U32) (EntitlementVersion BlockNumber)
  events : List Event

def Storage.empty (BlockNumber : Type) : Storage BlockNumber where
  dlaHeads := .empty
  dlaVersions := .empty
  licenseHeads := .empty
  licenseVersions := .empty
  offerHeads := .empty
  offerVersions := .empty
  entitlementHeads := .empty
  entitlementVersions := .empty
  events := []

variable {AccountId BlockNumber : Type}

/-! ## Lookups -/

section Lookups

def currentDla (s : Storage BlockNumber) (dlaId : Id32) : Option DlaVersion :=
  (s.dlaHeads.get dlaId).bind fun version => s.dlaVersions.get (dlaId, version)

def currentLicense (s : Storage BlockNumber) (licenseId : Id32) :
    Option (LicenseVersion BlockNumber) :=
  (s.licenseHeads.get licenseId).bind fun version => s.licenseVersions.get (licenseId, version)

/-- The head version of an offer. -/
def currentOffer (s : Storage BlockNumber) (offerId : Id32) :
    Option (LexOfferVersion BlockNumber) :=
  (s.offerHeads.get offerId).bind fun head => s.offerVersions.get (offerId, head)

/-- The head version of an entitlement. -/
def currentEntitlement (s : Storage BlockNumber) (entitlementId : Id32) :
    Option (EntitlementVersion BlockNumber) :=
  (s.entitlementHeads.get entitlementId).bind fun head =>
    s.entitlementVersions.get (entitlementId, head)

/-- From a final status a license only moves to another final one. -/
def validStatusTransition : LicenseStatus → LicenseStatus → Bool
  | .revoked, next | .expired, next | .superseded, next =>
      next = .revoked ∨ next = .expired ∨ next = .superseded
  | .suspended, next =>
      next = .suspended ∨ next = .active ∨ next = .revoked ∨ next = .expired ∨ next = .superseded
  | .pending, next =>
      next = .pending ∨ next = .active ∨ next = .suspended ∨ next = .revoked ∨ next = .expired ∨
        next = .superseded
  | .active, next =>
      next = .active ∨ next = .suspended ∨ next = .revoked ∨ next = .expired ∨ next = .superseded

variable [LinearOrder BlockNumber]

/-- Both ends of a term are inclusive. -/
def rightsCurrent (now : BlockNumber) (rights : RightsReference BlockNumber) : Bool :=
  !rights.superseded && !(rights.validFrom.any fun start => now < start) &&
    !(rights.validUntil.any fun finish => finish < now)

def dlaEligible (verifier : RightsVerifier BlockNumber) (now : BlockNumber) (dla : DlaVersion)
    (isPublic : Bool) : Bool :=
  if isPublic ∧ dla.offerability ≠ .eligiblePublic then false
  else if ¬ (dla.offerability = .eligibleInternal ∨ dla.offerability = .eligiblePublic) then false
  else
    (verifier dla.rightsInstrumentId).any fun rights =>
      rights.assetId = dla.assetId ∧ rights.assetVersionHash = dla.assetVersionHash ∧
        rights.state = dla.rightsState ∧ rightsCurrent now rights ∧
        if isPublic ∨ dla.offerability = .eligiblePublic then rights.state.Contractual
        else rights.state = .verifiedForWorkflow ∨ rights.state.Contractual

def isLicenseActive (verifier : RightsVerifier BlockNumber) (now : BlockNumber)
    (s : Storage BlockNumber) (licenseId : Id32) : Bool :=
  (currentLicense s licenseId).any fun license =>
    license.status = .active ∧ ¬ (license.expiresAt.any fun limit => limit < now) ∧
      (currentDla s license.dlaId).any fun dla => dlaEligible verifier now dla false

def isEntitlementActive (verifier : RightsVerifier BlockNumber) (now : BlockNumber)
    (s : Storage BlockNumber) (entitlementId : Id32) : Bool :=
  (currentEntitlement s entitlementId).any fun entitlement =>
    entitlement.state.Contractual ∧ ¬ (entitlement.validUntil.any fun limit => limit < now) ∧
      isLicenseActive verifier now s entitlement.licenseId ∧
      (currentLicense s entitlement.licenseId).any fun license =>
        license.holderSubjectId = entitlement.holderSubjectId

/-! ### What the lookups say -/

theorem any_lt_eq_false {limit : Option BlockNumber} {now : BlockNumber} :
    (limit.any fun finish => finish < now) = false ↔
      ∀ finish, limit = some finish → now ≤ finish := by
  cases limit <;> simp

theorem rightsCurrent_eq_true {now : BlockNumber} {rights : RightsReference BlockNumber} :
    rightsCurrent now rights = true ↔
      rights.superseded = false ∧ (∀ start, rights.validFrom = some start → start ≤ now) ∧
        ∀ finish, rights.validUntil = some finish → now ≤ finish := by
  have started : (rights.validFrom.any fun start => now < start) = false ↔
      ∀ start, rights.validFrom = some start → start ≤ now := by
    cases rights.validFrom <;> simp
  simp only [rightsCurrent, Bool.and_eq_true, Bool.not_eq_true', started, any_lt_eq_false,
    and_assoc]

theorem dlaEligible_eq_true {verifier : RightsVerifier BlockNumber} {now : BlockNumber}
    {dla : DlaVersion} {isPublic : Bool} :
    dlaEligible verifier now dla isPublic = true ↔
      (isPublic = true → dla.offerability = .eligiblePublic) ∧
        (dla.offerability = .eligibleInternal ∨ dla.offerability = .eligiblePublic) ∧
        ∃ rights, verifier dla.rightsInstrumentId = some rights ∧ rights.assetId = dla.assetId ∧
          rights.assetVersionHash = dla.assetVersionHash ∧ rights.state = dla.rightsState ∧
          rightsCurrent now rights = true ∧
          (rights.state = .verifiedForWorkflow ∨ rights.state.Contractual) ∧
          (dla.offerability = .eligiblePublic → rights.state.Contractual) := by
  unfold dlaEligible
  by_cases excluded : isPublic = true ∧ dla.offerability ≠ .eligiblePublic
  · rw [if_pos excluded]
    simp only [Bool.false_eq_true, false_iff]
    rintro ⟨published, _⟩
    exact excluded.2 (published excluded.1)
  rw [if_neg excluded]
  have published : isPublic = true → dla.offerability = .eligiblePublic := by
    intro isTrue
    by_contra different
    exact excluded ⟨isTrue, different⟩
  by_cases offered : dla.offerability = .eligibleInternal ∨ dla.offerability = .eligiblePublic
  · rw [if_neg (not_not_intro offered)]
    simp only [Option.any_eq_true, decide_eq_true_eq, offered, true_and]
    have grounds (state : RecordState) :
        (if isPublic = true ∨ dla.offerability = .eligiblePublic then state.Contractual
          else state = .verifiedForWorkflow ∨ state.Contractual) ↔
          (state = .verifiedForWorkflow ∨ state.Contractual) ∧
            (dla.offerability = .eligiblePublic → state.Contractual) := by
      by_cases outward : dla.offerability = .eligiblePublic
      · simp only [outward, or_true, if_true, true_implies]
        exact ⟨fun holds => ⟨.inr holds, holds⟩, And.right⟩
      · have internal : ¬ (isPublic = true ∨ dla.offerability = .eligiblePublic) :=
          fun either => outward (either.elim published id)
        rw [if_neg internal]
        simp only [outward, false_implies, and_true]
    simp only [grounds]
    exact (and_iff_right published).symm
  · rw [if_pos offered]
    simp [offered]

theorem isLicenseActive_eq_true {verifier : RightsVerifier BlockNumber} {now : BlockNumber}
    {s : Storage BlockNumber} {licenseId : Id32} :
    isLicenseActive verifier now s licenseId = true ↔
      ∃ license, currentLicense s licenseId = some license ∧ license.status = .active ∧
        (∀ limit, license.expiresAt = some limit → now ≤ limit) ∧
        ∃ dla, currentDla s license.dlaId = some dla ∧
          dlaEligible verifier now dla false = true := by
  simp only [isLicenseActive, Option.any_eq_true, decide_eq_true_eq, not_exists, not_and, not_lt]

theorem isEntitlementActive_eq_true {verifier : RightsVerifier BlockNumber} {now : BlockNumber}
    {s : Storage BlockNumber} {entitlementId : Id32} :
    isEntitlementActive verifier now s entitlementId = true ↔
      ∃ entitlement, currentEntitlement s entitlementId = some entitlement ∧
        entitlement.state.Contractual ∧
        (∀ limit, entitlement.validUntil = some limit → now ≤ limit) ∧
        isLicenseActive verifier now s entitlement.licenseId = true ∧
        ∃ license, currentLicense s entitlement.licenseId = some license ∧
          license.holderSubjectId = entitlement.holderSubjectId := by
  simp only [isEntitlementActive, Option.any_eq_true, decide_eq_true_eq, not_exists, not_and,
    not_lt]

end Lookups

/-! ## Calls -/

/-- The body of a licensing call. -/
abbrev Body (BlockNumber α : Type) :=
  Dispatch (Storage BlockNumber) (DispatchError Error) α

def depositEvent (event : Event) : Body BlockNumber Unit :=
  .write fun s => { s with events := s.events ++ [event] }

/-- A first version is numbered one and names no predecessor; a later one
follows the head and names its record hash.  The successor of the largest
version is itself. -/
def validateVersion (head : Option U32) (version : U32) (previousRecordHash : Option Id32)
    (priorHash : Storage BlockNumber → U32 → Option Id32) : Body BlockNumber Unit :=
  match head with
  | none => ensure (version = 1 ∧ previousRecordHash.isNone) Error.invalidVersion
  | some current => do
      ensure (version = Checked.saturatingAdd current 1) Error.invalidVersion
      ensure (previousRecordHash = (← Dispatch.read fun s => priorHash s current))
        Error.previousHashMismatch

variable [LinearOrder BlockNumber]

def recordDlaVersion (verifier : RightsVerifier BlockNumber) (env : Env AccountId BlockNumber)
    (origin : RawOrigin AccountId) (dlaId : Id32) (value : DlaVersion) :
    Body BlockNumber Unit := do
  ensureOrigin env origin
  ensure (dlaId ≠ ZERO_ID ∧ value.assetId ≠ ZERO_ID ∧ value.assetVersionHash ≠ ZERO_ID ∧
    value.rightsInstrumentId ≠ ZERO_ID ∧ value.evidenceReadinessHash ≠ ZERO_ID ∧
    value.policyBindingHash ≠ ZERO_ID ∧ value.recordHash ≠ ZERO_ID) Error.invalidIdentifier
  ensure (← Dispatch.read fun s => s.dlaVersions.get (dlaId, value.version)).isNone
    Error.versionAlreadyExists
  let rights ← okOr (verifier value.rightsInstrumentId) Error.rightsInstrumentMissing
  ensure (rights.assetId = value.assetId ∧ rights.assetVersionHash = value.assetVersionHash ∧
    rights.state = value.rightsState) Error.rightsBindingMismatch
  Dispatch.ifSome (← Dispatch.read fun s => currentDla s dlaId) fun prior =>
    ensure (prior.assetId = value.assetId) Error.recordBindingMismatch
  Dispatch.onlyIf (value.offerability = .eligibleInternal ∨ value.offerability = .eligiblePublic)
    (ensure (rightsCurrent env.blockNumber rights) Error.rightsNotReady)
  Dispatch.onlyIf (value.offerability = .eligiblePublic)
    (ensure value.rightsState.Contractual Error.rightsNotReady)
  Dispatch.onlyIf (value.offerability = .eligibleInternal)
    (ensure (value.rightsState = .verifiedForWorkflow ∨ value.rightsState.Contractual)
      Error.rightsNotReady)
  validateVersion (← Dispatch.read fun s => s.dlaHeads.get dlaId) value.version
    value.previousRecordHash
    fun s head => (s.dlaVersions.get (dlaId, head)).map DlaVersion.recordHash
  Dispatch.write fun s => { s with
    dlaVersions := s.dlaVersions.insert (dlaId, value.version) value }
  Dispatch.write fun s => { s with dlaHeads := s.dlaHeads.insert dlaId value.version }
  depositEvent (.dlaVersionRecorded dlaId value.version value.assetId value.offerability
    value.recordHash)

def recordLicenseVersion (verifier : RightsVerifier BlockNumber)
    (env : Env AccountId BlockNumber) (origin : RawOrigin AccountId) (licenseId : Id32)
    (value : LicenseVersion BlockNumber) : Body BlockNumber Unit := do
  ensureOrigin env origin
  ensure (licenseId ≠ ZERO_ID ∧ value.dlaId ≠ ZERO_ID ∧ value.licenseType ≠ ZERO_ID ∧
    value.issuerSubjectId ≠ ZERO_ID ∧ value.holderSubjectId ≠ ZERO_ID ∧
    value.jurisdictionScopeHash ≠ ZERO_ID ∧ value.termsHash ≠ ZERO_ID ∧
    value.recordHash ≠ ZERO_ID) Error.invalidIdentifier
  let dla ← okOr (← Dispatch.read fun s => currentDla s value.dlaId) Error.dlaMissing
  Dispatch.onlyIf (value.status = .active) do
    ensure (dlaEligible verifier env.blockNumber dla false) Error.dlaNotEligible
    ensure (¬ value.expiresAt.any fun limit => limit < env.blockNumber) Error.invalidTerm
  ensure (← Dispatch.read fun s => s.licenseVersions.get (licenseId, value.version)).isNone
    Error.versionAlreadyExists
  Dispatch.ifSome (← Dispatch.read fun s => currentLicense s licenseId) fun prior => do
    ensure (validStatusTransition prior.status value.status) Error.invalidStatusTransition
    ensure (prior.dlaId = value.dlaId ∧ prior.licenseType = value.licenseType ∧
      prior.issuerSubjectId = value.issuerSubjectId) Error.recordBindingMismatch
    -- a later version cannot first enable transferability to evade the restriction
    ensure (prior.transferable ∨
      (prior.holderSubjectId = value.holderSubjectId ∧ ¬ value.transferable))
      Error.transferForbidden
  validateVersion (← Dispatch.read fun s => s.licenseHeads.get licenseId) value.version
    value.previousRecordHash
    fun s head => (s.licenseVersions.get (licenseId, head)).map LicenseVersion.recordHash
  Dispatch.write fun s => { s with
    licenseVersions := s.licenseVersions.insert (licenseId, value.version) value }
  Dispatch.write fun s => { s with
    licenseHeads := s.licenseHeads.insert licenseId value.version }
  depositEvent (.licenseVersionRecorded licenseId value.version value.holderSubjectId value.status
    value.recordHash)

def recordLexOfferVersion (verifier : RightsVerifier BlockNumber)
    (env : Env AccountId BlockNumber) (origin : RawOrigin AccountId) (offerId : Id32)
    (value : LexOfferVersion BlockNumber) : Body BlockNumber Unit := do
  ensureOrigin env origin
  ensure (offerId ≠ ZERO_ID ∧ value.dlaId ≠ ZERO_ID ∧ value.licenseTemplateHash ≠ ZERO_ID ∧
    value.licensorSubjectId ≠ ZERO_ID ∧ value.offeredScopeHash ≠ ZERO_ID ∧
    value.currencyId ≠ ZERO_ID ∧ value.recordHash ≠ ZERO_ID) Error.invalidIdentifier
  let dla ← okOr (← Dispatch.read fun s => currentDla s value.dlaId) Error.dlaMissing
  Dispatch.onlyIf (value.state = .published) do
    ensure (dlaEligible verifier env.blockNumber dla true) Error.offerNotEligible
    ensure value.providerActivationVerified Error.publicOfferRequiresProviderReadback
  Dispatch.onlyIf (value.state = .stagedInternal)
    (ensure (dlaEligible verifier env.blockNumber dla false) Error.offerNotEligible)
  ensure (¬ value.validUntil.any fun limit => limit < env.blockNumber) Error.invalidTerm
  ensure (← Dispatch.read fun s => s.offerVersions.get (offerId, value.version)).isNone
    Error.versionAlreadyExists
  Dispatch.ifSome (← Dispatch.read fun s => currentOffer s offerId) fun prior =>
    ensure (prior.dlaId = value.dlaId ∧ prior.licensorSubjectId = value.licensorSubjectId)
      Error.recordBindingMismatch
  validateVersion (← Dispatch.read fun s => s.offerHeads.get offerId) value.version
    value.previousRecordHash
    fun s head => (s.offerVersions.get (offerId, head)).map LexOfferVersion.recordHash
  Dispatch.write fun s => { s with
    offerVersions := s.offerVersions.insert (offerId, value.version) value }
  Dispatch.write fun s => { s with offerHeads := s.offerHeads.insert offerId value.version }
  depositEvent (.lexOfferVersionRecorded offerId value.version value.dlaId value.state
    value.recordHash)

def recordEntitlementVersion (verifier : RightsVerifier BlockNumber)
    (env : Env AccountId BlockNumber) (origin : RawOrigin AccountId) (entitlementId : Id32)
    (value : EntitlementVersion BlockNumber) : Body BlockNumber Unit := do
  ensureOrigin env origin
  ensure (entitlementId ≠ ZERO_ID ∧ value.licenseId ≠ ZERO_ID ∧
    value.holderSubjectId ≠ ZERO_ID ∧ value.grantedScopeHash ≠ ZERO_ID ∧
    value.obligationsHash ≠ ZERO_ID ∧ value.recordHash ≠ ZERO_ID) Error.invalidIdentifier
  let license ← okOr (← Dispatch.read fun s => currentLicense s value.licenseId)
    Error.licenseMissing
  ensure (license.holderSubjectId = value.holderSubjectId) Error.entitlementHolderMismatch
  Dispatch.onlyIf value.state.Contractual do
    ensure (← Dispatch.read fun s =>
      isLicenseActive verifier env.blockNumber s value.licenseId) Error.licenseNotActive
    ensure (¬ value.validUntil.any fun limit => limit < env.blockNumber) Error.invalidTerm
    ensure (license.expiresAt.all fun expires => value.validUntil.any fun limit =>
      limit ≤ expires) Error.invalidTerm
  ensure (← Dispatch.read fun s =>
    s.entitlementVersions.get (entitlementId, value.version)).isNone Error.versionAlreadyExists
  Dispatch.ifSome (← Dispatch.read fun s => currentEntitlement s entitlementId) fun prior =>
    ensure (prior.licenseId = value.licenseId ∧ prior.holderSubjectId = value.holderSubjectId)
      Error.recordBindingMismatch
  validateVersion (← Dispatch.read fun s => s.entitlementHeads.get entitlementId) value.version
    value.previousRecordHash
    fun s head =>
      (s.entitlementVersions.get (entitlementId, head)).map EntitlementVersion.recordHash
  Dispatch.write fun s => { s with
    entitlementVersions := s.entitlementVersions.insert (entitlementId, value.version) value }
  Dispatch.write fun s => { s with
    entitlementHeads := s.entitlementHeads.insert entitlementId value.version }
  depositEvent (.entitlementVersionRecorded entitlementId value.version value.licenseId
    value.holderSubjectId value.state value.recordHash)

inductive Call (BlockNumber : Type) where
  | recordDlaVersion (dlaId : Id32) (value : DlaVersion)
  | recordLicenseVersion (licenseId : Id32) (value : LicenseVersion BlockNumber)
  | recordLexOfferVersion (offerId : Id32) (value : LexOfferVersion BlockNumber)
  | recordEntitlementVersion (entitlementId : Id32) (value : EntitlementVersion BlockNumber)

/-- The body of each call of the pallet. -/
def pallet (verifier : RightsVerifier BlockNumber) :
    Pallet AccountId BlockNumber (Storage BlockNumber) Error (Call BlockNumber) :=
  fun env origin call => match call with
    | .recordDlaVersion dlaId value => recordDlaVersion verifier env origin dlaId value
    | .recordLicenseVersion licenseId value =>
        recordLicenseVersion verifier env origin licenseId value
    | .recordLexOfferVersion offerId value =>
        recordLexOfferVersion verifier env origin offerId value
    | .recordEntitlementVersion entitlementId value =>
        recordEntitlementVersion verifier env origin entitlementId value

end Chlom.Licensing
