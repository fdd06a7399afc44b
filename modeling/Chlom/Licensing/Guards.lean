import Chlom.Licensing.Versions

/-!
# When a licensing call succeeds

The guards of each call in full, as conditions on the storage before it.
-/

namespace Chlom.Licensing

open Chlom.Frame

variable {AccountId BlockNumber : Type}

/-- The identifiers and hashes of a DLA version that must not be zero. -/
def DlaVersion.Identified (dlaId : Id32) (value : DlaVersion) : Prop :=
  dlaId ≠ ZERO_ID ∧ value.assetId ≠ ZERO_ID ∧ value.assetVersionHash ≠ ZERO_ID ∧
    value.rightsInstrumentId ≠ ZERO_ID ∧ value.evidenceReadinessHash ≠ ZERO_ID ∧
    value.policyBindingHash ≠ ZERO_ID ∧ value.recordHash ≠ ZERO_ID

def LicenseVersion.Identified (licenseId : Id32) (value : LicenseVersion BlockNumber) : Prop :=
  licenseId ≠ ZERO_ID ∧ value.dlaId ≠ ZERO_ID ∧ value.licenseType ≠ ZERO_ID ∧
    value.issuerSubjectId ≠ ZERO_ID ∧ value.holderSubjectId ≠ ZERO_ID ∧
    value.jurisdictionScopeHash ≠ ZERO_ID ∧ value.termsHash ≠ ZERO_ID ∧
    value.recordHash ≠ ZERO_ID

def LexOfferVersion.Identified (offerId : Id32) (value : LexOfferVersion BlockNumber) : Prop :=
  offerId ≠ ZERO_ID ∧ value.dlaId ≠ ZERO_ID ∧ value.licenseTemplateHash ≠ ZERO_ID ∧
    value.licensorSubjectId ≠ ZERO_ID ∧ value.offeredScopeHash ≠ ZERO_ID ∧
    value.currencyId ≠ ZERO_ID ∧ value.recordHash ≠ ZERO_ID

def EntitlementVersion.Identified (entitlementId : Id32)
    (value : EntitlementVersion BlockNumber) : Prop :=
  entitlementId ≠ ZERO_ID ∧ value.licenseId ≠ ZERO_ID ∧ value.holderSubjectId ≠ ZERO_ID ∧
    value.grantedScopeHash ≠ ZERO_ID ∧ value.obligationsHash ≠ ZERO_ID ∧
    value.recordHash ≠ ZERO_ID

variable [LinearOrder BlockNumber] {verifier : RightsVerifier BlockNumber}
  {env : Env AccountId BlockNumber} {origin : RawOrigin AccountId} {s : Storage BlockNumber}

theorem recordDlaVersion_succeeds {dlaId : Id32} {value : DlaVersion} :
    (∃ s', recordDlaVersion verifier env origin dlaId value s = .ok () s') ↔
      env.permits origin = true ∧ value.Identified dlaId ∧
      (s.dlaVersions.get (dlaId, value.version)).isNone = true ∧
      ∃ rights, verifier value.rightsInstrumentId = some rights ∧
        (rights.assetId = value.assetId ∧ rights.assetVersionHash = value.assetVersionHash ∧
          rights.state = value.rightsState) ∧
        (∀ prior, currentDla s dlaId = some prior → prior.assetId = value.assetId) ∧
        (value.offerability = .eligibleInternal ∨ value.offerability = .eligiblePublic →
          rightsCurrent env.blockNumber rights = true) ∧
        (value.offerability = .eligiblePublic → value.rightsState.Contractual) ∧
        (value.offerability = .eligibleInternal →
          value.rightsState = .verifiedForWorkflow ∨ value.rightsState.Contractual) ∧
        NextVersion (s.dlaHeads.get dlaId) value.version value.previousRecordHash fun head =>
          (s.dlaVersions.get (dlaId, head)).map DlaVersion.recordHash := by
  simp only [recordDlaVersion, ensureOrigin_bind_ok, ensure_bind_ok, ensure_ok, and_true,
    Dispatch.read_bind, okOr_bind_ok, Dispatch.ifSome_check_bind_ok, Dispatch.onlyIf_bind_ok,
    validateVersion_bind_ok, Dispatch.write_bind, depositEvent, Dispatch.write_apply,
    DlaVersion.Identified]
  constructor
  · rintro ⟨s', permitted, identified, absent, rights, found, bound, sameAsset, current,
      contractual, verified, next, _⟩
    exact ⟨permitted, identified, absent, rights, found, bound, sameAsset, current, contractual,
      verified, next⟩
  · rintro ⟨permitted, identified, absent, rights, found, bound, sameAsset, current, contractual,
      verified, next⟩
    exact ⟨_, permitted, identified, absent, rights, found, bound, sameAsset, current,
      contractual, verified, next, rfl⟩

theorem recordLicenseVersion_succeeds {licenseId : Id32} {value : LicenseVersion BlockNumber} :
    (∃ s', recordLicenseVersion verifier env origin licenseId value s = .ok () s') ↔
      env.permits origin = true ∧ value.Identified licenseId ∧
      ∃ dla, currentDla s value.dlaId = some dla ∧
        (value.status = .active → dlaEligible verifier env.blockNumber dla false = true ∧
          ¬ (value.expiresAt.any fun limit => limit < env.blockNumber) = true) ∧
        (s.licenseVersions.get (licenseId, value.version)).isNone = true ∧
        (∀ prior, currentLicense s licenseId = some prior →
          validStatusTransition prior.status value.status = true ∧
            (prior.dlaId = value.dlaId ∧ prior.licenseType = value.licenseType ∧
              prior.issuerSubjectId = value.issuerSubjectId) ∧
            (prior.transferable = true ∨
              (prior.holderSubjectId = value.holderSubjectId ∧ ¬ value.transferable = true))) ∧
        NextVersion (s.licenseHeads.get licenseId) value.version value.previousRecordHash
          fun head => (s.licenseVersions.get (licenseId, head)).map LicenseVersion.recordHash := by
  simp only [recordLicenseVersion, ensureOrigin_bind_ok, ensure_bind_ok, ensure_ok, and_true,
    Dispatch.read_bind, okOr_bind_ok, Dispatch.ifSome_check_bind_ok, Dispatch.onlyIf_bind_ok,
    validateVersion_bind_ok, Dispatch.write_bind, depositEvent, Dispatch.write_apply,
    LicenseVersion.Identified]
  constructor
  · rintro ⟨s', permitted, identified, dla, stands, active, absent, follows, next, _⟩
    exact ⟨permitted, identified, dla, stands, active, absent, follows, next⟩
  · rintro ⟨permitted, identified, dla, stands, active, absent, follows, next⟩
    exact ⟨_, permitted, identified, dla, stands, active, absent, follows, next, rfl⟩

theorem recordLexOfferVersion_succeeds {offerId : Id32} {value : LexOfferVersion BlockNumber} :
    (∃ s', recordLexOfferVersion verifier env origin offerId value s = .ok () s') ↔
      env.permits origin = true ∧ value.Identified offerId ∧
      ∃ dla, currentDla s value.dlaId = some dla ∧
        (value.state = .published → dlaEligible verifier env.blockNumber dla true = true ∧
          value.providerActivationVerified = true) ∧
        (value.state = .stagedInternal →
          dlaEligible verifier env.blockNumber dla false = true) ∧
        ¬ (value.validUntil.any fun limit => limit < env.blockNumber) = true ∧
        (s.offerVersions.get (offerId, value.version)).isNone = true ∧
        (∀ prior, currentOffer s offerId = some prior →
          prior.dlaId = value.dlaId ∧ prior.licensorSubjectId = value.licensorSubjectId) ∧
        NextVersion (s.offerHeads.get offerId) value.version value.previousRecordHash
          fun head => (s.offerVersions.get (offerId, head)).map LexOfferVersion.recordHash := by
  simp only [recordLexOfferVersion, ensureOrigin_bind_ok, ensure_bind_ok, ensure_ok, and_true,
    Dispatch.read_bind, okOr_bind_ok, Dispatch.ifSome_check_bind_ok, Dispatch.onlyIf_bind_ok,
    validateVersion_bind_ok, Dispatch.write_bind, depositEvent, Dispatch.write_apply,
    LexOfferVersion.Identified]
  constructor
  · rintro ⟨s', permitted, identified, dla, stands, published, staged, running, absent, follows,
      next, _⟩
    exact ⟨permitted, identified, dla, stands, published, staged, running, absent, follows, next⟩
  · rintro ⟨permitted, identified, dla, stands, published, staged, running, absent, follows,
      next⟩
    exact ⟨_, permitted, identified, dla, stands, published, staged, running, absent, follows,
      next, rfl⟩

theorem recordEntitlementVersion_succeeds {entitlementId : Id32}
    {value : EntitlementVersion BlockNumber} :
    (∃ s', recordEntitlementVersion verifier env origin entitlementId value s = .ok () s') ↔
      env.permits origin = true ∧ value.Identified entitlementId ∧
      ∃ license, currentLicense s value.licenseId = some license ∧
        license.holderSubjectId = value.holderSubjectId ∧
        (value.state.Contractual →
          isLicenseActive verifier env.blockNumber s value.licenseId = true ∧
            ¬ (value.validUntil.any fun limit => limit < env.blockNumber) = true ∧
            (license.expiresAt.all fun expires => value.validUntil.any fun limit =>
              limit ≤ expires) = true) ∧
        (s.entitlementVersions.get (entitlementId, value.version)).isNone = true ∧
        (∀ prior, currentEntitlement s entitlementId = some prior →
          prior.licenseId = value.licenseId ∧ prior.holderSubjectId = value.holderSubjectId) ∧
        NextVersion (s.entitlementHeads.get entitlementId) value.version value.previousRecordHash
          fun head => (s.entitlementVersions.get (entitlementId, head)).map
            EntitlementVersion.recordHash := by
  simp only [recordEntitlementVersion, ensureOrigin_bind_ok, ensure_bind_ok, ensure_ok, and_true,
    Dispatch.read_bind, okOr_bind_ok, Dispatch.ifSome_check_bind_ok, Dispatch.onlyIf_bind_ok,
    validateVersion_bind_ok, Dispatch.write_bind, depositEvent, Dispatch.write_apply,
    EntitlementVersion.Identified]
  constructor
  · rintro ⟨s', permitted, identified, license, stands, holder, granted, absent, follows, next,
      _⟩
    exact ⟨permitted, identified, license, stands, holder, granted, absent, follows, next⟩
  · rintro ⟨permitted, identified, license, stands, holder, granted, absent, follows, next⟩
    exact ⟨_, permitted, identified, license, stands, holder, granted, absent, follows, next,
      rfl⟩

end Chlom.Licensing
