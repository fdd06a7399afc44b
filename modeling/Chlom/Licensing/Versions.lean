import Chlom.Licensing.Pallet

/-!
# What a successful licensing call does

A call appends one version to one history and moves the head to it.  The
relation `Effect` lists the four calls with all their guards.
-/

namespace Chlom.Licensing

open Chlom.Frame

variable {AccountId BlockNumber : Type}

/-- The version, and the hash it names, continue a history with this head. -/
def NextVersion (head : Option U32) (version : U32) (previousRecordHash : Option Id32)
    (priorHash : U32 → Option Id32) : Prop :=
  match head with
  | none => version = 1 ∧ previousRecordHash = none
  | some current =>
      version = Checked.saturatingAdd current 1 ∧ previousRecordHash = priorHash current

theorem validateVersion_bind_ok {head : Option U32} {version : U32}
    {previousRecordHash : Option Id32} {priorHash : Storage BlockNumber → U32 → Option Id32}
    {next : Unit → Body BlockNumber Unit} {s s' : Storage BlockNumber} :
    (validateVersion head version previousRecordHash priorHash >>= next) s = .ok () s' ↔
      NextVersion head version previousRecordHash (priorHash s) ∧ next () s = .ok () s' := by
  cases head with
  | none => simp [validateVersion, NextVersion]
  | some current =>
      simp only [validateVersion, NextVersion, bind_assoc, ensure_bind_ok, Dispatch.read_bind,
        and_assoc]

variable [LinearOrder BlockNumber]

/-- Everything a successful call can do. -/
inductive Effect (verifier : RightsVerifier BlockNumber) (now : BlockNumber)
    (s : Storage BlockNumber) : Call BlockNumber → Storage BlockNumber → Prop
  | dla (dlaId : Id32) (value : DlaVersion) (rights : RightsReference BlockNumber)
      (found : verifier value.rightsInstrumentId = some rights)
      (bound : rights.assetId = value.assetId ∧ rights.assetVersionHash = value.assetVersionHash ∧
        rights.state = value.rightsState)
      (fresh : s.dlaVersions.get (dlaId, value.version) = none)
      (sameAsset : ∀ prior, currentDla s dlaId = some prior → prior.assetId = value.assetId)
      (current : value.offerability = .eligibleInternal ∨ value.offerability = .eligiblePublic →
        rightsCurrent now rights = true)
      (contractual : value.offerability = .eligiblePublic → value.rightsState.Contractual)
      (verified : value.offerability = .eligibleInternal →
        value.rightsState = .verifiedForWorkflow ∨ value.rightsState.Contractual)
      (next : NextVersion (s.dlaHeads.get dlaId) value.version value.previousRecordHash
        fun head => (s.dlaVersions.get (dlaId, head)).map DlaVersion.recordHash) :
      Effect verifier now s (.recordDlaVersion dlaId value)
        { s with
          dlaVersions := s.dlaVersions.insert (dlaId, value.version) value
          dlaHeads := s.dlaHeads.insert dlaId value.version
          events := s.events ++ [.dlaVersionRecorded dlaId value.version value.assetId
            value.offerability value.recordHash] }
  | license (licenseId : Id32) (value : LicenseVersion BlockNumber) (dla : DlaVersion)
      (stands : currentDla s value.dlaId = some dla)
      (active : value.status = .active → dlaEligible verifier now dla false = true ∧
        ¬ (value.expiresAt.any fun limit => limit < now) = true)
      (fresh : s.licenseVersions.get (licenseId, value.version) = none)
      (follows : ∀ prior, currentLicense s licenseId = some prior →
        validStatusTransition prior.status value.status = true ∧
          (prior.dlaId = value.dlaId ∧ prior.licenseType = value.licenseType ∧
            prior.issuerSubjectId = value.issuerSubjectId) ∧
          (prior.transferable = true ∨
            (prior.holderSubjectId = value.holderSubjectId ∧ ¬ value.transferable = true)))
      (next : NextVersion (s.licenseHeads.get licenseId) value.version value.previousRecordHash
        fun head => (s.licenseVersions.get (licenseId, head)).map LicenseVersion.recordHash) :
      Effect verifier now s (.recordLicenseVersion licenseId value)
        { s with
          licenseVersions := s.licenseVersions.insert (licenseId, value.version) value
          licenseHeads := s.licenseHeads.insert licenseId value.version
          events := s.events ++ [.licenseVersionRecorded licenseId value.version
            value.holderSubjectId value.status value.recordHash] }
  | offer (offerId : Id32) (value : LexOfferVersion BlockNumber) (dla : DlaVersion)
      (stands : currentDla s value.dlaId = some dla)
      (published : value.state = .published →
        dlaEligible verifier now dla true = true ∧ value.providerActivationVerified = true)
      (staged : value.state = .stagedInternal → dlaEligible verifier now dla false = true)
      (running : ¬ (value.validUntil.any fun limit => limit < now) = true)
      (fresh : s.offerVersions.get (offerId, value.version) = none)
      (follows : ∀ prior, currentOffer s offerId = some prior →
        prior.dlaId = value.dlaId ∧ prior.licensorSubjectId = value.licensorSubjectId)
      (next : NextVersion (s.offerHeads.get offerId) value.version value.previousRecordHash
        fun head => (s.offerVersions.get (offerId, head)).map LexOfferVersion.recordHash) :
      Effect verifier now s (.recordLexOfferVersion offerId value)
        { s with
          offerVersions := s.offerVersions.insert (offerId, value.version) value
          offerHeads := s.offerHeads.insert offerId value.version
          events := s.events ++ [.lexOfferVersionRecorded offerId value.version value.dlaId
            value.state value.recordHash] }
  | entitlement (entitlementId : Id32) (value : EntitlementVersion BlockNumber)
      (license : LicenseVersion BlockNumber)
      (stands : currentLicense s value.licenseId = some license)
      (holder : license.holderSubjectId = value.holderSubjectId)
      (granted : value.state.Contractual → isLicenseActive verifier now s value.licenseId = true ∧
        ¬ (value.validUntil.any fun limit => limit < now) = true ∧
        (license.expiresAt.all fun expires => value.validUntil.any fun limit =>
          limit ≤ expires) = true)
      (fresh : s.entitlementVersions.get (entitlementId, value.version) = none)
      (follows : ∀ prior, currentEntitlement s entitlementId = some prior →
        prior.licenseId = value.licenseId ∧ prior.holderSubjectId = value.holderSubjectId)
      (next : NextVersion (s.entitlementHeads.get entitlementId) value.version
        value.previousRecordHash fun head =>
          (s.entitlementVersions.get (entitlementId, head)).map EntitlementVersion.recordHash) :
      Effect verifier now s (.recordEntitlementVersion entitlementId value)
        { s with
          entitlementVersions := s.entitlementVersions.insert (entitlementId, value.version) value
          entitlementHeads := s.entitlementHeads.insert entitlementId value.version
          events := s.events ++ [.entitlementVersionRecorded entitlementId value.version
            value.licenseId value.holderSubjectId value.state value.recordHash] }

section Specifications

variable {verifier : RightsVerifier BlockNumber} {env : Env AccountId BlockNumber}
  {origin : RawOrigin AccountId} {s s' : Storage BlockNumber}

theorem recordDlaVersion_effect {dlaId : Id32} {value : DlaVersion}
    (done : recordDlaVersion verifier env origin dlaId value s = .ok () s') :
    Effect verifier env.blockNumber s (.recordDlaVersion dlaId value) s' := by
  simp only [recordDlaVersion, ensureOrigin_bind_ok, ensure_bind_ok, ensure_ok, and_true,
    Dispatch.read_bind, okOr_bind_ok, Dispatch.ifSome_check_bind_ok, Dispatch.onlyIf_bind_ok,
    validateVersion_bind_ok, Dispatch.write_bind, depositEvent, Dispatch.write_apply] at done
  obtain ⟨_, _, absent, rights, found, bound, sameAsset, current, contractual, verified, next,
    done⟩ := done
  have fresh := Option.isNone_iff_eq_none.mp absent
  obtain rfl := (EStateM.Result.ok.inj done).2
  exact .dla dlaId value rights found bound fresh sameAsset current contractual verified next

theorem recordLicenseVersion_effect {licenseId : Id32} {value : LicenseVersion BlockNumber}
    (done : recordLicenseVersion verifier env origin licenseId value s = .ok () s') :
    Effect verifier env.blockNumber s (.recordLicenseVersion licenseId value) s' := by
  simp only [recordLicenseVersion, ensureOrigin_bind_ok, ensure_bind_ok, ensure_ok, and_true,
    Dispatch.read_bind, okOr_bind_ok, Dispatch.ifSome_check_bind_ok, Dispatch.onlyIf_bind_ok,
    validateVersion_bind_ok, Dispatch.write_bind, depositEvent, Dispatch.write_apply] at done
  obtain ⟨_, _, dla, stands, active, absent, follows, next, done⟩ := done
  have fresh := Option.isNone_iff_eq_none.mp absent
  obtain rfl := (EStateM.Result.ok.inj done).2
  exact .license licenseId value dla stands active fresh follows next

theorem recordLexOfferVersion_effect {offerId : Id32} {value : LexOfferVersion BlockNumber}
    (done : recordLexOfferVersion verifier env origin offerId value s = .ok () s') :
    Effect verifier env.blockNumber s (.recordLexOfferVersion offerId value) s' := by
  simp only [recordLexOfferVersion, ensureOrigin_bind_ok, ensure_bind_ok, ensure_ok, and_true,
    Dispatch.read_bind, okOr_bind_ok, Dispatch.ifSome_check_bind_ok, Dispatch.onlyIf_bind_ok,
    validateVersion_bind_ok, Dispatch.write_bind, depositEvent, Dispatch.write_apply] at done
  obtain ⟨_, _, dla, stands, published, staged, running, absent, follows, next, done⟩ := done
  have fresh := Option.isNone_iff_eq_none.mp absent
  obtain rfl := (EStateM.Result.ok.inj done).2
  exact .offer offerId value dla stands published staged running fresh follows next

theorem recordEntitlementVersion_effect {entitlementId : Id32}
    {value : EntitlementVersion BlockNumber}
    (done : recordEntitlementVersion verifier env origin entitlementId value s = .ok () s') :
    Effect verifier env.blockNumber s (.recordEntitlementVersion entitlementId value) s' := by
  simp only [recordEntitlementVersion, ensureOrigin_bind_ok, ensure_bind_ok, ensure_ok, and_true,
    Dispatch.read_bind, okOr_bind_ok, Dispatch.ifSome_check_bind_ok, Dispatch.onlyIf_bind_ok,
    validateVersion_bind_ok, Dispatch.write_bind, depositEvent, Dispatch.write_apply] at done
  obtain ⟨_, _, license, stands, holder, granted, absent, follows, next, done⟩ := done
  have fresh := Option.isNone_iff_eq_none.mp absent
  obtain rfl := (EStateM.Result.ok.inj done).2
  exact .entitlement entitlementId value license stands holder granted fresh follows next

/-- Every successful call has one of the listed effects. -/
theorem pallet_effect {call : Call BlockNumber}
    (done : pallet verifier env origin call s = .ok () s') :
    Effect verifier env.blockNumber s call s' := by
  cases call with
  | recordDlaVersion => exact recordDlaVersion_effect done
  | recordLicenseVersion => exact recordLicenseVersion_effect done
  | recordLexOfferVersion => exact recordLexOfferVersion_effect done
  | recordEntitlementVersion => exact recordEntitlementVersion_effect done

end Specifications

end Chlom.Licensing
