import Chlom.Access.Chain

/-!
# Effective access

An active entitlement rests on an active license, an eligible DLA and a current
rights instrument.  A superseded instrument and a finally ended license switch
off everything that stands on them, for good.
-/

namespace Chlom.Access

open Chlom.Frame Licensing

variable {AccountId BlockNumber : Type} [LinearOrder BlockNumber]

/-- An eligible DLA names a stored, current instrument in a fitting state. -/
theorem eligible_instrument {s : Storage BlockNumber} {now : BlockNumber} {dla : DlaVersion}
    {isPublic : Bool}
    (eligible : dlaEligible (instrument s.rights) now dla isPublic = true) :
    ∃ record, s.rights.rightsInstruments.get dla.rightsInstrumentId = some record ∧
      record.assetId = dla.assetId ∧ record.assetVersionHash = dla.assetVersionHash ∧
      record.state = dla.rightsState ∧
      s.rights.rightsSupersededBy.get dla.rightsInstrumentId = none ∧
      (∀ start, record.validFrom = some start → start ≤ now) ∧
      (∀ finish, record.validUntil = some finish → now ≤ finish) ∧
      (record.state = .verifiedForWorkflow ∨ record.state.Contractual) ∧
      (dla.offerability = .eligiblePublic → record.state.Contractual) := by
  obtain ⟨_, _, rights, found, asset, version, state, current, workflow, published⟩ :=
    dlaEligible_eq_true.mp eligible
  obtain ⟨record, stored, assetEq, versionEq, stateEq, startEq, finishEq, supersededEq⟩ :=
    instrument_eq_some.mp found
  obtain ⟨notSuperseded, started, running⟩ := rightsCurrent_eq_true.mp current
  rw [supersededEq, Option.isSome_eq_false_iff, Option.isNone_iff_eq_none] at notSuperseded
  rw [startEq] at started
  rw [finishEq] at running
  rw [stateEq] at state workflow published
  exact ⟨record, stored, assetEq.symm.trans asset, versionEq.symm.trans version, state,
    notSuperseded, started, running, workflow, published⟩

/-- In every reachable state an active entitlement is granted and running, its
license is active, running and held by the same subject, the license's DLA is
offered, and the DLA's instrument is stored as bound, current, in a fitting
state and, when contractual, backed. -/
theorem active_entitlement (genesis : BlockNumber)
    (inputs : List (Input AccountId BlockNumber (Call BlockNumber))) (entitlementId : Id32)
    (active : isEntitlementActive (instrument (run genesis inputs).storage.rights)
      (run genesis inputs).now (run genesis inputs).storage.licensing entitlementId = true) :
    let now := (run genesis inputs).now
    let s := (run genesis inputs).storage
    ∃ entitlement license dla record,
      (currentEntitlement s.licensing entitlementId = some entitlement ∧
        (entitlement.state = .operative ∨ entitlement.state = .contractuallyRecorded) ∧
        ∀ limit, entitlement.validUntil = some limit → now ≤ limit) ∧
      (currentLicense s.licensing entitlement.licenseId = some license ∧
        license.status = .active ∧ (∀ limit, license.expiresAt = some limit → now ≤ limit) ∧
        license.holderSubjectId = entitlement.holderSubjectId) ∧
      (currentDla s.licensing license.dlaId = some dla ∧
        (dla.offerability = .eligibleInternal ∨ dla.offerability = .eligiblePublic)) ∧
      s.rights.rightsInstruments.get dla.rightsInstrumentId = some record ∧
      record.assetId = dla.assetId ∧ record.assetVersionHash = dla.assetVersionHash ∧
      record.state = dla.rightsState ∧
      s.rights.rightsSupersededBy.get dla.rightsInstrumentId = none ∧
      (∀ start, record.validFrom = some start → start ≤ now) ∧
      (∀ finish, record.validUntil = some finish → now ≤ finish) ∧
      (record.state = .verifiedForWorkflow ∨ record.state = .contractuallyRecorded ∨
        record.state = .operative) ∧
      (dla.offerability = .eligiblePublic →
        record.state = .contractuallyRecorded ∨ record.state = .operative) ∧
      (record.state = .contractuallyRecorded ∨ record.state = .operative →
        record.authorityClass = .d3 ∧
          ∃ hash, record.governingInstrumentHash = some hash ∧ hash ≠ ZERO_ID) := by
  intro now s
  obtain ⟨entitlement, entitlementHead, granted, entitlementRuns, licenseActive, license,
    licenseHead, holder⟩ := isEntitlementActive_eq_true.mp active
  obtain ⟨otherLicense, otherHead, status, licenseRuns, dla, dlaHead, eligible⟩ :=
    isLicenseActive_eq_true.mp licenseActive
  obtain rfl := Option.some.inj (otherHead.symm.trans licenseHead)
  obtain ⟨record, stored, asset, version, state, unsuperseded, started, running, workflow,
    published⟩ := eligible_instrument eligible
  have offered := (dlaEligible_eq_true.mp eligible).2.1
  have backed := instrumentsBacked_run genesis inputs _ record stored
  exact ⟨entitlement, otherLicense, dla, record, ⟨entitlementHead, granted.symm, entitlementRuns⟩,
    ⟨licenseHead, status, licenseRuns, holder⟩, ⟨dlaHead, offered⟩, stored, asset, version, state,
    unsuperseded, started, running, workflow, published, backed⟩

namespace Sample

/-- An operative instrument backed by a governing one. -/
def record : Rights.RightsInstrument U32 where
  assetId := Id32.repeated 1
  assetVersionHash := Id32.repeated 2
  grantorSubjectId := Id32.repeated 3
  granteeSubjectId := Id32.repeated 4
  instrumentType := Id32.repeated 5
  rightsScopeHash := Id32.repeated 6
  excludedScopeHash := ZERO_ID
  territoryScopeHash := ZERO_ID
  channelScopeHash := ZERO_ID
  exclusive := false
  transferable := true
  sublicensable := false
  commercialUse := true
  validFrom := some 1
  validUntil := some 100
  royaltyPolicyId := none
  state := .operative
  authorityClass := .d3
  governingInstrumentHash := some (Id32.repeated 7)
  supersedesInstrumentId := none
  evidenceHash := Id32.repeated 8
  termsHash := Id32.repeated 9
  recordHash := Id32.repeated 10

def dla : DlaVersion where
  version := 1
  assetId := Id32.repeated 1
  assetVersionHash := Id32.repeated 2
  rightsInstrumentId := Id32.repeated 20
  rightsState := .operative
  evidenceReadinessHash := Id32.repeated 8
  policyBindingHash := Id32.repeated 11
  offerability := .eligiblePublic
  tokenizationState := .draft
  previousRecordHash := none
  recordHash := Id32.repeated 12

def license : LicenseVersion U32 where
  version := 1
  dlaId := Id32.repeated 21
  licenseType := Id32.repeated 13
  issuerSubjectId := Id32.repeated 3
  holderSubjectId := Id32.repeated 4
  jurisdictionScopeHash := Id32.repeated 14
  termsHash := Id32.repeated 9
  expiresAt := some 50
  status := .active
  transferable := false
  previousRecordHash := none
  recordHash := Id32.repeated 15

def entitlement : EntitlementVersion U32 where
  version := 1
  licenseId := Id32.repeated 22
  holderSubjectId := Id32.repeated 4
  grantedScopeHash := Id32.repeated 16
  obligationsHash := Id32.repeated 17
  state := .operative
  validUntil := some 40
  previousRecordHash := none
  recordHash := Id32.repeated 18

def submit (call : Call U32) : Input Id32 U32 (Call U32) :=
  .submit (· = .root) .root call

/-- An instrument and a DLA, a license and an entitlement standing on it. -/
def inputs : List (Input Id32 U32 (Call U32)) :=
  [submit (.rights (.recordRightsInstrument (Id32.repeated 20) record)),
    submit (.licensing (.recordDlaVersion (Id32.repeated 21) dla)),
    submit (.licensing (.recordLicenseVersion (Id32.repeated 22) license)),
    submit (.licensing (.recordEntitlementVersion (Id32.repeated 23) entitlement)), .advance 30]

end Sample

open Sample in
/-- The sample entitlement is active and rests on the sample instrument. -/
theorem active_entitlement_sample :
    ∃ entitlement license dla record,
      currentEntitlement (run 1 inputs).storage.licensing (Id32.repeated 23) = some entitlement ∧
      currentLicense (run 1 inputs).storage.licensing entitlement.licenseId = some license ∧
      currentDla (run 1 inputs).storage.licensing license.dlaId = some dla ∧
      (run 1 inputs).storage.rights.rightsInstruments.get dla.rightsInstrumentId =
        some record ∧ record.assetId = dla.assetId := by
  obtain ⟨entitlement, license, dla, record, ⟨granted, _⟩, ⟨licensed, _⟩, ⟨offered, _⟩, stored,
    asset, _⟩ := active_entitlement 1 inputs (Id32.repeated 23) (by decide +kernel)
  exact ⟨entitlement, license, dla, record, granted, licensed, offered, stored, asset⟩

/-! ## Kill switches -/

section Superseded

variable {s : Storage BlockNumber} {now : BlockNumber} {instrumentId : Id32}

/-- A DLA on a superseded instrument is not eligible. -/
theorem not_eligible_of_superseded
    (superseded : s.rights.rightsSupersededBy.get instrumentId ≠ none) {dla : DlaVersion}
    (names : dla.rightsInstrumentId = instrumentId) (isPublic : Bool) :
    dlaEligible (instrument s.rights) now dla isPublic = false := by
  cases eligible : dlaEligible (instrument s.rights) now dla isPublic with
  | false => rfl
  | true =>
      obtain ⟨_, _, _, _, _, unsuperseded, _⟩ := eligible_instrument eligible
      rw [names] at unsuperseded
      exact absurd unsuperseded superseded

/-- A license on a DLA that is not eligible is inactive. -/
theorem not_active_of_not_eligible {licenseId : Id32}
    {license : LicenseVersion BlockNumber} {dla : DlaVersion}
    (licenseHead : currentLicense s.licensing licenseId = some license)
    (dlaHead : currentDla s.licensing license.dlaId = some dla)
    (ineligible : dlaEligible (instrument s.rights) now dla false = false) :
    isLicenseActive (instrument s.rights) now s.licensing licenseId = false := by
  cases active : isLicenseActive (instrument s.rights) now s.licensing licenseId with
  | false => rfl
  | true =>
      obtain ⟨found, foundHead, _, _, other, otherHead, eligible⟩ :=
        isLicenseActive_eq_true.mp active
      obtain rfl := Option.some.inj (foundHead.symm.trans licenseHead)
      obtain rfl := Option.some.inj (otherHead.symm.trans dlaHead)
      rw [ineligible] at eligible
      cases eligible

/-- An entitlement on an inactive license is inactive. -/
theorem entitlement_inactive {entitlementId : Id32} {entitlement : EntitlementVersion BlockNumber}
    (entitlementHead : currentEntitlement s.licensing entitlementId = some entitlement)
    (inactive : isLicenseActive (instrument s.rights) now s.licensing entitlement.licenseId =
      false) :
    isEntitlementActive (instrument s.rights) now s.licensing entitlementId = false := by
  cases active : isEntitlementActive (instrument s.rights) now s.licensing entitlementId with
  | false => rfl
  | true =>
      obtain ⟨found, foundHead, _, _, licenseActive, _⟩ := isEntitlementActive_eq_true.mp active
      obtain rfl := Option.some.inj (foundHead.symm.trans entitlementHead)
      rw [inactive] at licenseActive
      cases licenseActive

/-- No call records an offered DLA on a superseded instrument. -/
theorem not_recorded_of_superseded {env : Env AccountId BlockNumber}
    {origin : RawOrigin AccountId} {s' : Storage BlockNumber} {dlaId : Id32} {value : DlaVersion}
    (superseded : s.rights.rightsSupersededBy.get instrumentId ≠ none)
    (names : value.rightsInstrumentId = instrumentId)
    (offered : value.offerability = .eligibleInternal ∨ value.offerability = .eligiblePublic) :
    pallet env origin (.licensing (.recordDlaVersion dlaId value)) s ≠ .ok () s' := by
  intro done
  rcases pallet_effect done with ⟨_, impossible, _⟩ | ⟨inner, same, effect, _⟩
  · cases impossible
  · obtain rfl := Call.licensing.inj same
    generalize s'.licensing = licensing at effect
    cases effect with
    | dla _ _ rights found _ _ _ current =>
        obtain ⟨_, _, _, _, _, _, _, supersededEq⟩ := instrument_eq_some.mp found
        have unsuperseded := (rightsCurrent_eq_true.mp (current offered)).1
        rw [supersededEq, Option.isSome_eq_false_iff, Option.isNone_iff_eq_none, names]
          at unsuperseded
        exact superseded unsuperseded

end Superseded

/-- The statuses a license cannot come back from. -/
def FinalStatus (status : LicenseStatus) : Prop :=
  status = .revoked ∨ status = .expired ∨ status = .superseded

theorem final_of_transition {status next : LicenseStatus} (final : FinalStatus status)
    (transition : validStatusTransition status next = true) : FinalStatus next := by
  rcases final with rfl | rfl | rfl <;> simpa [validStatusTransition, FinalStatus] using transition

/-- The head of a license has a final status. -/
def LicenseEnded (licenseId : Id32) (s : Storage BlockNumber) : Prop :=
  ∃ license, currentLicense s.licensing licenseId = some license ∧ FinalStatus license.status

section Ended

variable {s s' : Storage BlockNumber} {licenseId : Id32}

/-- A license whose head has a final status is inactive. -/
theorem LicenseEnded.inactive {now : BlockNumber} (ended : LicenseEnded licenseId s) :
    isLicenseActive (instrument s.rights) now s.licensing licenseId = false := by
  obtain ⟨license, head, final⟩ := ended
  cases active : isLicenseActive (instrument s.rights) now s.licensing licenseId with
  | false => rfl
  | true =>
      obtain ⟨found, foundHead, status, _⟩ := isLicenseActive_eq_true.mp active
      obtain rfl := Option.some.inj (foundHead.symm.trans head)
      rcases final with final | final | final <;> rw [status] at final <;> cases final

/-- A new version of an ended license is ended, and other calls leave its head alone. -/
theorem LicenseEnded.effect {verifier : RightsVerifier BlockNumber} {now : BlockNumber}
    {call : Licensing.Call BlockNumber} (ended : LicenseEnded licenseId s)
    (effect : Licensing.Effect verifier now s.licensing call s'.licensing) :
    LicenseEnded licenseId s' := by
  obtain ⟨license, head, final⟩ := ended
  have kept (same : currentLicense s'.licensing licenseId = currentLicense s.licensing licenseId) :
      LicenseEnded licenseId s' :=
    ⟨license, same.trans head, final⟩
  generalize after : s'.licensing = licensing at effect
  rw [after] at kept
  cases effect with
  | dla => exact kept rfl
  | offer => exact kept rfl
  | entitlement => exact kept rfl
  | license other value dla stands active fresh follows =>
      by_cases same : other = licenseId
      · subst same
        have transition := (follows license head).1
        refine ⟨value, ?_, final_of_transition final transition⟩
        rw [after]
        simp [currentLicense]
      · apply kept
        have different : licenseId ≠ other := fun equal => same equal.symm
        simp [currentLicense, StorageMap.get_insert, different]

/-- Every successful call keeps an ended license ended. -/
theorem LicenseEnded.lasts {env : Env AccountId BlockNumber} {origin : RawOrigin AccountId}
    {call : Call BlockNumber} (done : pallet env origin call s = .ok () s')
    (ended : LicenseEnded licenseId s) : LicenseEnded licenseId s' := by
  rcases pallet_effect done with ⟨_, _, _, same⟩ | ⟨inner, _, effect, _⟩
  · rw [LicenseEnded, same]
    exact ended
  · exact ended.effect effect

/-- Every successful call keeps a superseded instrument superseded. -/
theorem superseded_lasts {env : Env AccountId BlockNumber} {origin : RawOrigin AccountId}
    {call : Call BlockNumber} {instrumentId : Id32}
    (done : pallet env origin call s = .ok () s')
    (superseded : s.rights.rightsSupersededBy.get instrumentId ≠ none) :
    s'.rights.rightsSupersededBy.get instrumentId ≠ none := by
  rcases pallet_effect done with ⟨_, _, effect, _⟩ | ⟨_, _, _, same⟩
  · exact effect.superseded superseded
  · rw [same]
    exact superseded

end Ended

/-- Whatever happens after an instrument is superseded, the DLAs that name it are
not eligible, the licenses and entitlements on them are inactive, and none can be
recorded as eligible; whatever happens after a license has ended, it and the
entitlements on it are inactive. -/
theorem kill_switches (genesis : BlockNumber)
    (inputs later : List (Input AccountId BlockNumber (Call BlockNumber))) :
    let before := (run genesis inputs).storage
    let after := run genesis (inputs ++ later)
    let s := after.storage
    (∀ instrumentId, before.rights.rightsSupersededBy.get instrumentId ≠ none →
      (∀ dlaId dla, currentDla s.licensing dlaId = some dla →
        dla.rightsInstrumentId = instrumentId →
          (∀ isPublic, dlaEligible (instrument s.rights) after.now dla isPublic = false) ∧
            ∀ licenseId license, currentLicense s.licensing licenseId = some license →
              license.dlaId = dlaId →
                isLicenseActive (instrument s.rights) after.now s.licensing licenseId = false ∧
                  ∀ entitlementId entitlement,
                    currentEntitlement s.licensing entitlementId = some entitlement →
                      entitlement.licenseId = licenseId →
                        isEntitlementActive (instrument s.rights) after.now s.licensing
                          entitlementId = false) ∧
        ∀ (env : Env AccountId BlockNumber) origin dlaId value s',
          value.rightsInstrumentId = instrumentId →
            value.offerability = .eligibleInternal ∨ value.offerability = .eligiblePublic →
              pallet env origin (.licensing (.recordDlaVersion dlaId value)) s ≠ .ok () s') ∧
      ∀ licenseId license, currentLicense before.licensing licenseId = some license →
        license.status = .revoked ∨ license.status = .expired ∨ license.status = .superseded →
          isLicenseActive (instrument s.rights) after.now s.licensing licenseId = false ∧
            ∀ entitlementId entitlement,
              currentEntitlement s.licensing entitlementId = some entitlement →
                entitlement.licenseId = licenseId →
                  isEntitlementActive (instrument s.rights) after.now s.licensing entitlementId =
                    false := by
  intro before after s
  have continued : after = Frame.run pallet (run genesis inputs) later := Runs.run_append _ _ _
  have always : Invariant (@pallet AccountId BlockNumber _) fun _ _ => True :=
    ⟨fun _ _ => trivial, fun _ _ => trivial⟩
  constructor
  · intro instrumentId supersededBefore
    have superseded : s.rights.rightsSupersededBy.get instrumentId ≠ none := by
      change after.storage.rights.rightsSupersededBy.get instrumentId ≠ none
      rw [continued]
      exact always.lasts (fun _ done => superseded_lasts done) trivial supersededBefore later
    constructor
    · intro dlaId dla dlaHead names
      have ineligible := @not_eligible_of_superseded _ _ _ after.now _ superseded _ names
      refine ⟨ineligible, ?_⟩
      rintro licenseId license licenseHead rfl
      have inactive := not_active_of_not_eligible licenseHead dlaHead (ineligible false)
      refine ⟨inactive, ?_⟩
      rintro entitlementId entitlement entitlementHead rfl
      exact entitlement_inactive entitlementHead inactive
    · intro env origin dlaId value s' names offered
      exact not_recorded_of_superseded superseded names offered
  · intro licenseId license head final
    have ended : LicenseEnded licenseId s := by
      change LicenseEnded licenseId after.storage
      rw [continued]
      exact always.lasts (fun _ done => LicenseEnded.lasts done) trivial ⟨license, head, final⟩
        later
    refine ⟨ended.inactive, ?_⟩
    rintro entitlementId entitlement entitlementHead rfl
    exact entitlement_inactive entitlementHead ended.inactive

end Chlom.Access
