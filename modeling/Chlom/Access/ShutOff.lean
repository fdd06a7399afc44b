import Chlom.Access.Effective
import Chlom.Access.Grounds

/-!
# Shutting records off

Whether the authority can file a final version of a record with everything else
copied from the current one.  A license can always be revoked and a DLA paused.
The revocation of an entitlement runs through the check that the license still
has its holder, and that of an offer through the check that its term has not
passed; each fails exactly when that check does.
-/

namespace Chlom.Access

open Chlom.Frame Licensing

variable {AccountId BlockNumber : Type} [LinearOrder BlockNumber]

/-! ## Licenses and DLAs -/

section ShutOff

variable {genesis : BlockNumber} {inputs : List (Input AccountId BlockNumber (Call BlockNumber))}
  {env : Env AccountId BlockNumber} {origin : RawOrigin AccountId} {s : Storage BlockNumber}

omit [LinearOrder BlockNumber] in
theorem valid_revocation (status : LicenseStatus) :
    validStatusTransition status .revoked = true := by
  cases status <;> decide

omit [LinearOrder BlockNumber] in
/-- A DLA with a head has a current version. -/
theorem exists_currentDla {dlaId : Id32}
    (dlas : History.Linked s.licensing.dlaHeads s.licensing.dlaVersions)
    (stands : s.licensing.dlaHeads.get dlaId ≠ none) :
    ∃ dla, currentDla s.licensing dlaId = some dla := by
  obtain ⟨head, headEq⟩ := Option.ne_none_iff_exists'.mp stands
  obtain ⟨dla, dlaEq⟩ := dlas.exists_current headEq
  exact ⟨dla, by simp [currentDla, headEq, dlaEq]⟩

/-- A licensing call on the chain succeeds when its body does. -/
theorem licensing_succeeds {inner : Licensing.Call BlockNumber} :
    (∃ s', pallet env origin (.licensing inner) s = .ok () s') ↔
      ∃ licensing, Licensing.pallet (instrument s.rights) env origin inner s.licensing =
        .ok () licensing := by
  simp only [pallet, Dispatch.zoom_ok]
  constructor
  · rintro ⟨_, licensing, ran, _⟩
    exact ⟨licensing, ran⟩
  · rintro ⟨licensing, ran⟩
    exact ⟨_, licensing, ran, rfl⟩

/-- The revocation of a license: everything but the status is copied. -/
def revokedLicense (license : LicenseVersion BlockNumber) (head : U32)
    (recordHash : Id32) : LicenseVersion BlockNumber :=
  { license with
    version := head + 1
    status := .revoked
    previousRecordHash := some license.recordHash
    recordHash := recordHash }

/-- The pausing of a DLA: everything but the offerability is copied. -/
def pausedDla (dla : DlaVersion) (head : U32) (recordHash : Id32) : DlaVersion :=
  { dla with
    version := head + 1
    offerability := .paused
    previousRecordHash := some dla.recordHash
    recordHash := recordHash }

theorem license_revocable {licenseId : Id32} {head : U32} {license : LicenseVersion BlockNumber}
    (grounded : Grounded s)
    (dlas : History.Linked s.licensing.dlaHeads s.licensing.dlaVersions)
    (licenses : History.Linked s.licensing.licenseHeads s.licensing.licenseVersions)
    (authorised : env.permits origin = true) {recordHash : Id32} (hashed : recordHash ≠ ZERO_ID)
    (headEq : s.licensing.licenseHeads.get licenseId = some head)
    (licenseEq : s.licensing.licenseVersions.get (licenseId, head) = some license)
    (below : head ≠ BitVec.allOnes 32) :
    ∃ s', pallet env origin (.licensing (.recordLicenseVersion licenseId
      (revokedLicense license head recordHash))) s = .ok () s' := by
  obtain ⟨⟨idOk, dlaOk, typeOk, issuerOk, holderOk, scopeOk, termsOk, _⟩, stands⟩ :=
    grounded.licenses licenseEq
  obtain ⟨dla, currentDlaEq⟩ := exists_currentDla dlas stands
  have accepts : History.Accepts s.licensing.licenseHeads s.licensing.licenseVersions licenseId
      (head + 1#32) (revokedLicense license head recordHash) :=
    licenses.accepts_successor (by decide) headEq licenseEq below rfl
  rw [licensing_succeeds]
  apply recordLicenseVersion_succeeds.mpr
  refine ⟨authorised, ⟨idOk, dlaOk, typeOk, issuerOk, holderOk, scopeOk, termsOk, hashed⟩, dla,
    currentDlaEq, ?_, Option.isNone_iff_eq_none.mpr accepts.fresh, ?_, next_of_accepts accepts⟩
  · intro active
    cases active
  · intro prior currentEq
    have same : prior = license := by
      simpa [currentLicense, headEq, licenseEq, eq_comm] using currentEq
    subst same
    refine ⟨valid_revocation _, ⟨rfl, rfl, rfl⟩, ?_⟩
    cases transfer : prior.transferable with
    | true => exact .inl rfl
    | false => exact .inr ⟨rfl, by simp [revokedLicense, transfer]⟩

theorem dla_pausable {dlaId : Id32} {head : U32} {dla : DlaVersion} (grounded : Grounded s)
    (dlas : History.Linked s.licensing.dlaHeads s.licensing.dlaVersions)
    (authorised : env.permits origin = true) {recordHash : Id32} (hashed : recordHash ≠ ZERO_ID)
    (headEq : s.licensing.dlaHeads.get dlaId = some head)
    (dlaEq : s.licensing.dlaVersions.get (dlaId, head) = some dla)
    (below : head ≠ BitVec.allOnes 32) :
    ∃ s', pallet env origin (.licensing (.recordDlaVersion dlaId
      (pausedDla dla head recordHash))) s = .ok () s' := by
  obtain ⟨⟨idOk, assetOk, versionOk, instrumentOk, evidenceOk, policyOk, _⟩, record, stored,
    asset, version, state⟩ := grounded.dlas dlaEq
  have accepts : History.Accepts s.licensing.dlaHeads s.licensing.dlaVersions dlaId
      (head + 1#32) (pausedDla dla head recordHash) :=
    dlas.accepts_successor (by decide) headEq dlaEq below rfl
  rw [licensing_succeeds]
  apply recordDlaVersion_succeeds.mpr
  obtain ⟨rights, found, bound⟩ : ∃ rights, instrument s.rights dla.rightsInstrumentId =
      some rights ∧ rights.assetId = dla.assetId ∧
        rights.assetVersionHash = dla.assetVersionHash ∧ rights.state = dla.rightsState := by
    simp [instrument, stored, asset, version, state]
  refine ⟨authorised, ⟨idOk, assetOk, versionOk, instrumentOk, evidenceOk, policyOk, hashed⟩,
    Option.isNone_iff_eq_none.mpr accepts.fresh, rights, found, bound, ?_, ?_, ?_, ?_,
    next_of_accepts accepts⟩
  · intro prior currentEq
    have same : prior = dla := by
      simpa [currentDla, headEq, dlaEq, eq_comm] using currentEq
    rw [same]
    rfl
  · intro offered
    rcases offered with impossible | impossible <;> cases impossible
  · intro offered
    cases offered
  · intro offered
    cases offered

/-- In every reachable state and at every block the authority can revoke every
license and pause every DLA below the largest head, with everything else copied
from the current version. -/
theorem licenses_and_dlas_shut_off (genesis : BlockNumber)
    (inputs : List (Input AccountId BlockNumber (Call BlockNumber)))
    (env : Env AccountId BlockNumber) (origin : RawOrigin AccountId)
    (authorised : env.permits origin = true) (recordHash : Id32) (hashed : recordHash ≠ ZERO_ID) :
    let s := (run genesis inputs).storage
    (∀ licenseId head, s.licensing.licenseHeads.get licenseId = some head →
      head < BitVec.allOnes 32 →
        ∃ license, s.licensing.licenseVersions.get (licenseId, head) = some license ∧
          ∃ s', pallet env origin (.licensing (.recordLicenseVersion licenseId
            (revokedLicense license head recordHash))) s = .ok () s') ∧
    (∀ dlaId head, s.licensing.dlaHeads.get dlaId = some head → head < BitVec.allOnes 32 →
      ∃ dla, s.licensing.dlaVersions.get (dlaId, head) = some dla ∧
        ∃ s', pallet env origin (.licensing (.recordDlaVersion dlaId
          (pausedDla dla head recordHash))) s = .ok () s') := by
  intro s
  have grounded := grounded_run genesis inputs
  have dlas := (dlas_sound genesis inputs).linked
  have licenses := (licenses_sound genesis inputs).linked
  constructor
  · intro licenseId head headEq below
    obtain ⟨license, licenseEq⟩ := licenses.exists_current headEq
    exact ⟨license, licenseEq, license_revocable grounded dlas licenses authorised hashed headEq
      licenseEq (ne_of_lt below)⟩
  · intro dlaId head headEq below
    obtain ⟨dla, dlaEq⟩ := dlas.exists_current headEq
    exact ⟨dla, dlaEq, dla_pausable grounded dlas authorised hashed headEq dlaEq (ne_of_lt below)⟩

end ShutOff

/-- A block at which only root is authorised. -/
def Sample.env (block : U32) : Env Id32 U32 :=
  ⟨block, (· = .root)⟩

open Sample in
/-- The sample license can be revoked and the sample DLA paused, even after the
sample instrument has run out. -/
theorem licenses_and_dlas_shut_off_sample :
    (∃ license, (run 1 inputs).storage.licensing.licenseVersions.get (Id32.repeated 22, 1) =
      some license ∧ ∃ s', pallet (env 200) .root (.licensing
        (.recordLicenseVersion (Id32.repeated 22) (revokedLicense license 1 (Id32.repeated 30))))
        (run 1 inputs).storage = .ok () s') ∧
    (∃ dla, (run 1 inputs).storage.licensing.dlaVersions.get (Id32.repeated 21, 1) = some dla ∧
      ∃ s', pallet (env 200) .root (.licensing
        (.recordDlaVersion (Id32.repeated 21) (pausedDla dla 1 (Id32.repeated 30))))
        (run 1 inputs).storage = .ok () s') := by
  have shutOff := licenses_and_dlas_shut_off 1 inputs (env 200) .root (by decide)
    (Id32.repeated 30) (by decide)
  exact ⟨shutOff.1 (Id32.repeated 22) 1 (by decide +kernel) (by decide),
    shutOff.2 (Id32.repeated 21) 1 (by decide +kernel) (by decide)⟩

/-! ## Entitlements and offers -/

section Revocation

variable {env : Env AccountId BlockNumber} {origin : RawOrigin AccountId} {s : Storage BlockNumber}

omit [LinearOrder BlockNumber] in
/-- The revocation of an entitlement: everything but the state is copied. -/
def revokedEntitlement (entitlement : EntitlementVersion BlockNumber) (head : U32)
    (recordHash : Id32) : EntitlementVersion BlockNumber :=
  { entitlement with
    version := head + 1
    state := .revoked
    previousRecordHash := some entitlement.recordHash
    recordHash := recordHash }

/-- The revocation of an offer: everything but the state is copied. -/
def revokedOffer (offer : LexOfferVersion BlockNumber) (head : U32) (recordHash : Id32) :
    LexOfferVersion BlockNumber :=
  { offer with
    version := head + 1
    state := .revoked
    previousRecordHash := some offer.recordHash
    recordHash := recordHash }

theorem entitlement_revocable_iff {entitlementId : Id32} {head : U32}
    {entitlement : EntitlementVersion BlockNumber} (grounded : Grounded s)
    (entitlements : History.Linked s.licensing.entitlementHeads s.licensing.entitlementVersions)
    (authorised : env.permits origin = true) {recordHash : Id32} (hashed : recordHash ≠ ZERO_ID)
    (headEq : s.licensing.entitlementHeads.get entitlementId = some head)
    (entitlementEq : s.licensing.entitlementVersions.get (entitlementId, head) = some entitlement)
    (below : head ≠ BitVec.allOnes 32) :
    (∃ s', pallet env origin (.licensing (.recordEntitlementVersion entitlementId
      (revokedEntitlement entitlement head recordHash))) s = .ok () s') ↔
      ∃ license, currentLicense s.licensing entitlement.licenseId = some license ∧
        license.holderSubjectId = entitlement.holderSubjectId := by
  rw [licensing_succeeds]
  constructor
  · intro succeeds
    obtain ⟨_, _, license, licenseEq, holder, _⟩ :=
      recordEntitlementVersion_succeeds.mp succeeds
    exact ⟨license, licenseEq, holder⟩
  · rintro ⟨license, licenseEq, holder⟩
    obtain ⟨⟨idOk, licenseOk, holderOk, scopeOk, obligationsOk, _⟩, _⟩ :=
      grounded.entitlements entitlementEq
    have accepts : History.Accepts s.licensing.entitlementHeads s.licensing.entitlementVersions
        entitlementId (head + 1#32) (revokedEntitlement entitlement head recordHash) :=
      entitlements.accepts_successor (by decide) headEq entitlementEq below rfl
    apply recordEntitlementVersion_succeeds.mpr
    refine ⟨authorised, ⟨idOk, licenseOk, holderOk, scopeOk, obligationsOk, hashed⟩, license,
      licenseEq, holder, ?_, Option.isNone_iff_eq_none.mpr accepts.fresh, ?_,
      next_of_accepts accepts⟩
    · intro contractual
      rcases contractual with impossible | impossible <;> cases impossible
    · intro prior currentEq
      have same : prior = entitlement := by
        simpa [currentEntitlement, headEq, entitlementEq, eq_comm] using currentEq
      rw [same]
      exact ⟨rfl, rfl⟩

theorem offer_revocable_iff {offerId : Id32} {head : U32} {offer : LexOfferVersion BlockNumber}
    (grounded : Grounded s)
    (dlas : History.Linked s.licensing.dlaHeads s.licensing.dlaVersions)
    (offers : History.Linked s.licensing.offerHeads s.licensing.offerVersions)
    (authorised : env.permits origin = true) {recordHash : Id32} (hashed : recordHash ≠ ZERO_ID)
    (headEq : s.licensing.offerHeads.get offerId = some head)
    (offerEq : s.licensing.offerVersions.get (offerId, head) = some offer)
    (below : head ≠ BitVec.allOnes 32) :
    (∃ s', pallet env origin (.licensing (.recordLexOfferVersion offerId
      (revokedOffer offer head recordHash))) s = .ok () s') ↔
      ∀ limit, offer.validUntil = some limit → env.blockNumber ≤ limit := by
  rw [licensing_succeeds]
  constructor
  · intro succeeds
    obtain ⟨_, _, _, _, _, _, running, _⟩ := recordLexOfferVersion_succeeds.mp succeeds
    exact any_lt_eq_false.mp (Bool.eq_false_iff.mpr running)
  · intro running
    obtain ⟨⟨idOk, dlaOk, templateOk, licensorOk, scopeOk, currencyOk, _⟩, stands⟩ :=
      grounded.offers offerEq
    obtain ⟨dla, currentDlaEq⟩ := exists_currentDla dlas stands
    have accepts : History.Accepts s.licensing.offerHeads s.licensing.offerVersions offerId
        (head + 1#32) (revokedOffer offer head recordHash) :=
      offers.accepts_successor (by decide) headEq offerEq below rfl
    apply recordLexOfferVersion_succeeds.mpr
    refine ⟨authorised, ⟨idOk, dlaOk, templateOk, licensorOk, scopeOk, currencyOk, hashed⟩, dla,
      currentDlaEq, ?_, ?_, Bool.eq_false_iff.mp (any_lt_eq_false.mpr running),
      Option.isNone_iff_eq_none.mpr accepts.fresh, ?_, next_of_accepts accepts⟩
    · intro published
      cases published
    · intro staged
      cases staged
    · intro prior currentEq
      have same : prior = offer := by
        simpa [currentOffer, headEq, offerEq, eq_comm] using currentEq
      rw [same]
      exact ⟨rfl, rfl⟩

/-- In every reachable state and at every block the authority can revoke an
entitlement below the largest head exactly when the current version of its
license still has its holder, and an offer exactly when its term has not passed. -/
theorem entitlements_and_offers_shut_off (genesis : BlockNumber)
    (inputs : List (Input AccountId BlockNumber (Call BlockNumber)))
    (env : Env AccountId BlockNumber) (origin : RawOrigin AccountId)
    (authorised : env.permits origin = true) (recordHash : Id32) (hashed : recordHash ≠ ZERO_ID) :
    let s := (run genesis inputs).storage
    (∀ entitlementId head, s.licensing.entitlementHeads.get entitlementId = some head →
      head < BitVec.allOnes 32 →
        ∃ entitlement,
          s.licensing.entitlementVersions.get (entitlementId, head) = some entitlement ∧
          ((∃ s', pallet env origin (.licensing (.recordEntitlementVersion entitlementId
            (revokedEntitlement entitlement head recordHash))) s = .ok () s') ↔
            ∃ license, currentLicense s.licensing entitlement.licenseId = some license ∧
              license.holderSubjectId = entitlement.holderSubjectId)) ∧
    (∀ offerId head, s.licensing.offerHeads.get offerId = some head →
      head < BitVec.allOnes 32 →
        ∃ offer, s.licensing.offerVersions.get (offerId, head) = some offer ∧
          ((∃ s', pallet env origin (.licensing (.recordLexOfferVersion offerId
            (revokedOffer offer head recordHash))) s = .ok () s') ↔
            ∀ limit, offer.validUntil = some limit → env.blockNumber ≤ limit)) := by
  intro s
  have grounded := grounded_run genesis inputs
  have dlas := (dlas_sound genesis inputs).linked
  have offers := (offers_sound genesis inputs).linked
  have entitlements := (entitlements_sound genesis inputs).linked
  constructor
  · intro entitlementId head headEq below
    obtain ⟨entitlement, entitlementEq⟩ := entitlements.exists_current headEq
    exact ⟨entitlement, entitlementEq, entitlement_revocable_iff grounded entitlements authorised
      hashed headEq entitlementEq (ne_of_lt below)⟩
  · intro offerId head headEq below
    obtain ⟨offer, offerEq⟩ := offers.exists_current headEq
    exact ⟨offer, offerEq, offer_revocable_iff grounded dlas offers authorised hashed headEq
      offerEq (ne_of_lt below)⟩

end Revocation

namespace Sample

def transferableLicense : LicenseVersion U32 :=
  { license with transferable := true }

/-- The license in the hands of another holder. -/
def transferredLicense : LicenseVersion U32 :=
  { transferableLicense with
    version := 2
    holderSubjectId := Id32.repeated 5
    previousRecordHash := some (Id32.repeated 15)
    recordHash := Id32.repeated 25 }

def offer : LexOfferVersion U32 where
  version := 1
  dlaId := Id32.repeated 21
  licenseTemplateHash := Id32.repeated 13
  licensorSubjectId := Id32.repeated 3
  offeredScopeHash := Id32.repeated 16
  excludedScopeHash := ZERO_ID
  price := 100
  currencyId := Id32.repeated 19
  state := .published
  providerActivationVerified := true
  validUntil := some 20
  previousRecordHash := none
  recordHash := Id32.repeated 26

/-- An entitlement is granted under a license and an offer is published; then the
license passes to another holder and the offer's term passes. -/
def transferInputs : List (Input Id32 U32 (Call U32)) :=
  [submit (.rights (.recordRightsInstrument (Id32.repeated 20) record)),
    submit (.licensing (.recordDlaVersion (Id32.repeated 21) dla)),
    submit (.licensing (.recordLicenseVersion (Id32.repeated 22) transferableLicense)),
    submit (.licensing (.recordEntitlementVersion (Id32.repeated 23) entitlement)),
    submit (.licensing (.recordLexOfferVersion (Id32.repeated 24) offer)),
    submit (.licensing (.recordLicenseVersion (Id32.repeated 22) transferredLicense)), .advance 30]

end Sample

open Sample in
/-- After the transfer the entitlement cannot be revoked, and after its term the
published offer cannot be. -/
theorem revocations_blocked :
    let reached := run 1 transferInputs
    (reached.storage.licensing.entitlementHeads.get (Id32.repeated 23) = some 1 ∧
      reached.storage.licensing.entitlementVersions.get (Id32.repeated 23, 1) = some entitlement ∧
      ∀ s', pallet (env reached.now) .root (.licensing (.recordEntitlementVersion (Id32.repeated 23)
        (revokedEntitlement entitlement 1 (Id32.repeated 30)))) reached.storage ≠ .ok () s') ∧
    (reached.storage.licensing.offerHeads.get (Id32.repeated 24) = some 1 ∧
      reached.storage.licensing.offerVersions.get (Id32.repeated 24, 1) = some offer ∧
      ∀ s', pallet (env reached.now) .root (.licensing (.recordLexOfferVersion (Id32.repeated 24)
        (revokedOffer offer 1 (Id32.repeated 30)))) reached.storage ≠ .ok () s') := by
  intro reached
  let revokeEntitlement : Call U32 := .licensing (.recordEntitlementVersion (Id32.repeated 23)
    (revokedEntitlement entitlement 1 (Id32.repeated 30)))
  let revokeOffer : Call U32 := .licensing (.recordLexOfferVersion (Id32.repeated 24)
    (revokedOffer offer 1 (Id32.repeated 30)))
  -- One evaluation of the run serves all six facts.
  have evaluated :
      (reached.storage.licensing.entitlementHeads.get (Id32.repeated 23) = some 1 ∧
        reached.storage.licensing.entitlementVersions.get (Id32.repeated 23, 1) = some entitlement ∧
        Dispatch.outcome (pallet (env reached.now) .root revokeEntitlement reached.storage) =
          .error (.module (.licensing .entitlementHolderMismatch))) ∧
      (reached.storage.licensing.offerHeads.get (Id32.repeated 24) = some 1 ∧
        reached.storage.licensing.offerVersions.get (Id32.repeated 24, 1) = some offer ∧
        Dispatch.outcome (pallet (env reached.now) .root revokeOffer reached.storage) =
          .error (.module (.licensing .invalidTerm))) := by
    decide +kernel
  obtain ⟨⟨entitlementHead, entitlementStored, entitlementFails⟩, offerHead, offerStored,
    offerFails⟩ := evaluated
  refine ⟨⟨entitlementHead, entitlementStored, ?_⟩, offerHead, offerStored, ?_⟩
  · intro s' done
    rw [done] at entitlementFails
    cases entitlementFails
  · intro s' done
    rw [done] at offerFails
    cases offerFails

open Sample in
/-- Before the transfer and within the term, both can be revoked. -/
theorem entitlements_and_offers_shut_off_sample :
    (∃ s', pallet (env 20) .root (.licensing (.recordEntitlementVersion (Id32.repeated 23)
      (revokedEntitlement entitlement 1 (Id32.repeated 30))))
        (run 1 (transferInputs.take 5)).storage = .ok () s') ∧
    ∃ s', pallet (env 20) .root (.licensing (.recordLexOfferVersion (Id32.repeated 24)
      (revokedOffer offer 1 (Id32.repeated 30)))) (run 1 (transferInputs.take 5)).storage =
        .ok () s' := by
  have shutOff := entitlements_and_offers_shut_off 1 (transferInputs.take 5) (env 20) .root
    (by decide) (Id32.repeated 30) (by decide)
  have evaluated :
      let licensing := (run 1 (transferInputs.take 5)).storage.licensing
      licensing.entitlementHeads.get (Id32.repeated 23) = some 1 ∧
        licensing.entitlementVersions.get (Id32.repeated 23, 1) = some entitlement ∧
        currentLicense licensing entitlement.licenseId = some transferableLicense ∧
        licensing.offerHeads.get (Id32.repeated 24) = some 1 ∧
        licensing.offerVersions.get (Id32.repeated 24, 1) = some offer := by
    decide +kernel
  obtain ⟨entitlementHead, entitlementStored, licenseEq, offerHead, offerStored⟩ := evaluated
  constructor
  · obtain ⟨found, foundEq, revocable⟩ := shutOff.1 (Id32.repeated 23) 1 entitlementHead (by decide)
    have same : found = entitlement := Option.some.inj (foundEq.symm.trans entitlementStored)
    rw [same] at revocable
    exact revocable.mpr ⟨transferableLicense, licenseEq, rfl⟩
  · obtain ⟨found, foundEq, revocable⟩ := shutOff.2 (Id32.repeated 24) 1 offerHead (by decide)
    have same : found = offer := Option.some.inj (foundEq.symm.trans offerStored)
    rw [same] at revocable
    apply revocable.mpr
    intro limit limitEq
    obtain rfl := Option.some.inj limitEq
    decide

end Chlom.Access
