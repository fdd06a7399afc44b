import Chlom.Authority.Pallet
import Chlom.Identity.Pallet
import Chlom.Access.Histories

/-!
# The seven versioned families

Authority grants, identities, credentials, DLAs, licenses, offers and
entitlements keep complete and linked histories that only grow, and what a
history binds at its first version it binds for good.
-/

namespace Chlom

open Chlom.Frame Licensing

variable {AccountId BlockNumber : Type} [LinearOrder BlockNumber]

omit [LinearOrder BlockNumber] in
/-- Every stored credential is nontransferable, before and after a call. -/
theorem Identity.nonTransferable_of_ok {env : Env AccountId BlockNumber}
    {origin : RawOrigin AccountId} {call : Identity.Call BlockNumber}
    {s s' : Identity.Storage BlockNumber}
    (before : ∀ entry credential, s.credentialVersions.get entry = some credential →
      credential.nonTransferable = true)
    (done : Identity.pallet env origin call s = .ok () s') :
    ∀ entry credential, s'.credentialVersions.get entry = some credential →
      credential.nonTransferable = true := by
  intro entry credential stored
  cases call with
  | recordIdentityVersion subjectId details =>
      obtain ⟨_, _, _, _, versionsEq⟩ := recordIdentityVersion_ok done
      rw [versionsEq] at stored
      exact before entry credential stored
  | recordCredentialVersion credentialId value =>
      obtain ⟨_, _, bound, _, versionsEq, _⟩ := recordCredentialVersion_ok done
      rw [versionsEq] at stored
      rcases StorageMap.get_insert_eq_some.mp stored with ⟨_, rfl⟩ | ⟨_, older⟩
      · exact bound
      · exact before entry credential older

theorem Identity.nonTransferable_run (genesis : BlockNumber)
    (inputs : List (Input AccountId BlockNumber (Identity.Call BlockNumber))) :
    ∀ entry credential,
      (Identity.run genesis inputs).storage.credentialVersions.get entry = some credential →
        credential.nonTransferable = true := by
  have invariant : Invariant (@Identity.pallet AccountId BlockNumber) fun _ s =>
      ∀ entry credential, s.credentialVersions.get entry = some credential →
        credential.nonTransferable = true :=
    { passes := fun _ holds => holds
      keeps := fun holds done => nonTransferable_of_ok holds done }
  apply invariant.run
  intro entry credential stored
  cases stored

/-- What a version binds, every later version of the same record binds. -/
theorem bindings_fixed :
    (∀ (genesis : BlockNumber)
      (inputs : List (Input AccountId BlockNumber (Access.Call BlockNumber))),
      let s := (Access.run genesis inputs).storage.licensing
      (∀ licenseId i j earlier later, s.licenseVersions.get (licenseId, i) = some earlier →
        s.licenseVersions.get (licenseId, j) = some later → i < j →
          earlier.dlaId = later.dlaId ∧ earlier.licenseType = later.licenseType ∧
            earlier.issuerSubjectId = later.issuerSubjectId ∧
            (earlier.transferable = false →
              earlier.holderSubjectId = later.holderSubjectId ∧ later.transferable = false)) ∧
      (∀ entitlementId i j earlier later,
        s.entitlementVersions.get (entitlementId, i) = some earlier →
          s.entitlementVersions.get (entitlementId, j) = some later → i < j →
            earlier.licenseId = later.licenseId ∧
              earlier.holderSubjectId = later.holderSubjectId) ∧
      (∀ offerId i j earlier later, s.offerVersions.get (offerId, i) = some earlier →
        s.offerVersions.get (offerId, j) = some later → i < j →
          earlier.dlaId = later.dlaId ∧ earlier.licensorSubjectId = later.licensorSubjectId) ∧
      (∀ dlaId i j earlier later, s.dlaVersions.get (dlaId, i) = some earlier →
        s.dlaVersions.get (dlaId, j) = some later → i < j → earlier.assetId = later.assetId)) ∧
    (∀ (genesis : BlockNumber)
      (inputs : List (Input AccountId BlockNumber (Identity.Call BlockNumber))),
      let s := (Identity.run genesis inputs).storage
      (∀ credentialId i j earlier later,
        s.credentialVersions.get (credentialId, i) = some earlier →
          s.credentialVersions.get (credentialId, j) = some later → i < j →
            earlier.subjectId = later.subjectId ∧
              earlier.credentialType = later.credentialType ∧
              earlier.issuerSubjectId = later.issuerSubjectId) ∧
      (∀ entry credential, s.credentialVersions.get entry = some credential →
        credential.nonTransferable = true)) := by
  constructor
  · intro genesis inputs s
    have licenses := Access.licenses_sound genesis inputs
    have entitlements := Access.entitlements_sound genesis inputs
    have offers := Access.offers_sound genesis inputs
    have dlas := Access.dlas_sound genesis inputs
    exact ⟨licenses.adjacent.related licenses.linked SameLicense.trans,
      entitlements.adjacent.related entitlements.linked SameEntitlement.trans,
      offers.adjacent.related offers.linked SameOffer.trans,
      dlas.adjacent.related dlas.linked Eq.trans⟩
  · intro genesis inputs s
    have credentials := Identity.credentials.sound_run ⟨genesis, .empty BlockNumber⟩
      (History.sound_empty _ _) inputs
    exact ⟨credentials.adjacent.related credentials.linked Identity.SameCredential.trans,
      Identity.nonTransferable_run genesis inputs⟩

/-- In every reachable state each of the seven families is append-only: complete
up to its heads, numbered and linked, never changed afterwards, and closed to
further calls at the largest head. -/
theorem histories_complete :
    (∀ (genesis : BlockNumber)
      (inputs : List (Input AccountId BlockNumber (Authority.Call BlockNumber))),
      AppendOnly (@Authority.pallet AccountId BlockNumber) Authority.Storage.grantHeads
        Authority.Storage.grantVersions Authority.AuthorityGrant.version
        (fun key value => .recordGrantVersion key.subjectId key.roleId value)
        (Authority.run genesis inputs)) ∧
    (∀ (genesis : BlockNumber)
      (inputs : List (Input AccountId BlockNumber (Identity.Call BlockNumber))),
      AppendOnly (@Identity.pallet AccountId BlockNumber) Identity.Storage.identityHeads
        Identity.Storage.identityVersions (fun value => value.version) .recordIdentityVersion
        (Identity.run genesis inputs) ∧
      AppendOnly (@Identity.pallet AccountId BlockNumber) Identity.Storage.credentialHeads
        Identity.Storage.credentialVersions Identity.CredentialVersion.version
        .recordCredentialVersion (Identity.run genesis inputs)) ∧
    (∀ (genesis : BlockNumber)
      (inputs : List (Input AccountId BlockNumber (Access.Call BlockNumber))),
      AppendOnly (@Access.pallet AccountId BlockNumber _) (fun s => s.licensing.dlaHeads)
        (fun s => s.licensing.dlaVersions) DlaVersion.version
        (fun dlaId value => .licensing (.recordDlaVersion dlaId value))
        (Access.run genesis inputs) ∧
      AppendOnly (@Access.pallet AccountId BlockNumber _) (fun s => s.licensing.licenseHeads)
        (fun s => s.licensing.licenseVersions) LicenseVersion.version
        (fun licenseId value => .licensing (.recordLicenseVersion licenseId value))
        (Access.run genesis inputs) ∧
      AppendOnly (@Access.pallet AccountId BlockNumber _) (fun s => s.licensing.offerHeads)
        (fun s => s.licensing.offerVersions) LexOfferVersion.version
        (fun offerId value => .licensing (.recordLexOfferVersion offerId value))
        (Access.run genesis inputs) ∧
      AppendOnly (@Access.pallet AccountId BlockNumber _) (fun s => s.licensing.entitlementHeads)
        (fun s => s.licensing.entitlementVersions) EntitlementVersion.version
        (fun entitlementId value =>
          .licensing (.recordEntitlementVersion entitlementId value))
        (Access.run genesis inputs)) := by
  refine ⟨?_, ?_, ?_⟩
  · intro genesis inputs
    apply Authority.grants.appendOnly _ ⟨genesis, .empty BlockNumber⟩ (History.sound_empty _ _)
    intro env origin key value s s' done
    exact ⟨value, (Authority.recordGrantVersion_ok done).2.1⟩
  · intro genesis inputs
    constructor
    · apply Identity.identities.appendOnly _ ⟨genesis, .empty BlockNumber⟩ (History.sound_empty _ _)
      intro env origin subjectId details s s' done
      exact ⟨_, (Identity.recordIdentityVersion_ok done).1⟩
    · apply Identity.credentials.appendOnly _ ⟨genesis, .empty BlockNumber⟩
        (History.sound_empty _ _)
      intro env origin credentialId value s s' done
      exact ⟨value, (Identity.recordCredentialVersion_ok done).1⟩
  · intro genesis inputs
    refine ⟨?_, ?_, ?_, ?_⟩
    · apply Access.dlas.appendOnly _ ⟨genesis, .empty BlockNumber⟩ (History.sound_empty _ _)
      intro env origin dlaId value s s' done
      obtain ⟨verifier, effect⟩ := Access.licensing_effect done
      generalize s'.licensing = licensing at effect
      cases effect with
      | dla _ _ _ _ _ fresh _ _ _ _ next => exact ⟨value, accepts_of_next fresh next⟩
    · apply Access.licenses.appendOnly _ ⟨genesis, .empty BlockNumber⟩ (History.sound_empty _ _)
      intro env origin licenseId value s s' done
      obtain ⟨verifier, effect⟩ := Access.licensing_effect done
      generalize s'.licensing = licensing at effect
      cases effect with
      | license _ _ _ _ _ fresh _ next => exact ⟨value, accepts_of_next fresh next⟩
    · apply Access.offers.appendOnly _ ⟨genesis, .empty BlockNumber⟩ (History.sound_empty _ _)
      intro env origin offerId value s s' done
      obtain ⟨verifier, effect⟩ := Access.licensing_effect done
      generalize s'.licensing = licensing at effect
      cases effect with
      | offer _ _ _ _ _ _ _ fresh _ next => exact ⟨value, accepts_of_next fresh next⟩
    · apply Access.entitlements.appendOnly _ ⟨genesis, .empty BlockNumber⟩ (History.sound_empty _ _)
      intro env origin entitlementId value s s' done
      obtain ⟨verifier, effect⟩ := Access.licensing_effect done
      generalize s'.licensing = licensing at effect
      cases effect with
      | entitlement _ _ _ _ _ _ fresh _ next => exact ⟨value, accepts_of_next fresh next⟩

end Chlom
