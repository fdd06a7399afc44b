import Chlom.Licensing.Versions
import Chlom.VersionedRecord

/-!
# Bindings of licensing records

Every licensing call appends one version to one of four families of histories.
What a version shares with the next one is a relation of the family: a DLA keeps
its asset, a license its DLA, type and issuer, and so on.
-/

namespace Chlom.Licensing

open Chlom.Frame

variable {AccountId BlockNumber : Type}

instance dlaRevision : History.Revision DlaVersion Id32 where
  previousHash := DlaVersion.previousRecordHash
  recordHash := DlaVersion.recordHash

instance licenseRevision : History.Revision (LicenseVersion BlockNumber) Id32 where
  previousHash := LicenseVersion.previousRecordHash
  recordHash := LicenseVersion.recordHash

instance offerRevision : History.Revision (LexOfferVersion BlockNumber) Id32 where
  previousHash := LexOfferVersion.previousRecordHash
  recordHash := LexOfferVersion.recordHash

instance entitlementRevision : History.Revision (EntitlementVersion BlockNumber) Id32 where
  previousHash := EntitlementVersion.previousRecordHash
  recordHash := EntitlementVersion.recordHash

def SameDla (earlier later : DlaVersion) : Prop :=
  earlier.assetId = later.assetId

/-- A license that is not transferable keeps its holder and stays so. -/
def SameLicense (earlier later : LicenseVersion BlockNumber) : Prop :=
  earlier.dlaId = later.dlaId ∧ earlier.licenseType = later.licenseType ∧
    earlier.issuerSubjectId = later.issuerSubjectId ∧
    (earlier.transferable = false →
      earlier.holderSubjectId = later.holderSubjectId ∧ later.transferable = false)

def SameOffer (earlier later : LexOfferVersion BlockNumber) : Prop :=
  earlier.dlaId = later.dlaId ∧ earlier.licensorSubjectId = later.licensorSubjectId

def SameEntitlement (earlier later : EntitlementVersion BlockNumber) : Prop :=
  earlier.licenseId = later.licenseId ∧ earlier.holderSubjectId = later.holderSubjectId

theorem SameLicense.trans {first second third : LicenseVersion BlockNumber}
    (before : SameLicense first second) (after : SameLicense second third) :
    SameLicense first third := by
  obtain ⟨dla, kind, issuer, bound⟩ := before
  obtain ⟨dla', kind', issuer', bound'⟩ := after
  refine ⟨dla.trans dla', kind.trans kind', issuer.trans issuer', ?_⟩
  intro nontransferable
  have middle := bound nontransferable
  have last := bound' middle.2
  exact ⟨middle.1.trans last.1, last.2⟩

theorem SameOffer.trans {first second third : LexOfferVersion BlockNumber}
    (before : SameOffer first second) (after : SameOffer second third) : SameOffer first third :=
  ⟨before.1.trans after.1, before.2.trans after.2⟩

theorem SameEntitlement.trans {first second third : EntitlementVersion BlockNumber}
    (before : SameEntitlement first second) (after : SameEntitlement second third) :
    SameEntitlement first third :=
  ⟨before.1.trans after.1, before.2.trans after.2⟩

/-- A version that continues its history and is not stored yet is accepted. -/
theorem accepts_of_next {R : Type} [History.Revision R Id32] {heads : StorageMap Id32 U32}
    {versions : StorageMap (Id32 × U32) R} {key : Id32} {version : U32} {value : R}
    (fresh : versions.get (key, version) = none)
    (next : NextVersion (heads.get key) version (History.Revision.previousHash value) fun head =>
      (versions.get (key, head)).map History.Revision.recordHash) :
    History.Accepts heads versions key version value where
  fresh := fresh
  first absent := by
    rw [absent] at next
    exact next
  later {head} headEq := by
    rw [headEq] at next
    exact next

theorem next_of_accepts {R : Type} [History.Revision R Id32] {heads : StorageMap Id32 U32}
    {versions : StorageMap (Id32 × U32) R} {key : Id32} {version : U32} {value : R}
    (accepts : History.Accepts heads versions key version value) :
    NextVersion (heads.get key) version (History.Revision.previousHash value) fun head =>
      (versions.get (key, head)).map History.Revision.recordHash := by
  cases headEq : heads.get key with
  | none => exact accepts.first headEq
  | some head => exact accepts.later headEq

section Changes

variable [LinearOrder BlockNumber] {verifier : RightsVerifier BlockNumber} {now : BlockNumber}
  {s s' : Storage BlockNumber} {call : Call BlockNumber}

theorem Effect.dla_change (effect : Effect verifier now s call s') :
    History.Change DlaVersion.version SameDla s.dlaHeads s.dlaVersions s'.dlaHeads
      s'.dlaVersions := by
  cases effect with
  | dla dlaId value _ _ _ fresh sameAsset _ _ _ next =>
      apply History.Change.append _ _ (accepts_of_next fresh next)
      intro prior head
      exact sameAsset prior head
  | license => exact .unchanged
  | offer => exact .unchanged
  | entitlement => exact .unchanged

theorem Effect.license_change (effect : Effect verifier now s call s') :
    History.Change LicenseVersion.version SameLicense s.licenseHeads s.licenseVersions
      s'.licenseHeads s'.licenseVersions := by
  cases effect with
  | license licenseId value _ _ _ fresh follows next =>
      apply History.Change.append _ _ (accepts_of_next fresh next)
      intro prior head
      obtain ⟨_, ⟨dla, kind, issuer⟩, transfer⟩ := follows prior head
      refine ⟨dla, kind, issuer, ?_⟩
      intro nontransferable
      rcases transfer with allowed | ⟨holder, latched⟩
      · rw [nontransferable] at allowed
        cases allowed
      · exact ⟨holder, Bool.eq_false_iff.mpr latched⟩
  | dla => exact .unchanged
  | offer => exact .unchanged
  | entitlement => exact .unchanged

theorem Effect.offer_change (effect : Effect verifier now s call s') :
    History.Change LexOfferVersion.version SameOffer s.offerHeads s.offerVersions s'.offerHeads
      s'.offerVersions := by
  cases effect with
  | offer offerId value _ _ _ _ _ fresh follows next =>
      apply History.Change.append _ _ (accepts_of_next fresh next)
      intro prior head
      exact follows prior head
  | dla => exact .unchanged
  | license => exact .unchanged
  | entitlement => exact .unchanged

theorem Effect.entitlement_change (effect : Effect verifier now s call s') :
    History.Change EntitlementVersion.version SameEntitlement s.entitlementHeads
      s.entitlementVersions s'.entitlementHeads s'.entitlementVersions := by
  cases effect with
  | entitlement entitlementId value _ _ _ _ fresh follows next =>
      apply History.Change.append _ _ (accepts_of_next fresh next)
      intro prior head
      exact follows prior head
  | dla => exact .unchanged
  | license => exact .unchanged
  | offer => exact .unchanged

end Changes

end Chlom.Licensing
