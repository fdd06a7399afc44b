import Chlom.Access.Histories
import Chlom.Licensing.Guards
import Chlom.Rights.Supersession

/-!
# What stored records stand on

Every stored version has nonzero identifiers and stands on a record that exists
for good: a DLA on an instrument in the state it recorded, a license and an
offer on a DLA, an entitlement on a license.
-/

namespace Chlom.Access

open Chlom.Frame Licensing

variable {AccountId BlockNumber : Type}

/-- The instrument of a DLA is stored in the state the DLA recorded. -/
def DlaGrounded (s : Storage BlockNumber) (dlaId : Id32) (value : DlaVersion) : Prop :=
  value.Identified dlaId ∧
    ∃ record, s.rights.rightsInstruments.get value.rightsInstrumentId = some record ∧
      record.assetId = value.assetId ∧ record.assetVersionHash = value.assetVersionHash ∧
      record.state = value.rightsState

def LicenseGrounded (s : Storage BlockNumber) (licenseId : Id32)
    (value : LicenseVersion BlockNumber) : Prop :=
  value.Identified licenseId ∧ s.licensing.dlaHeads.get value.dlaId ≠ none

def OfferGrounded (s : Storage BlockNumber) (offerId : Id32)
    (value : LexOfferVersion BlockNumber) : Prop :=
  value.Identified offerId ∧ s.licensing.dlaHeads.get value.dlaId ≠ none

def EntitlementGrounded (s : Storage BlockNumber) (entitlementId : Id32)
    (value : EntitlementVersion BlockNumber) : Prop :=
  value.Identified entitlementId ∧ s.licensing.licenseHeads.get value.licenseId ≠ none

/-- Every stored version is grounded. -/
structure Grounded (s : Storage BlockNumber) : Prop where
  dlas : ∀ {dlaId version value}, s.licensing.dlaVersions.get (dlaId, version) = some value →
    DlaGrounded s dlaId value
  licenses : ∀ {licenseId version value},
    s.licensing.licenseVersions.get (licenseId, version) = some value →
      LicenseGrounded s licenseId value
  offers : ∀ {offerId version value},
    s.licensing.offerVersions.get (offerId, version) = some value → OfferGrounded s offerId value
  entitlements : ∀ {entitlementId version value},
    s.licensing.entitlementVersions.get (entitlementId, version) = some value →
      EntitlementGrounded s entitlementId value

/-- The grounds of the first storage are grounds in the second. -/
structure Grows (s s' : Storage BlockNumber) : Prop where
  instruments : ∀ {instrumentId record}, s.rights.rightsInstruments.get instrumentId = some record →
    s'.rights.rightsInstruments.get instrumentId = some record
  dlaHeads : ∀ {dlaId}, s.licensing.dlaHeads.get dlaId ≠ none →
    s'.licensing.dlaHeads.get dlaId ≠ none
  licenseHeads : ∀ {licenseId}, s.licensing.licenseHeads.get licenseId ≠ none →
    s'.licensing.licenseHeads.get licenseId ≠ none

theorem grounded_empty : Grounded (Storage.empty BlockNumber) where
  dlas stored := by cases stored
  licenses stored := by cases stored
  offers stored := by cases stored
  entitlements stored := by cases stored

/-- Grounds that grow keep the old versions grounded, so that only new versions
need to be. -/
theorem Grounded.grow {s s' : Storage BlockNumber} (grounded : Grounded s) (grows : Grows s s')
    (dlas : ∀ {dlaId version value}, s'.licensing.dlaVersions.get (dlaId, version) = some value →
      s.licensing.dlaVersions.get (dlaId, version) = some value ∨ DlaGrounded s' dlaId value)
    (licenses : ∀ {licenseId version value},
      s'.licensing.licenseVersions.get (licenseId, version) = some value →
        s.licensing.licenseVersions.get (licenseId, version) = some value ∨
          LicenseGrounded s' licenseId value)
    (offers : ∀ {offerId version value},
      s'.licensing.offerVersions.get (offerId, version) = some value →
        s.licensing.offerVersions.get (offerId, version) = some value ∨
          OfferGrounded s' offerId value)
    (entitlements : ∀ {entitlementId version value},
      s'.licensing.entitlementVersions.get (entitlementId, version) = some value →
        s.licensing.entitlementVersions.get (entitlementId, version) = some value ∨
          EntitlementGrounded s' entitlementId value) : Grounded s' where
  dlas stored := by
    rcases dlas stored with before | new
    · obtain ⟨identified, record, found, bound⟩ := grounded.dlas before
      exact ⟨identified, record, grows.instruments found, bound⟩
    · exact new
  licenses stored := by
    rcases licenses stored with before | new
    · have held := grounded.licenses before
      exact ⟨held.1, grows.dlaHeads held.2⟩
    · exact new
  offers stored := by
    rcases offers stored with before | new
    · have held := grounded.offers before
      exact ⟨held.1, grows.dlaHeads held.2⟩
    · exact new
  entitlements stored := by
    rcases entitlements stored with before | new
    · have held := grounded.entitlements before
      exact ⟨held.1, grows.licenseHeads held.2⟩
    · exact new

/-- A written head keeps all heads in place. -/
theorem head_insert_ne_none {heads : StorageMap Id32 U32} {key other : Id32} {version : U32}
    (present : heads.get key ≠ none) : (heads.insert other version).get key ≠ none := by
  rw [StorageMap.get_insert]
  split
  · exact Option.some_ne_none _
  · exact present

variable [LinearOrder BlockNumber]

section Step

variable {verifier : RightsVerifier BlockNumber} {env : Env AccountId BlockNumber}
  {origin : RawOrigin AccountId} {s s' : Storage BlockNumber}

theorem Grounded.dla {dlaId : Id32} {value : DlaVersion} {licensing : Licensing.Storage BlockNumber}
    (grounded : Grounded s)
    (done : recordDlaVersion (instrument s.rights) env origin dlaId value s.licensing =
      .ok () licensing) : Grounded { s with licensing } := by
  obtain ⟨_, identified, _, rights, found, ⟨asset, version, state⟩, _⟩ :=
    recordDlaVersion_succeeds.mp ⟨licensing, done⟩
  obtain ⟨record, stored, assetEq, versionEq, stateEq, _⟩ := instrument_eq_some.mp found
  have bound : record.assetId = value.assetId ∧
      record.assetVersionHash = value.assetVersionHash ∧ record.state = value.rightsState :=
    ⟨assetEq.symm.trans asset, versionEq.symm.trans version, stateEq.symm.trans state⟩
  have effect := recordDlaVersion_effect done
  cases effect with
  | dla =>
      apply grounded.grow
      · exact ⟨id, head_insert_ne_none, id⟩
      · intro other number found present
        rcases StorageMap.get_insert_eq_some.mp present with ⟨same, rfl⟩ | ⟨_, before⟩
        · obtain rfl := (Prod.mk.inj same).1
          exact .inr ⟨identified, record, stored, bound⟩
        · exact .inl before
      · exact .inl
      · exact .inl
      · exact .inl

theorem Grounded.license {licenseId : Id32} {value : LicenseVersion BlockNumber}
    {licensing : Licensing.Storage BlockNumber} (grounded : Grounded s)
    (done : recordLicenseVersion verifier env origin licenseId value s.licensing =
      .ok () licensing) : Grounded { s with licensing } := by
  obtain ⟨_, identified, dla, stands, _⟩ := recordLicenseVersion_succeeds.mp ⟨licensing, done⟩
  obtain ⟨head, headEq, _⟩ := Option.bind_eq_some_iff.mp stands
  have effect := recordLicenseVersion_effect done
  cases effect with
  | license =>
      apply grounded.grow
      · exact ⟨id, id, head_insert_ne_none⟩
      · exact .inl
      · intro other number found present
        rcases StorageMap.get_insert_eq_some.mp present with ⟨same, rfl⟩ | ⟨_, before⟩
        · obtain rfl := (Prod.mk.inj same).1
          have grounds : s.licensing.dlaHeads.get value.dlaId ≠ none := by simp [headEq]
          exact .inr ⟨identified, grounds⟩
        · exact .inl before
      · exact .inl
      · exact .inl

theorem Grounded.offer {offerId : Id32} {value : LexOfferVersion BlockNumber}
    {licensing : Licensing.Storage BlockNumber} (grounded : Grounded s)
    (done : recordLexOfferVersion verifier env origin offerId value s.licensing =
      .ok () licensing) : Grounded { s with licensing } := by
  obtain ⟨_, identified, dla, stands, _⟩ := recordLexOfferVersion_succeeds.mp ⟨licensing, done⟩
  obtain ⟨head, headEq, _⟩ := Option.bind_eq_some_iff.mp stands
  have effect := recordLexOfferVersion_effect done
  cases effect with
  | offer =>
      apply grounded.grow
      · exact ⟨id, id, id⟩
      · exact .inl
      · exact .inl
      · intro other number found present
        rcases StorageMap.get_insert_eq_some.mp present with ⟨same, rfl⟩ | ⟨_, before⟩
        · obtain rfl := (Prod.mk.inj same).1
          have grounds : s.licensing.dlaHeads.get value.dlaId ≠ none := by simp [headEq]
          exact .inr ⟨identified, grounds⟩
        · exact .inl before
      · exact .inl

theorem Grounded.entitlement {entitlementId : Id32} {value : EntitlementVersion BlockNumber}
    {licensing : Licensing.Storage BlockNumber} (grounded : Grounded s)
    (done : recordEntitlementVersion verifier env origin entitlementId value s.licensing =
      .ok () licensing) : Grounded { s with licensing } := by
  obtain ⟨_, identified, license, stands, _⟩ :=
    recordEntitlementVersion_succeeds.mp ⟨licensing, done⟩
  obtain ⟨head, headEq, _⟩ := Option.bind_eq_some_iff.mp stands
  have effect := recordEntitlementVersion_effect done
  cases effect with
  | entitlement =>
      apply grounded.grow
      · exact ⟨id, id, id⟩
      · exact .inl
      · exact .inl
      · exact .inl
      · intro other number found present
        rcases StorageMap.get_insert_eq_some.mp present with ⟨same, rfl⟩ | ⟨_, before⟩
        · obtain rfl := (Prod.mk.inj same).1
          have grounds : s.licensing.licenseHeads.get value.licenseId ≠ none := by simp [headEq]
          exact .inr ⟨identified, grounds⟩
        · exact .inl before

/-- Every successful call keeps the stored versions grounded. -/
theorem Grounded.step {call : Call BlockNumber} (grounded : Grounded s)
    (done : pallet env origin call s = .ok () s') : Grounded s' := by
  cases call with
  | rights inner =>
      simp only [pallet, Dispatch.zoom_ok] at done
      obtain ⟨rights, ran, rfl⟩ := done
      have keeps := (Rights.pallet_effect ran).keeps
      apply grounded.grow
      · exact ⟨keeps.instruments _ _, id, id⟩
      · exact .inl
      · exact .inl
      · exact .inl
      · exact .inl
  | licensing inner =>
      simp only [pallet, Dispatch.zoom_ok] at done
      obtain ⟨licensing, ran, rfl⟩ := done
      cases inner with
      | recordDlaVersion => exact grounded.dla ran
      | recordLicenseVersion => exact grounded.license ran
      | recordLexOfferVersion => exact grounded.offer ran
      | recordEntitlementVersion => exact grounded.entitlement ran

theorem grounded_run (genesis : BlockNumber)
    (inputs : List (Input AccountId BlockNumber (Call BlockNumber))) :
    Grounded (run genesis inputs).storage := by
  have invariant : Invariant (@pallet AccountId BlockNumber _) fun _ s => Grounded s :=
    { passes := fun _ grounded => grounded
      keeps := fun grounded done => grounded.step done }
  exact invariant.run grounded_empty inputs

end Step

end Chlom.Access
