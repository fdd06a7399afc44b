import Chlom.Access.Chain
import Chlom.Licensing.Bindings

/-!
# The licensing histories on the chain of both pallets

A rights call leaves all four families alone, and a licensing call appends to
one of them, so each is a family of the combined chain.
-/

namespace Chlom.Access

open Chlom.Frame Licensing

variable {AccountId BlockNumber : Type} [LinearOrder BlockNumber]

/-- A successful licensing call on the chain has its effect under some verifier. -/
theorem licensing_effect {env : Env AccountId BlockNumber} {origin : RawOrigin AccountId}
    {inner : Licensing.Call BlockNumber} {s s' : Storage BlockNumber}
    (done : pallet env origin (.licensing inner) s = .ok () s') :
    ∃ verifier, Licensing.Effect verifier env.blockNumber s.licensing inner s'.licensing := by
  rcases pallet_effect done with ⟨_, impossible, _⟩ | ⟨found, same, effect, _⟩
  · cases impossible
  · obtain rfl := Call.licensing.inj same
    exact ⟨_, effect⟩

/-- What every licensing call does to a family, every call on the chain does. -/
theorem change_of_effect {K R : Type} [DecidableEq K] [History.Revision R Id32]
    {heads : Licensing.Storage BlockNumber → StorageMap K U32}
    {versions : Licensing.Storage BlockNumber → StorageMap (K × U32) R} {number : R → U32}
    {Rel : R → R → Prop}
    (change : ∀ {verifier : RightsVerifier BlockNumber} {now : BlockNumber}
      {s s' : Licensing.Storage BlockNumber} {call : Licensing.Call BlockNumber},
      Licensing.Effect verifier now s call s' →
        History.Change number Rel (heads s) (versions s) (heads s') (versions s'))
    {env : Env AccountId BlockNumber} {origin : RawOrigin AccountId} {call : Call BlockNumber}
    {s s' : Storage BlockNumber} (done : pallet env origin call s = .ok () s') :
    History.Change number Rel (heads s.licensing) (versions s.licensing) (heads s'.licensing)
      (versions s'.licensing) := by
  rcases pallet_effect done with ⟨_, _, _, same⟩ | ⟨_, _, effect, _⟩
  · rw [same]
    exact .unchanged
  · exact change effect

theorem dlas : Family (@pallet AccountId BlockNumber _) (fun s => s.licensing.dlaHeads)
    (fun s => s.licensing.dlaVersions) DlaVersion.version SameDla where
  changed done := change_of_effect Effect.dla_change done

theorem licenses : Family (@pallet AccountId BlockNumber _) (fun s => s.licensing.licenseHeads)
    (fun s => s.licensing.licenseVersions) LicenseVersion.version SameLicense where
  changed done := change_of_effect Effect.license_change done

theorem offers : Family (@pallet AccountId BlockNumber _) (fun s => s.licensing.offerHeads)
    (fun s => s.licensing.offerVersions) LexOfferVersion.version SameOffer where
  changed done := change_of_effect Effect.offer_change done

theorem entitlements : Family (@pallet AccountId BlockNumber _)
    (fun s => s.licensing.entitlementHeads) (fun s => s.licensing.entitlementVersions)
    EntitlementVersion.version SameEntitlement where
  changed done := change_of_effect Effect.entitlement_change done

/-! ## From empty storage -/

section Runs

variable (genesis : BlockNumber) (inputs : List (Input AccountId BlockNumber (Call BlockNumber)))

theorem dlas_sound :
    History.Sound DlaVersion.version SameDla (run genesis inputs).storage.licensing.dlaHeads
      (run genesis inputs).storage.licensing.dlaVersions :=
  dlas.sound_run ⟨genesis, .empty BlockNumber⟩ (History.sound_empty _ _) inputs

theorem licenses_sound :
    History.Sound LicenseVersion.version SameLicense
      (run genesis inputs).storage.licensing.licenseHeads
      (run genesis inputs).storage.licensing.licenseVersions :=
  licenses.sound_run ⟨genesis, .empty BlockNumber⟩ (History.sound_empty _ _) inputs

theorem offers_sound :
    History.Sound LexOfferVersion.version SameOffer
      (run genesis inputs).storage.licensing.offerHeads
      (run genesis inputs).storage.licensing.offerVersions :=
  offers.sound_run ⟨genesis, .empty BlockNumber⟩ (History.sound_empty _ _) inputs

theorem entitlements_sound :
    History.Sound EntitlementVersion.version SameEntitlement
      (run genesis inputs).storage.licensing.entitlementHeads
      (run genesis inputs).storage.licensing.entitlementVersions :=
  entitlements.sound_run ⟨genesis, .empty BlockNumber⟩ (History.sound_empty _ _) inputs

end Runs

end Chlom.Access
