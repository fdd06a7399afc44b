import Chlom.Licensing.Versions
import Chlom.Rights.Records

/-!
# Rights and licensing on one chain

The runtime resolves the licensing pallet's rights lookup against the storage of
the rights pallet, so that both pallets advance one combined state.
-/

namespace Chlom.Access

open Chlom.Frame

variable {AccountId BlockNumber : Type}

/-- The storage of both pallets. -/
structure Storage (BlockNumber : Type) where
  rights : Rights.Storage BlockNumber
  licensing : Licensing.Storage BlockNumber

def Storage.empty (BlockNumber : Type) : Storage BlockNumber where
  rights := .empty BlockNumber
  licensing := .empty BlockNumber

/-- The runtime's rights verifier. -/
def instrument (rights : Rights.Storage BlockNumber) : Licensing.RightsVerifier BlockNumber :=
  fun instrumentId => (rights.rightsInstruments.get instrumentId).map fun record =>
    { assetId := record.assetId
      assetVersionHash := record.assetVersionHash
      state := record.state
      validFrom := record.validFrom
      validUntil := record.validUntil
      superseded := (rights.rightsSupersededBy.get instrumentId).isSome }

inductive Error where
  | rights (error : Rights.Error)
  | licensing (error : Licensing.Error)
  deriving DecidableEq

inductive Call (BlockNumber : Type) where
  | rights (call : Rights.Call BlockNumber)
  | licensing (call : Licensing.Call BlockNumber)

variable [LinearOrder BlockNumber]

/-- Each call runs in its own pallet; a submission's verdict is the one of that
pallet's privileged origin. -/
def pallet : Pallet AccountId BlockNumber (Storage BlockNumber) Error (Call BlockNumber) :=
  fun env origin call s => match call with
    | .rights call =>
        Dispatch.zoom Storage.rights (fun whole rights => { whole with rights })
          (DispatchError.map Error.rights) (Rights.pallet env origin call) s
    | .licensing call =>
        Dispatch.zoom Storage.licensing (fun whole licensing => { whole with licensing })
          (DispatchError.map Error.licensing)
          (Licensing.pallet (instrument s.rights) env origin call) s

/-- The chain after a list of inputs from empty storage at a genesis block. -/
abbrev run (genesis : BlockNumber)
    (inputs : List (Input AccountId BlockNumber (Call BlockNumber))) :
    World BlockNumber (Storage BlockNumber) :=
  Frame.run pallet ⟨genesis, .empty BlockNumber⟩ inputs

section Effects

variable {env : Env AccountId BlockNumber} {origin : RawOrigin AccountId}
  {s s' : Storage BlockNumber} {call : Call BlockNumber}

/-- A successful call has the effect of its own pallet and leaves the other
pallet's storage alone. -/
theorem pallet_effect (done : pallet env origin call s = .ok () s') :
    (∃ inner, call = .rights inner ∧ Rights.Effect s.rights inner s'.rights ∧
      s'.licensing = s.licensing) ∨
    ∃ inner, call = .licensing inner ∧
      Licensing.Effect (instrument s.rights) env.blockNumber s.licensing inner s'.licensing ∧
      s'.rights = s.rights := by
  cases call with
  | rights inner =>
      simp only [pallet, Dispatch.zoom_ok] at done
      obtain ⟨part, ran, rfl⟩ := done
      exact .inl ⟨inner, rfl, Rights.pallet_effect ran, rfl⟩
  | licensing inner =>
      simp only [pallet, Dispatch.zoom_ok] at done
      obtain ⟨part, ran, rfl⟩ := done
      exact .inr ⟨inner, rfl, Licensing.pallet_effect ran, rfl⟩

end Effects

omit [LinearOrder BlockNumber] in
/-- What the verifier knows of an instrument is its stored record. -/
theorem instrument_eq_some {rights : Rights.Storage BlockNumber} {instrumentId : Id32}
    {reference : Licensing.RightsReference BlockNumber} :
    instrument rights instrumentId = some reference ↔
      ∃ record, rights.rightsInstruments.get instrumentId = some record ∧
        reference.assetId = record.assetId ∧
        reference.assetVersionHash = record.assetVersionHash ∧ reference.state = record.state ∧
        reference.validFrom = record.validFrom ∧ reference.validUntil = record.validUntil ∧
        reference.superseded = (rights.rightsSupersededBy.get instrumentId).isSome := by
  rw [instrument, Option.map_eq_some_iff]
  constructor
  · rintro ⟨record, stored, rfl⟩
    exact ⟨record, stored, rfl, rfl, rfl, rfl, rfl, rfl⟩
  · rintro ⟨record, stored, asset, version, state, start, finish, superseded⟩
    refine ⟨record, stored, ?_⟩
    cases reference
    simp_all

/-- Contractual instruments stay backed through both pallets. -/
theorem instrumentsBacked_invariant :
    Invariant (@pallet AccountId BlockNumber _) fun _ s => Rights.InstrumentsBacked s.rights where
  passes _ backed := backed
  keeps backed done := by
    rcases pallet_effect done with ⟨_, _, effect, _⟩ | ⟨_, _, _, same⟩
    · exact effect.instrumentsBacked backed
    · rw [same]
      exact backed

theorem instrumentsBacked_run (genesis : BlockNumber)
    (inputs : List (Input AccountId BlockNumber (Call BlockNumber))) :
    Rights.InstrumentsBacked (run genesis inputs).storage.rights :=
  instrumentsBacked_invariant.run Rights.instrumentsBacked_empty inputs

end Chlom.Access
