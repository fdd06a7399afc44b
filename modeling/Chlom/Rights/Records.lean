import Chlom.Rights.Pallet

/-!
# What a successful rights call does

A call files one new record and, when the record supersedes an earlier one,
closes that one off.  Records and supersessions are never taken back, and a
record that stands on a contract is backed by the highest authority class and a
governing instrument.
-/

namespace Chlom.Rights

open Chlom.Frame

variable {AccountId BlockNumber : Type}

/-- Mark a record as superseded, if the new one names it. -/
def supersede (supersededBy : StorageMap Id32 Id32) (prior : Option Id32) (successor : Id32) :
    StorageMap Id32 Id32 :=
  match prior with
  | none => supersededBy
  | some priorId => supersededBy.insert priorId successor

/-- A supersession is never taken back. -/
theorem supersede_ne_none {supersededBy : StorageMap Id32 Id32} {prior : Option Id32}
    {successor key : Id32} (superseded : supersededBy.get key ≠ none) :
    (supersede supersededBy prior successor).get key ≠ none := by
  cases prior with
  | none => exact superseded
  | some priorId =>
      change (supersededBy.insert priorId successor).get key ≠ none
      rw [StorageMap.get_insert]
      split
      · exact Option.some_ne_none _
      · exact superseded

/-- A contractual record is backed by authority class D3 and a governing instrument. -/
def Backed (state : RecordState) (authorityClass : AuthorityClass)
    (governingHash : Option Id32) : Prop :=
  state.Contractual → authorityClass = .d3 ∧ ∃ hash, governingHash = some hash ∧ hash ≠ ZERO_ID

/-- Everything a successful call can do. -/
inductive Effect (s : Storage BlockNumber) : Call BlockNumber → Storage BlockNumber → Prop
  | ownershipInterest (interestId : Id32) (value : OwnershipInterest)
      (fresh : s.ownershipInterests.get interestId = none)
      (backed : Backed value.state value.authorityClass value.basisInstrumentHash)
      (supersedes : ∀ priorId, value.supersedesInterestId = some priorId →
        (∃ prior, s.ownershipInterests.get priorId = some prior ∧
          prior.assetId = value.assetId) ∧ s.ownershipSupersededBy.get priorId = none) :
      Effect s (.recordOwnershipInterest interestId value)
        { s with
          ownershipInterests := s.ownershipInterests.insert interestId value
          ownershipSupersededBy :=
            supersede s.ownershipSupersededBy value.supersedesInterestId interestId
          events := s.events ++ [.ownershipInterestRecorded interestId value.assetId
            value.holderSubjectId value.state value.recordHash] }
  | rightsInstrument (instrumentId : Id32) (value : RightsInstrument BlockNumber)
      (fresh : s.rightsInstruments.get instrumentId = none)
      (backed : Backed value.state value.authorityClass value.governingInstrumentHash)
      (supersedes : ∀ priorId, value.supersedesInstrumentId = some priorId →
        (∃ prior, s.rightsInstruments.get priorId = some prior ∧
          prior.assetId = value.assetId) ∧ s.rightsSupersededBy.get priorId = none) :
      Effect s (.recordRightsInstrument instrumentId value)
        { s with
          rightsInstruments := s.rightsInstruments.insert instrumentId value
          rightsSupersededBy :=
            supersede s.rightsSupersededBy value.supersedesInstrumentId instrumentId
          events := s.events ++ [.rightsInstrumentRecorded instrumentId value.assetId
            value.grantorSubjectId value.granteeSubjectId value.state value.recordHash] }

section Specifications

variable [LinearOrder BlockNumber] {env : Env AccountId BlockNumber} {origin : RawOrigin AccountId}
  {s s' : Storage BlockNumber}

omit [LinearOrder BlockNumber] in
/-- The contractual checks of both kinds of record. -/
theorem backed_of_checks {state : RecordState} {authorityClass : AuthorityClass}
    {governingHash : Option Id32}
    (checked : state.Contractual → authorityClass.permits .d3 ∧
      governingHash.any (· ≠ ZERO_ID) = true) :
    Backed state authorityClass governingHash := by
  intro contractual
  obtain ⟨permitted, governed⟩ := checked contractual
  simp only [Option.any_eq_true, decide_eq_true_eq] at governed
  exact ⟨AuthorityClass.permits_d3.mp permitted, governed⟩

omit [LinearOrder BlockNumber] in
theorem recordOwnershipInterest_effect {interestId : Id32} {value : OwnershipInterest}
    (done : recordOwnershipInterest env origin interestId value s = .ok () s') :
    Effect s (.recordOwnershipInterest interestId value) s' := by
  simp only [recordOwnershipInterest, ensureOrigin_bind_ok, ensure_bind_ok, ensure_ok, and_true,
    Dispatch.read_bind, Dispatch.onlyIf_bind_ok, Dispatch.ifSome_bind_ok, okOr_bind_ok,
    Dispatch.write_apply, Dispatch.write_bind, depositEvent] at done
  obtain ⟨_, _, _, absent, checked, marked, superseding, unsuperseding, done⟩ := done
  have backed := backed_of_checks checked
  have fresh := Option.isNone_iff_eq_none.mp absent
  have supersedes : ∀ priorId, value.supersedesInterestId = some priorId →
      (∃ prior, s.ownershipInterests.get priorId = some prior ∧
        prior.assetId = value.assetId) ∧ s.ownershipSupersededBy.get priorId = none := by
    intro priorId named
    obtain ⟨prior, stored, asset, unmarked, _⟩ := superseding priorId named
    exact ⟨⟨prior, stored, asset⟩, Option.isNone_iff_eq_none.mp unmarked⟩
  have effect := Effect.ownershipInterest interestId value fresh backed supersedes
  obtain rfl := (EStateM.Result.ok.inj done).2
  cases named : value.supersedesInterestId with
  | none =>
      obtain rfl := unsuperseding named
      rw [named] at effect
      exact effect
  | some priorId =>
      obtain ⟨_, _, _, _, written⟩ := superseding priorId named
      obtain rfl := (EStateM.Result.ok.inj written).2
      rw [named] at effect
      exact effect

theorem recordRightsInstrument_effect {instrumentId : Id32} {value : RightsInstrument BlockNumber}
    (done : recordRightsInstrument env origin instrumentId value s = .ok () s') :
    Effect s (.recordRightsInstrument instrumentId value) s' := by
  simp only [recordRightsInstrument, ensureOrigin_bind_ok, ensure_bind_ok, ensure_ok, and_true,
    Dispatch.read_bind, Dispatch.onlyIf_bind_ok, Dispatch.ifSome_bind_ok, okOr_bind_ok,
    Dispatch.write_apply, Dispatch.write_bind, depositEvent] at done
  obtain ⟨_, _, absent, _, checked, marked, superseding, unsuperseding, done⟩ := done
  have backed := backed_of_checks checked
  have fresh := Option.isNone_iff_eq_none.mp absent
  have supersedes : ∀ priorId, value.supersedesInstrumentId = some priorId →
      (∃ prior, s.rightsInstruments.get priorId = some prior ∧
        prior.assetId = value.assetId) ∧ s.rightsSupersededBy.get priorId = none := by
    intro priorId named
    obtain ⟨prior, stored, asset, unmarked, _⟩ := superseding priorId named
    exact ⟨⟨prior, stored, asset⟩, Option.isNone_iff_eq_none.mp unmarked⟩
  have effect := Effect.rightsInstrument instrumentId value fresh backed supersedes
  obtain rfl := (EStateM.Result.ok.inj done).2
  cases named : value.supersedesInstrumentId with
  | none =>
      obtain rfl := unsuperseding named
      rw [named] at effect
      exact effect
  | some priorId =>
      obtain ⟨_, _, _, _, written⟩ := superseding priorId named
      obtain rfl := (EStateM.Result.ok.inj written).2
      rw [named] at effect
      exact effect

/-- Every successful call has one of the listed effects. -/
theorem pallet_effect {call : Call BlockNumber} (done : pallet env origin call s = .ok () s') :
    Effect s call s' := by
  cases call with
  | recordOwnershipInterest => exact recordOwnershipInterest_effect done
  | recordRightsInstrument => exact recordRightsInstrument_effect done

end Specifications

section Invariants

variable {s s' : Storage BlockNumber} {call : Call BlockNumber}

/-- Every stored instrument that stands on a contract is backed. -/
def InstrumentsBacked (s : Storage BlockNumber) : Prop :=
  ∀ instrumentId record, s.rightsInstruments.get instrumentId = some record →
    Backed record.state record.authorityClass record.governingInstrumentHash

theorem Effect.instrumentsBacked (effect : Effect s call s') (backed : InstrumentsBacked s) :
    InstrumentsBacked s' := by
  cases effect with
  | ownershipInterest => exact backed
  | rightsInstrument instrumentId value _ valueBacked =>
      intro other record stored
      rcases StorageMap.get_insert_eq_some.mp stored with ⟨_, rfl⟩ | ⟨_, before⟩
      · exact valueBacked
      · exact backed other record before

theorem instrumentsBacked_empty : InstrumentsBacked (Storage.empty BlockNumber) := by
  intro instrumentId record stored
  cases stored

/-- A superseded instrument stays superseded. -/
theorem Effect.superseded (effect : Effect s call s') {instrumentId : Id32}
    (superseded : s.rightsSupersededBy.get instrumentId ≠ none) :
    s'.rightsSupersededBy.get instrumentId ≠ none := by
  cases effect with
  | ownershipInterest => exact superseded
  | rightsInstrument => exact supersede_ne_none superseded

end Invariants

end Chlom.Rights
