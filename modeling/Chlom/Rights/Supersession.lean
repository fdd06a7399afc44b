import Chlom.Library.Succession
import Chlom.Rights.Records

/-!
# Supersession in the rights pallet

Ownership interests and rights instruments are two registries of records that
supersede one another.  A record can only name one that is stored already, so
the order in which records were filed ranks them, though no storage holds it.
-/

namespace Chlom.Rights

open Chlom.Frame

variable {AccountId BlockNumber : Type}

theorem get_supersede {supersededBy : StorageMap Id32 Id32} {prior : Option Id32}
    {successor key : Id32} :
    (supersede supersededBy prior successor).get key =
      if prior = some key then some successor else supersededBy.get key := by
  cases prior with
  | none => simp [supersede]
  | some priorId => simp [supersede, StorageMap.get_insert, eq_comm]

/-- The supersession of ownership interests follows the registry's rules. -/
abbrev InterestRegistry (s : Storage BlockNumber) : Prop :=
  Succession.Registry OwnershipInterest.supersedesInterestId OwnershipInterest.assetId
    s.ownershipInterests s.ownershipSupersededBy

/-- The supersession of rights instruments follows the registry's rules. -/
abbrev InstrumentRegistry (s : Storage BlockNumber) : Prop :=
  Succession.Registry RightsInstrument.supersedesInstrumentId RightsInstrument.assetId
    s.rightsInstruments s.rightsSupersededBy

/-- The second storage holds everything that the first one does. -/
structure Keeps (s s' : Storage BlockNumber) : Prop where
  interests : ∀ interestId interest, s.ownershipInterests.get interestId = some interest →
    s'.ownershipInterests.get interestId = some interest
  ownershipSupersededBy : ∀ prior successor, s.ownershipSupersededBy.get prior = some successor →
    s'.ownershipSupersededBy.get prior = some successor
  instruments : ∀ instrumentId instrument,
    s.rightsInstruments.get instrumentId = some instrument →
      s'.rightsInstruments.get instrumentId = some instrument
  rightsSupersededBy : ∀ prior successor, s.rightsSupersededBy.get prior = some successor →
    s'.rightsSupersededBy.get prior = some successor

theorem Keeps.refl (s : Storage BlockNumber) : Keeps s s :=
  ⟨fun _ _ => id, fun _ _ => id, fun _ _ => id, fun _ _ => id⟩

theorem Keeps.trans {s t u : Storage BlockNumber} (first : Keeps s t) (second : Keeps t u) :
    Keeps s u where
  interests _ _ stored := second.interests _ _ (first.interests _ _ stored)
  ownershipSupersededBy _ _ marked :=
    second.ownershipSupersededBy _ _ (first.ownershipSupersededBy _ _ marked)
  instruments _ _ stored := second.instruments _ _ (first.instruments _ _ stored)
  rightsSupersededBy _ _ marked :=
    second.rightsSupersededBy _ _ (first.rightsSupersededBy _ _ marked)

/-- Marking a record that nothing superseded leaves the older marks in place. -/
theorem supersede_kept {supersededBy : StorageMap Id32 Id32} {named : Option Id32}
    {successor prior other : Id32}
    (free : ∀ priorId, named = some priorId → supersededBy.get priorId = none)
    (marked : supersededBy.get prior = some other) :
    (supersede supersededBy named successor).get prior = some other := by
  rw [get_supersede]
  split
  · next same => simp [free prior same] at marked
  · exact marked

section Steps

variable {s s' : Storage BlockNumber} {call : Call BlockNumber}

theorem Effect.interestRegistry (effect : Effect s call s') (registry : InterestRegistry s) :
    InterestRegistry s' := by
  cases effect with
  | ownershipInterest interestId value fresh _ supersedes =>
      apply Succession.Registry.insert registry fresh
      · intro prior named
        exact supersedes prior named
      · intro prior
        exact get_supersede
  | rightsInstrument => exact registry

theorem Effect.instrumentRegistry (effect : Effect s call s') (registry : InstrumentRegistry s) :
    InstrumentRegistry s' := by
  cases effect with
  | ownershipInterest => exact registry
  | rightsInstrument instrumentId value fresh _ supersedes =>
      apply Succession.Registry.insert registry fresh
      · intro prior named
        exact supersedes prior named
      · intro prior
        exact get_supersede

theorem Effect.keeps (effect : Effect s call s') : Keeps s s' := by
  cases effect with
  | ownershipInterest interestId value fresh _ supersedes =>
      have free : ∀ priorId, value.supersedesInterestId = some priorId →
          s.ownershipSupersededBy.get priorId = none :=
        fun priorId named => (supersedes priorId named).2
      exact
        { interests := fun _ _ stored => s.ownershipInterests.get_insert_of_some _ fresh stored
          ownershipSupersededBy := fun _ _ marked => supersede_kept free marked
          instruments := fun _ _ stored => stored
          rightsSupersededBy := fun _ _ marked => marked }
  | rightsInstrument instrumentId value fresh _ supersedes =>
      have free : ∀ priorId, value.supersedesInstrumentId = some priorId →
          s.rightsSupersededBy.get priorId = none :=
        fun priorId named => (supersedes priorId named).2
      exact
        { interests := fun _ _ stored => stored
          ownershipSupersededBy := fun _ _ marked => marked
          instruments := fun _ _ stored => s.rightsInstruments.get_insert_of_some _ fresh stored
          rightsSupersededBy := fun _ _ marked => supersede_kept free marked }

end Steps

variable [LinearOrder BlockNumber]

/-- The chain after a list of inputs from empty storage at a genesis block. -/
abbrev run (genesis : BlockNumber)
    (inputs : List (Input AccountId BlockNumber (Call BlockNumber))) :
    World BlockNumber (Storage BlockNumber) :=
  Frame.run pallet ⟨genesis, .empty BlockNumber⟩ inputs

theorem registry_invariant : Invariant (@pallet AccountId BlockNumber _) fun _ s =>
    InterestRegistry s ∧ InstrumentRegistry s where
  passes _ registry := registry
  keeps registry done :=
    ⟨(pallet_effect done).interestRegistry registry.1,
      (pallet_effect done).instrumentRegistry registry.2⟩

/-- In every reachable state supersession is exact, one to one, acyclic and keeps
to one asset, for ownership interests and for rights instruments, and nothing
stored of either changes afterwards. -/
theorem supersession_exact (genesis : BlockNumber)
    (inputs later : List (Input AccountId BlockNumber (Call BlockNumber))) :
    let s := (run genesis inputs).storage
    Succession.Law OwnershipInterest.supersedesInterestId OwnershipInterest.assetId
        s.ownershipInterests s.ownershipSupersededBy ∧
      Succession.Law RightsInstrument.supersedesInstrumentId RightsInstrument.assetId
        s.rightsInstruments s.rightsSupersededBy ∧
      Keeps s (run genesis (inputs ++ later)).storage := by
  intro s
  have registries := registry_invariant.run
    (w := ⟨genesis, .empty BlockNumber⟩) ⟨.empty, .empty⟩ inputs
  have kept : Keeps s (run genesis (inputs ++ later)).storage :=
    preorder_run Keeps.refl Keeps.trans (fun done => (pallet_effect done).keeps) inputs later
  exact ⟨registries.1.law, registries.2.law, kept⟩

end Chlom.Rights
