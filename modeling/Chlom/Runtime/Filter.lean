import Chlom.Runtime.Roles
import Chlom.Tokenization.Effects

/-!
# What the development filter keeps out of the storage

The filter looks at the outer call of an extrinsic and through every wrapper of
sudo inside it.  A call that passes and that writes no raw storage therefore stores
nothing public and nothing certified for production, however deep it is wrapped and
whoever it runs as.
-/

namespace Chlom.Runtime

open Chlom.Frame

/-- Nothing in the licensing pallet is public. -/
structure Unpublished (s : Licensing.Storage BlockNumber) : Prop where
  dla : ∀ entry value, s.dlaVersions.get entry = some value → value.offerability ≠ .eligiblePublic
  offer : ∀ entry value, s.offerVersions.get entry = some value → value.state ≠ .published

/-- Nothing in the tokenization pallet stands for production. -/
structure Uncertified (s : Tokenization.Storage) : Prop where
  tokenClass : ∀ tokenClassId value, s.tokenClasses.get tokenClassId = some value →
    value.legalApprovedPublic = false ∧ value.issuanceState ≠ .productionEligible
  adapter : ∀ chainAdapterId value, s.chainAdapters.get chainAdapterId = some value →
    value.productionCertified = false
  event : ∀ tokenEventId record, s.tokenEvents.get tokenEventId = some record →
    record.eventType ≠ .productionMintConfirmed

variable {H : Host} {now : BlockNumber}

section Calls

open DevelopmentCallFilter

theorem unpublished_of_effect {verifier : Licensing.RightsVerifier BlockNumber}
    {s s' : Licensing.Storage BlockNumber} {call : Licensing.Call BlockNumber}
    (allowed : contains (.chlom (.licensing call) : RuntimeCall H) = true)
    (before : Unpublished s) (effect : Licensing.Effect verifier now s call s') :
    Unpublished s' := by
  cases effect with
  | dla dlaId value =>
      have hidden : value.offerability ≠ .eligiblePublic := by simpa [contains] using allowed
      exact ⟨StorageMap.forall_get_insert hidden before.dla, before.offer⟩
  | license => exact ⟨before.dla, before.offer⟩
  | offer offerId value =>
      have hidden : value.state ≠ .published := by simpa [contains] using allowed
      exact ⟨before.dla, StorageMap.forall_get_insert hidden before.offer⟩
  | entitlement => exact ⟨before.dla, before.offer⟩

theorem uncertified_of_effect {s s' : Tokenization.Storage} {call : Tokenization.Call}
    (allowed : contains (.chlom (.tokenization call) : RuntimeCall H) = true)
    (before : Uncertified s) (effect : Tokenization.Effect s call s') : Uncertified s' := by
  cases effect with
  | tokenClass tokenClassId value =>
      have plain : value.legalApprovedPublic = false ∧
          value.issuanceState ≠ .productionEligible := by
        simpa [contains] using allowed
      exact { before with tokenClass := StorageMap.forall_get_insert plain before.tokenClass }
  | adapter chainAdapterId value =>
      have plain : value.productionCertified = false := by simpa [contains] using allowed
      exact { before with adapter := StorageMap.forall_get_insert plain before.adapter }
  | object => exact { before with }
  | failure tokenEventId record _ _ failed =>
      have plain : record.eventType ≠ .productionMintConfirmed := by simp [failed]
      exact { before with event := StorageMap.forall_get_insert plain before.event }
  | event tokenEventId record =>
      have plain : record.eventType ≠ .productionMintConfirmed := by
        simpa [contains] using allowed
      exact { before with event := StorageMap.forall_get_insert plain before.event }

end Calls

/-! ## Wrapped calls -/

/-- The storage of a development chain. -/
structure Development (s : Storage H) : Prop where
  licensing : Unpublished s.licensing
  tokenization : Uncertified s.tokenization

theorem development_genesis (base : H.Base) :
    Development (Storage.genesis base : Storage H) where
  licensing :=
    { dla := by simp [Storage.genesis, Licensing.Storage.empty]
      offer := by simp [Storage.genesis, Licensing.Storage.empty] }
  tokenization :=
    { tokenClass := by simp [Storage.genesis, Tokenization.Storage.empty]
      adapter := by simp [Storage.genesis, Tokenization.Storage.empty]
      event := by simp [Storage.genesis, Tokenization.Storage.empty] }

/-- A call of the ten pallets that passes the filter stores nothing it keeps out. -/
theorem development_of_body {origin : RawOrigin AccountId} {call : ChlomCall H}
    {s s' : Storage H} (allowed : DevelopmentCallFilter.contains (.chlom call) = true)
    (before : Development s) (done : call.body now origin s = .ok () s') : Development s' := by
  cases call with
  | licensing inner =>
      simp only [ChlomCall.body, Dispatch.zoom_ok] at done
      obtain ⟨part, ran, rfl⟩ := done
      exact ⟨unpublished_of_effect allowed before.licensing (Licensing.pallet_effect ran),
        before.tokenization⟩
  | tokenization inner =>
      simp only [ChlomCall.body, Dispatch.zoom_ok] at done
      obtain ⟨part, ran, rfl⟩ := done
      exact ⟨before.licensing,
        uncertified_of_effect allowed before.tokenization (Tokenization.pallet_effect ran)⟩
  | _ =>
      simp only [ChlomCall.body, Dispatch.zoom_ok] at done
      obtain ⟨part, _, rfl⟩ := done
      exact ⟨before.licensing, before.tokenization⟩

/-- A wrapper of sudo keeps what its inner dispatch keeps. -/
theorem development_of_asSudo {origin : RawOrigin AccountId} {inner : Body H Unit}
    (keeps : ∀ s, Development s → Development (Dispatch.finalState (inner s))) {s : Storage H}
    (before : Development s) : Development (Dispatch.finalState (asSudo origin inner s)) := by
  apply Dispatch.finalState_withStorageLayer before
  intro value s' done
  simp only [Dispatch.read_bind, ensure_bind_ok] at done
  obtain ⟨_, done⟩ := done
  obtain rfl := (EStateM.Result.ok.inj done).2
  have after := keeps s before
  exact ⟨after.licensing, after.tokenization⟩

/-- The wrappers are peeled off one by one, as the filter does. -/
theorem development_of_dispatch {call : RuntimeCall H}
    (allowed : DevelopmentCallFilter.contains call = true) (ordinary : call.Ordinary)
    (origin : RawOrigin AccountId) {s : Storage H} (before : Development s) :
    Development (Dispatch.finalState (dispatchBypassFilter now origin call s)) := by
  induction call generalizing origin s with
  | chlom call =>
      exact Dispatch.finalState_withStorageLayer before fun _ _ done =>
        development_of_body allowed before done
  | sudo' call ih =>
      exact development_of_asSudo (fun _ inside => ih allowed ordinary .root inside) before
  | sudoUncheckedWeight call ih =>
      exact development_of_asSudo (fun _ inside => ih allowed ordinary .root inside) before
  | sudoAs who call ih =>
      exact development_of_asSudo (fun _ inside => ih allowed ordinary (.signed who) inside) before
  | rawWrite write => cases ordinary
  | external call =>
      apply Dispatch.finalState_withStorageLayer before
      intro value s' done
      simp only [Dispatch.read_bind, okOr_bind_ok] at done
      obtain ⟨after, _, done⟩ := done
      obtain rfl := (EStateM.Result.ok.inj done).2
      exact ⟨before.licensing, before.tokenization⟩

theorem development_step (w : World BlockNumber (Storage H)) {input : Input H}
    (ordinary : input.Ordinary) (before : Development w.storage) : Development (step w input).1.storage := by
  cases input with
  | advance block base => exact ⟨before.licensing, before.tokenization⟩
  | extrinsic signer call =>
      rw [step]
      split
      · next allowed => exact development_of_dispatch allowed ordinary _ before
      · exact before

/-- From a genesis without records, no extrinsic that writes no raw storage gets anything
public or certified for production into the storage, however its call is wrapped. -/
theorem filter_not_bypassed (genesis : BlockNumber) (base : H.Base) (inputs : List (Input H))
    (ordinary : ∀ input ∈ inputs, input.Ordinary) :
    let s := (run ⟨genesis, Storage.genesis base⟩ inputs).storage
    (∀ entry value, s.licensing.dlaVersions.get entry = some value →
      value.offerability ≠ .eligiblePublic) ∧
    (∀ entry value, s.licensing.offerVersions.get entry = some value →
      value.state ≠ .published) ∧
    (∀ tokenClassId value, s.tokenization.tokenClasses.get tokenClassId = some value →
      value.legalApprovedPublic = false ∧ value.issuanceState ≠ .productionEligible) ∧
    (∀ chainAdapterId value, s.tokenization.chainAdapters.get chainAdapterId = some value →
      value.productionCertified = false) ∧
    ∀ tokenEventId record, s.tokenization.tokenEvents.get tokenEventId = some record →
      record.eventType ≠ .productionMintConfirmed := by
  intro s
  have development : Development s :=
    Runs.invariant_run_of_mem (fun w : World BlockNumber (Storage H) => Development w.storage)
      (fun input member w => development_step w (ordinary input member)) (development_genesis base)
  exact ⟨development.licensing.dla, development.licensing.offer,
    development.tokenization.tokenClass, development.tokenization.adapter,
    development.tokenization.event⟩

namespace Sample

open Utility.Sample

/-- A class of tokens for a test network. -/
def plainClass : Tokenization.TokenClass where
  kind := .smartLicense
  transferable := false
  rightsSemanticsHash := Id32.repeated 61
  legalApprovedPublic := false
  issuanceState := .testnetEligible
  recordHash := Id32.repeated 62

/-- The class is recorded through sudo, and then one for production is tried deeper inside. -/
def tokenInputs : List (Input governed) :=
  [.extrinsic (some alice) (.sudo' (.chlom (.tokenization
      (.recordTokenClass (Id32.repeated 63) plainClass)))),
    .extrinsic (some alice) (.sudoUncheckedWeight (.sudoAs bob (.chlom (.tokenization
      (.recordTokenClass (Id32.repeated 64)
        { plainClass with issuanceState := .productionEligible })))))]

end Sample

open Sample in
/-- The first class is stored, and every class that is stored is plain. -/
theorem filter_not_bypassed_sample :
    let s := (run started tokenInputs).storage
    s.tokenization.tokenClasses.get (Id32.repeated 63) = some plainClass ∧
      ∀ tokenClassId value, s.tokenization.tokenClasses.get tokenClassId = some value →
        value.legalApprovedPublic = false ∧ value.issuanceState ≠ .productionEligible :=
  ⟨by decide +kernel, (filter_not_bypassed (H := governed) 1 () tokenInputs (by
    simp [tokenInputs, Input.Ordinary, RuntimeCall.Ordinary])).2.2.1⟩

end Chlom.Runtime
