import Chlom.Tokenization.Pallet

/-!
# What a successful tokenization call does

Three calls store a class, an adapter or an object under a fresh identifier.  A
provider event is stored under a fresh identifier as well, and becomes the latest
event of its object only as a step of the automaton of its life.
-/

namespace Chlom.Tokenization

open Chlom.Frame

/-! ## The automaton -/

/-- Which event may come after which, with nothing standing for no event yet. -/
def Follows : Option TokenEventType → TokenEventType → Prop
  | none, next =>
      next = .candidateRegistered ∨ next.Mint ∨ next = .suspended ∨ next = .revoked
  | some .candidateRegistered, next => next.Mint ∨ next = .suspended ∨ next = .revoked
  | some .testnetMintConfirmed, next
  | some .productionMintConfirmed, next
  | some .transferConfirmed, next =>
      next = .transferConfirmed ∨ next = .burnConfirmed ∨ next = .suspended ∨ next = .revoked
  | some .suspended, next => next = .suspended ∨ next = .revoked
  | some .revoked, _ | some .burnConfirmed, _ | some .providerFailure, _ => False

/-- Two events concern the same token of the same contract through the same adapter. -/
def SameToken (first second : ProviderEvent) : Prop :=
  first.chainAdapterId = second.chainAdapterId ∧
    first.contractRefHash = second.contractRefHash ∧ first.tokenIdHash = second.tokenIdHash

/-- The token passes to another holder or ceases to exist. -/
def TokenEventType.Passes (eventType : TokenEventType) : Prop :=
  eventType = .transferConfirmed ∨ eventType = .burnConfirmed

instance (eventType : TokenEventType) : Decidable eventType.Passes :=
  inferInstanceAs (Decidable (_ ∨ _))

/-- What an accepted event owes to the latest one before it. -/
structure Step (object : TokenizedObject) (class' : TokenClass) (prior : Option ProviderEvent)
    (next : ProviderEvent) : Prop where
  follows : Follows (prior.map ProviderEvent.eventType) next.eventType
  minted : next.eventType.Mint →
    next.fromSubjectId = none ∧ next.toSubjectId = some object.initialHolderSubjectId
  passes : next.eventType.Passes →
    ∃ last, prior = some last ∧ SameToken last next ∧ next.fromSubjectId = last.toSubjectId
  transferred : next.eventType = .transferConfirmed → class'.transferable = true
  burned : next.eventType = .burnConfirmed → next.toSubjectId = none

/-! ## What a successful call does -/

section Effects

variable {AccountId BlockNumber : Type} {env : Env AccountId BlockNumber}
  {origin : RawOrigin AccountId} {s s' : Storage}

/-- The latest event of an object other than a failure observation. -/
def Storage.prior (s : Storage) (tokenizedObjectId : Id32) : Option TokenEventRecord :=
  (s.latestTokenEvent.get tokenizedObjectId).bind s.tokenEvents.get

/-- What a successful call changes, whatever event it deposits. -/
inductive Effect (s : Storage) : Call → Storage → Prop
  | tokenClass (tokenClassId : Id32) (value : TokenClass) (events : List Event)
      (fresh : s.tokenClasses.get tokenClassId = none) :
      Effect s (.recordTokenClass tokenClassId value)
        { s with tokenClasses := s.tokenClasses.insert tokenClassId value, events }
  | adapter (chainAdapterId : Id32) (value : ChainAdapter) (events : List Event)
      (fresh : s.chainAdapters.get chainAdapterId = none) :
      Effect s (.recordChainAdapter chainAdapterId value)
        { s with chainAdapters := s.chainAdapters.insert chainAdapterId value, events }
  | object (tokenizedObjectId : Id32) (value : TokenizedObject) (class' : TokenClass)
      (events : List Event) (fresh : s.tokenizedObjects.get tokenizedObjectId = none)
      (classEq : s.tokenClasses.get value.tokenClassId = some class') :
      Effect s (.registerTokenizedObject tokenizedObjectId value.toObjectDetails)
        { s with tokenizedObjects := s.tokenizedObjects.insert tokenizedObjectId value, events }
  | failure (tokenEventId : Id32) (record : TokenEventRecord) (events : List Event)
      (fresh : s.tokenEvents.get tokenEventId = none)
      (failed : record.eventType = .providerFailure) :
      Effect s (.recordProviderEvent tokenEventId record.toProviderEvent)
        { s with tokenEvents := s.tokenEvents.insert tokenEventId record, events }
  | event (tokenEventId : Id32) (record : TokenEventRecord) (object : TokenizedObject)
      (class' : TokenClass) (events : List Event)
      (fresh : s.tokenEvents.get tokenEventId = none)
      (objectEq : s.tokenizedObjects.get record.tokenizedObjectId = some object)
      (classEq : s.tokenClasses.get object.tokenClassId = some class')
      (succeeded : record.eventType ≠ .providerFailure)
      (judged : (∀ last, s.prior record.tokenizedObjectId = some last →
        last.eventType ≠ .providerFailure) →
          Step object class' ((s.prior record.tokenizedObjectId).map
            TokenEventRecord.toProviderEvent) record.toProviderEvent) :
      Effect s (.recordProviderEvent tokenEventId record.toProviderEvent)
        { s with
          tokenEvents := s.tokenEvents.insert tokenEventId record
          latestTokenEvent := s.latestTokenEvent.insert record.tokenizedObjectId tokenEventId
          events }

theorem recordTokenClass_effect {tokenClassId : Id32} {value : TokenClass}
    (done : recordTokenClass env origin tokenClassId value s = .ok () s') :
    Effect s (.recordTokenClass tokenClassId value) s' := by
  simp only [recordTokenClass, depositEvent, ensureOrigin_bind_ok, ensure_bind_ok,
    Dispatch.read_bind, Dispatch.onlyIf_bind_ok, Dispatch.write_bind, Dispatch.write_apply] at done
  obtain ⟨_, _, absent, _, done⟩ := done
  obtain rfl := (EStateM.Result.ok.inj done).2
  exact .tokenClass _ _ _ (Option.isNone_iff_eq_none.mp absent)

theorem recordChainAdapter_effect {chainAdapterId : Id32} {value : ChainAdapter}
    (done : recordChainAdapter env origin chainAdapterId value s = .ok () s') :
    Effect s (.recordChainAdapter chainAdapterId value) s' := by
  simp only [recordChainAdapter, depositEvent, ensureOrigin_bind_ok, ensure_bind_ok,
    Dispatch.read_bind, Dispatch.write_bind, Dispatch.write_apply] at done
  obtain ⟨_, _, absent, done⟩ := done
  obtain rfl := (EStateM.Result.ok.inj done).2
  exact .adapter _ _ _ (Option.isNone_iff_eq_none.mp absent)

theorem registerTokenizedObject_effect {tokenizedObjectId : Id32} {details : ObjectDetails}
    (done : registerTokenizedObject env origin tokenizedObjectId details s = .ok () s') :
    Effect s (.registerTokenizedObject tokenizedObjectId details) s' := by
  simp only [registerTokenizedObject, depositEvent, ensureOrigin_bind_ok, ensure_bind_ok,
    Dispatch.read_bind, okOr_bind_ok, Dispatch.write_bind, Dispatch.write_apply] at done
  obtain ⟨_, _, absent, class', classEq, done⟩ := done
  obtain rfl := (EStateM.Result.ok.inj done).2
  exact .object tokenizedObjectId
    ⟨details, class'.rightsSemanticsHash, false, false⟩ class' _
    (Option.isNone_iff_eq_none.mp absent) classEq

theorem validateMint_bind_ok {prior : Option TokenEventRecord} {object : TokenizedObject}
    {details : ProviderEvent} {α : Type} {next : Unit → Body α} {result : α} :
    (validateMint prior object details >>= next) s = .ok result s' ↔
      ((∀ value, prior = some value → value.eventType = .candidateRegistered) ∧
        (details.fromSubjectId.isNone = true ∧
          details.toSubjectId = some object.initialHolderSubjectId) ∧
        Supplied details.contractRefHash ∧ Supplied details.tokenIdHash) ∧
      next () s = .ok result s' := by
  simp only [validateMint, bind_assoc, ensure_bind_ok, and_assoc]

theorem validateProviderBinding_bind_ok {prior : Option TokenEventRecord}
    {details : ProviderEvent} {α : Type} {next : Unit → Body α} {result : α}
    (done : (validateProviderBinding prior details >>= next) s = .ok result s') :
    (∃ last, prior = some last ∧ Held last ∧ SameToken last.toProviderEvent details ∧
      details.fromSubjectId = last.toSubjectId) ∧ next () s = .ok result s' := by
  simp only [validateProviderBinding, bind_assoc, okOr_bind_ok, ensure_bind_ok] at done
  obtain ⟨last, lastEq, held, ⟨_, adapter, _, contract, _, token⟩, ⟨_, holder⟩, rest⟩ := done
  exact ⟨⟨last, lastEq, held, ⟨adapter.symm, contract.symm, token.symm⟩, holder⟩, rest⟩

/-- A mint is the only event that comes first or after a registered candidate and
concerns a token. -/
theorem step_of_mint {prior : Option TokenEventRecord} {object : TokenizedObject}
    {class' : TokenClass} {details : ProviderEvent} (isMint : details.eventType.Mint)
    (candidate : ∀ value, prior = some value → value.eventType = .candidateRegistered)
    (absent : details.fromSubjectId.isNone = true)
    (holder : details.toSubjectId = some object.initialHolderSubjectId) :
    Step object class' (prior.map TokenEventRecord.toProviderEvent) details where
  follows := by
    cases prior with
    | none => exact .inr (.inl isMint)
    | some last =>
        rw [Option.map_some, Option.map_some, candidate last rfl]
        exact .inl isMint
  minted _ := ⟨Option.isNone_iff_eq_none.mp absent, holder⟩
  passes moves := by
    rcases isMint with mint | mint <;> rcases moves with pass | pass <;> simp [mint] at pass
  transferred pass := by
    rcases isMint with mint | mint <;> simp [mint] at pass
  burned pass := by
    rcases isMint with mint | mint <;> simp [mint] at pass

/-- A held token may pass on. -/
theorem step_of_pass {prior : Option TokenEventRecord} {object : TokenizedObject}
    {class' : TokenClass} {details : ProviderEvent} (pass : details.eventType.Passes)
    (bound : ∃ last, prior = some last ∧ Held last ∧
      SameToken last.toProviderEvent details ∧ details.fromSubjectId = last.toSubjectId)
    (transferred : details.eventType = .transferConfirmed → class'.transferable = true)
    (burned : details.eventType = .burnConfirmed → details.toSubjectId = none) :
    Step object class' (prior.map TokenEventRecord.toProviderEvent) details := by
  obtain ⟨last, rfl, held, same, holder⟩ := bound
  exact
    { follows := by
        rcases held with lastEq | lastEq | lastEq <;>
          rcases pass with nextEq | nextEq <;> simp [Follows, lastEq, nextEq]
      minted := by
        rintro (mint | mint) <;> rcases pass with nextEq | nextEq <;> simp [mint] at nextEq
      passes := fun _ => ⟨last.toProviderEvent, rfl, same, holder⟩
      transferred, burned }

/-- An object that has not ended may be suspended or revoked. -/
theorem step_of_stop {prior : Option TokenEventRecord} {object : TokenizedObject}
    {class' : TokenClass} {details : ProviderEvent}
    (stops : details.eventType = .suspended ∨ details.eventType = .revoked)
    (succeeded : ∀ last, prior = some last → last.eventType ≠ .providerFailure)
    (alive : ∀ last, prior = some last → ¬ Ended last) :
    Step object class' (prior.map TokenEventRecord.toProviderEvent) details where
  follows := by
    cases prior with
    | none =>
        rcases stops with stop | stop <;> simp [Follows, stop]
    | some last =>
        have lives := alive last rfl
        have confirmed := succeeded last rfl
        simp only [Option.map_some]
        cases lastEq : last.eventType with
        | revoked => exact absurd (.inl lastEq) lives
        | burnConfirmed => exact absurd (.inr lastEq) lives
        | providerFailure => exact absurd lastEq confirmed
        | _ => rcases stops with stop | stop <;> simp [Follows, stop]
  minted := by
    rintro (mint | mint) <;> rcases stops with stop | stop <;> simp [mint] at stop
  passes := by
    rintro (pass | pass) <;> rcases stops with stop | stop <;> simp [pass] at stop
  transferred pass := by
    rcases stops with stop | stop <;> simp [pass] at stop
  burned pass := by
    rcases stops with stop | stop <;> simp [pass] at stop

/-- An event passes its check only as a step of the automaton. -/
theorem validateEvent_ok {prior : Option TokenEventRecord} {object : TokenizedObject}
    {class' : TokenClass} {details : ProviderEvent} {verified : Bool}
    (done : validateEvent prior object class' details s = .ok verified s') :
    s' = s ∧ (details.eventType ≠ .providerFailure →
      (∀ last, prior = some last → last.eventType ≠ .providerFailure) →
        Step object class' (prior.map TokenEventRecord.toProviderEvent) details) := by
  cases eventEq : details.eventType with
  | candidateRegistered =>
      simp only [validateEvent, eventEq, ensure_bind_ok, Dispatch.pure_apply,
        Option.isNone_iff_eq_none] at done
      obtain ⟨rfl, done⟩ := done
      refine ⟨(EStateM.Result.ok.inj done).2.symm, fun _ _ => ?_⟩
      constructor <;> simp [Follows, eventEq, TokenEventType.Mint, TokenEventType.Passes]
  | suspended =>
      simp only [validateEvent, eventEq, ensure_bind_ok, Dispatch.pure_apply] at done
      obtain ⟨alive, done⟩ := done
      exact ⟨(EStateM.Result.ok.inj done).2.symm,
        fun _ succeeded => step_of_stop (.inl eventEq) succeeded alive⟩
  | revoked =>
      simp only [validateEvent, eventEq, ensure_bind_ok, Dispatch.pure_apply] at done
      obtain ⟨alive, done⟩ := done
      exact ⟨(EStateM.Result.ok.inj done).2.symm,
        fun _ succeeded => step_of_stop (.inr eventEq) succeeded alive⟩
  | providerFailure =>
      simp only [validateEvent, eventEq, ensureReceipt, ensure_bind_ok,
        Dispatch.pure_apply] at done
      exact ⟨(EStateM.Result.ok.inj done.2).2.symm, fun succeeded => absurd rfl succeeded⟩
  | testnetMintConfirmed =>
      simp only [validateEvent, eventEq, validateMint_bind_ok, mintAdapter, ensureReceipt,
        bind_assoc, ensure_bind_ok, okOr_bind_ok, Dispatch.read_bind,
        Dispatch.pure_apply] at done
      obtain ⟨_, ⟨candidate, ⟨absent, holder⟩, _⟩, _, _, _, _, _, _, done⟩ := done
      exact ⟨(EStateM.Result.ok.inj done).2.symm,
        fun _ _ => step_of_mint (.inl eventEq) candidate absent holder⟩
  | productionMintConfirmed =>
      simp only [validateEvent, eventEq, validateMint_bind_ok, mintAdapter, ensureReceipt,
        bind_assoc, ensure_bind_ok, okOr_bind_ok, Dispatch.read_bind,
        Dispatch.pure_apply] at done
      obtain ⟨⟨candidate, ⟨absent, holder⟩, _⟩, _, _, _, _, _, _, done⟩ := done
      exact ⟨(EStateM.Result.ok.inj done).2.symm,
        fun _ _ => step_of_mint (.inr eventEq) candidate absent holder⟩
  | transferConfirmed =>
      simp only [validateEvent, eventEq, ensure_bind_ok] at done
      obtain ⟨transferable, _, done⟩ := done
      obtain ⟨bound, done⟩ := validateProviderBinding_bind_ok done
      simp only [ensureReceipt, ensure_bind_ok, Dispatch.pure_apply] at done
      obtain ⟨_, _, done⟩ := done
      exact ⟨(EStateM.Result.ok.inj done).2.symm, fun _ _ =>
        step_of_pass (.inl eventEq) bound (fun _ => transferable) (by simp [eventEq])⟩
  | burnConfirmed =>
      simp only [validateEvent, eventEq] at done
      obtain ⟨bound, done⟩ := validateProviderBinding_bind_ok done
      simp only [ensureReceipt, ensure_bind_ok, Dispatch.pure_apply] at done
      obtain ⟨nobody, _, done⟩ := done
      exact ⟨(EStateM.Result.ok.inj done).2.symm, fun _ _ =>
        step_of_pass (.inr eventEq) bound (by simp [eventEq])
          (fun _ => Option.isNone_iff_eq_none.mp nobody)⟩

theorem recordProviderEvent_effect {tokenEventId : Id32} {details : ProviderEvent}
    (done : recordProviderEvent env origin tokenEventId details s = .ok () s') :
    Effect s (.recordProviderEvent tokenEventId details) s' := by
  simp only [recordProviderEvent, ensureOrigin_bind_ok, ensure_bind_ok, Dispatch.read_bind,
    okOr_bind_ok] at done
  obtain ⟨_, _, absent, object, objectEq, class', classEq, done⟩ := done
  obtain ⟨verified, middle, checked, rest⟩ := Dispatch.bind_ok.mp done
  obtain ⟨rfl, judged⟩ := validateEvent_ok checked
  have fresh := Option.isNone_iff_eq_none.mp absent
  by_cases failed : details.eventType = .providerFailure
  · simp only [failed, ne_eq, not_true_eq_false, Dispatch.onlyIf, if_false, pure_bind,
      depositEvent, Dispatch.write_bind, Dispatch.write_apply] at rest
    obtain rfl := (EStateM.Result.ok.inj rest).2
    exact .failure tokenEventId ⟨details, verified⟩ _ fresh failed
  · simp only [failed, ne_eq, not_false_eq_true, Dispatch.onlyIf, if_true, depositEvent,
      Dispatch.write_bind, Dispatch.write_apply] at rest
    obtain rfl := (EStateM.Result.ok.inj rest).2
    exact .event tokenEventId ⟨details, verified⟩ object class' _ fresh objectEq classEq failed
      (judged failed)

/-- Every successful call has one of the listed effects. -/
theorem pallet_effect {call : Call} (done : pallet env origin call s = .ok () s') :
    Effect s call s' := by
  cases call with
  | recordTokenClass => exact recordTokenClass_effect done
  | recordChainAdapter => exact recordChainAdapter_effect done
  | registerTokenizedObject => exact registerTokenizedObject_effect done
  | recordProviderEvent => exact recordProviderEvent_effect done

end Effects

end Chlom.Tokenization
