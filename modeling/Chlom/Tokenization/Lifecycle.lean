import Chlom.Library.Trails
import Chlom.Tokenization.Effects

/-!
# The life of a tokenized object

The events accepted for an object, leaving out failure observations, follow an
automaton whose state is recovered from the latest one.  A token is minted at
most once, keeps its adapter, contract and token, and passes from holder to
holder without a gap.
-/

namespace Chlom.Tokenization

open Chlom.Frame

/-! ## The accepted events of an object -/

/-- The event that a call adds to the life of an object, if it does. -/
def lifecycleEvent (tokenizedObjectId : Id32) : Call → Option (Id32 × ProviderEvent)
  | .recordProviderEvent tokenEventId details =>
      if details.tokenizedObjectId = tokenizedObjectId ∧ details.eventType ≠ .providerFailure then
        some (tokenEventId, details)
      else
        none
  | _ => none

/-- The events of an object other than failure observations, in order. -/
def lifecycle (tokenizedObjectId : Id32) (calls : List Call) : List (Id32 × ProviderEvent) :=
  calls.filterMap (lifecycleEvent tokenizedObjectId)

theorem lifecycle_append (tokenizedObjectId : Id32) (calls : List Call) (call : Call) :
    lifecycle tokenizedObjectId (calls ++ [call]) =
      lifecycle tokenizedObjectId calls ++ (lifecycleEvent tokenizedObjectId call).toList := by
  rw [lifecycle, List.filterMap_append, ← lifecycle]
  cases added : lifecycleEvent tokenizedObjectId call <;> simp [added]

/-- A life holds events of its own object that are not failure observations. -/
theorem of_mem_lifecycle {tokenizedObjectId : Id32} {calls : List Call}
    {entry : Id32 × ProviderEvent} (member : entry ∈ lifecycle tokenizedObjectId calls) :
    entry.2.tokenizedObjectId = tokenizedObjectId ∧ entry.2.eventType ≠ .providerFailure := by
  obtain ⟨call, _, added⟩ := List.mem_filterMap.mp member
  cases call with
  | recordProviderEvent tokenEventId details =>
      rw [lifecycleEvent] at added
      split at added
      · next kept =>
          obtain rfl := Option.some.inj added
          exact kept
      · cases added
  | _ => cases added

/-- The judgement of an entry of a life by the one before it. -/
def Judged (object : TokenizedObject) (class' : TokenClass)
    (prior : Option (Id32 × ProviderEvent)) (next : Id32 × ProviderEvent) : Prop :=
  Step object class' (prior.map Prod.snd) next.2

/-- The storage holds the lives that the accepted calls tell. -/
structure Represents (calls : List Call) (s : Storage) : Prop where
  classed : ∀ {objectId object}, s.tokenizedObjects.get objectId = some object →
    ∃ class', s.tokenClasses.get object.tokenClassId = some class'
  latest : ∀ objectId,
    s.latestTokenEvent.get objectId = (lifecycle objectId calls).getLast?.map Prod.fst
  stored : ∀ {objectId entry}, entry ∈ lifecycle objectId calls →
    ∃ record, s.tokenEvents.get entry.1 = some record ∧ record.toProviderEvent = entry.2
  unregistered : ∀ {objectId}, s.tokenizedObjects.get objectId = none →
    lifecycle objectId calls = []
  trail : ∀ {objectId object class'}, s.tokenizedObjects.get objectId = some object →
    s.tokenClasses.get object.tokenClassId = some class' →
      Trail (Judged object class') (lifecycle objectId calls)

section Represents

variable {calls : List Call} {call : Call} {s s' : Storage}

theorem represents_empty : Represents [] .empty where
  classed stored := by cases stored
  latest _ := rfl
  stored member := by cases member
  unregistered _ := rfl
  trail stored := by cases stored

/-- The event read as the latest one is the last of the life. -/
theorem Represents.prior_eq (represents : Represents calls s) (objectId : Id32) :
    (s.prior objectId).map TokenEventRecord.toProviderEvent =
      (lifecycle objectId calls).getLast?.map Prod.snd := by
  rw [Storage.prior, represents.latest]
  cases lastEq : (lifecycle objectId calls).getLast? with
  | none => rfl
  | some last =>
      obtain ⟨record, found, same⟩ := represents.stored (List.mem_of_getLast? lastEq)
      simp [found, same]

/-- A failure observation is never read as the latest event. -/
theorem Represents.prior_succeeded (represents : Represents calls s) {objectId : Id32}
    {last : TokenEventRecord} (priorEq : s.prior objectId = some last) :
    last.eventType ≠ .providerFailure := by
  have lastEq := represents.prior_eq objectId
  rw [priorEq, Option.map_some] at lastEq
  obtain ⟨entry, entryEq, same⟩ := Option.map_eq_some_iff.mp lastEq.symm
  have succeeded := (of_mem_lifecycle (List.mem_of_getLast? entryEq)).2
  rw [same] at succeeded
  exact succeeded

/-- A call that adds nothing to any life leaves what the storage represents. -/
theorem Represents.extend (represents : Represents calls s)
    (silent : ∀ objectId, lifecycleEvent objectId call = none) :
    Represents (calls ++ [call]) s := by
  have unchanged : ∀ objectId, lifecycle objectId (calls ++ [call]) = lifecycle objectId calls := by
    intro objectId
    rw [lifecycle_append, silent, Option.toList_none, List.append_nil]
  constructor
  · exact represents.classed
  · intro objectId
    rw [unchanged]
    exact represents.latest objectId
  · intro objectId entry member
    rw [unchanged] at member
    exact represents.stored member
  · intro objectId absent
    rw [unchanged]
    exact represents.unregistered absent
  · intro objectId object class' objectEq classEq
    rw [unchanged]
    exact represents.trail objectEq classEq

/-- A class under a fresh identifier is the class of no object yet. -/
theorem Represents.insert_class (represents : Represents calls s) {tokenClassId : Id32}
    (value : TokenClass) (fresh : s.tokenClasses.get tokenClassId = none) (events : List Event) :
    Represents calls
      { s with tokenClasses := s.tokenClasses.insert tokenClassId value, events } where
  classed objectEq := by
    obtain ⟨class', classEq⟩ := represents.classed objectEq
    exact ⟨class', s.tokenClasses.get_insert_of_some _ fresh classEq⟩
  latest := represents.latest
  stored := represents.stored
  unregistered := represents.unregistered
  trail {objectId object class'} objectEq classEq := by
    obtain ⟨found, foundEq⟩ := represents.classed objectEq
    have still := s.tokenClasses.get_insert_of_some value fresh foundEq
    obtain rfl := Option.some.inj (still.symm.trans classEq)
    exact represents.trail objectEq foundEq

/-- A new object has no life yet. -/
theorem Represents.insert_object (represents : Represents calls s) {objectId : Id32}
    {value : TokenizedObject} {class' : TokenClass}
    (fresh : s.tokenizedObjects.get objectId = none)
    (classEq : s.tokenClasses.get value.tokenClassId = some class') (events : List Event) :
    Represents calls
      { s with tokenizedObjects := s.tokenizedObjects.insert objectId value, events } where
  classed objectEq := by
    rcases StorageMap.get_insert_eq_some.mp objectEq with ⟨_, rfl⟩ | ⟨_, older⟩
    · exact ⟨class', classEq⟩
    · exact represents.classed older
  latest := represents.latest
  stored := represents.stored
  unregistered {other} absent := by
    rw [StorageMap.get_insert] at absent
    split at absent
    · cases absent
    · exact represents.unregistered absent
  trail objectEq classEq := by
    rcases StorageMap.get_insert_eq_some.mp objectEq with ⟨rfl, rfl⟩ | ⟨_, older⟩
    · rw [represents.unregistered fresh]
      exact .nil
    · exact represents.trail older classEq

/-- An event under a fresh identifier leaves the stored ones in place. -/
theorem Represents.insert_event (represents : Represents calls s) {tokenEventId : Id32}
    (record : TokenEventRecord) (fresh : s.tokenEvents.get tokenEventId = none)
    (events : List Event) :
    Represents calls
      { s with tokenEvents := s.tokenEvents.insert tokenEventId record, events } where
  classed := represents.classed
  latest := represents.latest
  stored member := by
    obtain ⟨found, foundEq, same⟩ := represents.stored member
    exact ⟨found, s.tokenEvents.get_insert_of_some _ fresh foundEq, same⟩
  unregistered := represents.unregistered
  trail := represents.trail

/-- An event other than a failure observation continues the life of its object. -/
theorem Represents.append (represents : Represents calls s) {tokenEventId : Id32}
    {record : TokenEventRecord} {object : TokenizedObject} {class' : TokenClass}
    (fresh : s.tokenEvents.get tokenEventId = none)
    (objectEq : s.tokenizedObjects.get record.tokenizedObjectId = some object)
    (classEq : s.tokenClasses.get object.tokenClassId = some class')
    (succeeded : record.eventType ≠ .providerFailure)
    (judged : Step object class' ((s.prior record.tokenizedObjectId).map
      TokenEventRecord.toProviderEvent) record.toProviderEvent) (events : List Event) :
    Represents (calls ++ [.recordProviderEvent tokenEventId record.toProviderEvent])
      { s with
        tokenEvents := s.tokenEvents.insert tokenEventId record
        latestTokenEvent := s.latestTokenEvent.insert record.tokenizedObjectId tokenEventId
        events } := by
  have own : lifecycle record.tokenizedObjectId
      (calls ++ [.recordProviderEvent tokenEventId record.toProviderEvent]) =
        lifecycle record.tokenizedObjectId calls ++ [(tokenEventId, record.toProviderEvent)] := by
    rw [lifecycle_append, lifecycleEvent, if_pos ⟨rfl, succeeded⟩, Option.toList_some]
  have other : ∀ {objectId}, objectId ≠ record.tokenizedObjectId → lifecycle objectId
      (calls ++ [.recordProviderEvent tokenEventId record.toProviderEvent]) =
        lifecycle objectId calls := by
    intro objectId different
    rw [lifecycle_append, lifecycleEvent, if_neg (fun kept => different kept.1.symm),
      Option.toList_none, List.append_nil]
  have inserted := represents.insert_event record fresh events
  constructor
  · exact represents.classed
  · intro objectId
    by_cases same : objectId = record.tokenizedObjectId
    · rw [same, own]
      simp
    · rw [other same, StorageMap.get_insert_of_ne _ _ same]
      exact represents.latest objectId
  · intro objectId entry member
    by_cases same : objectId = record.tokenizedObjectId
    · rw [same, own] at member
      rcases List.mem_append.mp member with older | last
      · exact inserted.stored older
      · obtain rfl := List.mem_singleton.mp last
        exact ⟨record, by simp, rfl⟩
    · rw [other same] at member
      exact inserted.stored member
  · intro objectId absent
    have different : objectId ≠ record.tokenizedObjectId := by
      rintro rfl
      rw [objectEq] at absent
      cases absent
    rw [other different]
    exact represents.unregistered absent
  · intro objectId found foundClass foundEq foundClassEq
    by_cases same : objectId = record.tokenizedObjectId
    · subst same
      obtain rfl := Option.some.inj (objectEq.symm.trans foundEq)
      obtain rfl := Option.some.inj (classEq.symm.trans foundClassEq)
      rw [own]
      apply (represents.trail objectEq classEq).snoc
      rw [Judged, ← represents.prior_eq]
      exact judged
    · rw [other same]
      exact represents.trail foundEq foundClassEq

/-- What the storage represents follows every successful call. -/
theorem Represents.step (represents : Represents calls s) (effect : Effect s call s') :
    Represents (calls ++ [call]) s' := by
  cases effect with
  | tokenClass tokenClassId value events fresh =>
      exact (represents.insert_class value fresh events).extend fun _ => rfl
  | adapter chainAdapterId value events fresh =>
      have represents' : Represents calls
          { s with chainAdapters := s.chainAdapters.insert chainAdapterId value, events } :=
        ⟨represents.classed, represents.latest, represents.stored, represents.unregistered,
          represents.trail⟩
      exact represents'.extend fun _ => rfl
  | object objectId value class' events fresh classEq =>
      exact (represents.insert_object fresh classEq events).extend fun _ => rfl
  | failure tokenEventId record events fresh failed =>
      apply (represents.insert_event record fresh events).extend
      intro objectId
      rw [lifecycleEvent, if_neg (fun kept => kept.2 failed)]
  | event tokenEventId record object class' events fresh objectEq classEq succeeded judged =>
      exact represents.append fresh objectEq classEq succeeded
        (judged fun _ priorEq => represents.prior_succeeded priorEq) events

end Represents

/-! ## What a life looks like -/

/-- The event is a mint or passes the token on. -/
def TokenEventType.Moves (eventType : TokenEventType) : Prop :=
  eventType.Mint ∨ eventType.Passes

instance (eventType : TokenEventType) : Decidable eventType.Moves :=
  inferInstanceAs (Decidable (_ ∨ _))

/-- The events of a life that a provider confirmed of the token itself. -/
def moves (log : List (Id32 × ProviderEvent)) : List (Id32 × ProviderEvent) :=
  log.filter fun entry => entry.2.eventType.Moves

/-- The first move is a mint for the initial holder, and every later one passes on
what the previous one left. -/
def Move (object : TokenizedObject) (class' : TokenClass) :
    Option (Id32 × ProviderEvent) → Id32 × ProviderEvent → Prop
  | none, next => next.2.eventType.Mint ∧ next.2.fromSubjectId = none ∧
      next.2.toSubjectId = some object.initialHolderSubjectId
  | some prior, next => next.2.eventType.Passes ∧ SameToken prior.2 next.2 ∧
      next.2.fromSubjectId = prior.2.toSubjectId ∧ prior.2.eventType ≠ .burnConfirmed ∧
      (next.2.eventType = .transferConfirmed → class'.transferable = true)

/-- The event leaves the token with its initial holder or burns it there. -/
def Stays (object : TokenizedObject) (entry : Id32 × ProviderEvent) : Prop :=
  entry.2.toSubjectId = some object.initialHolderSubjectId ∨
    entry.2.eventType = .burnConfirmed ∧
      entry.2.fromSubjectId = some object.initialHolderSubjectId

section Lives

variable {object : TokenizedObject} {class' : TokenClass} {log : List (Id32 × ProviderEvent)}
  {prior next : Id32 × ProviderEvent}

theorem Follows.mint {prior : TokenEventType} {next : TokenEventType} (isMint : next.Mint)
    (follows : Follows (some prior) next) : prior = .candidateRegistered := by
  rcases isMint with rfl | rfl <;> cases prior <;> simp [Follows] at follows ⊢

theorem Follows.pass {prior : TokenEventType} {next : TokenEventType} (passes : next.Passes)
    (follows : Follows (some prior) next) : prior.Moves ∧ prior ≠ .burnConfirmed := by
  rcases passes with rfl | rfl <;> cases prior <;>
    simp [Follows, TokenEventType.Mint, TokenEventType.Moves, TokenEventType.Passes] at follows ⊢

theorem Follows.not_candidate {prior : TokenEventType} :
    ¬ Follows (some prior) .candidateRegistered := by
  cases prior <;> simp [Follows, TokenEventType.Mint]

theorem not_moves_candidate : ¬ TokenEventType.candidateRegistered.Moves := by
  decide

/-- The moves of a life follow each other without a gap. -/
theorem moves_trail (trail : Trail (Judged object class') log) :
    Trail (Move object class') (moves log) := by
  have contiguous := trail.filter (fun entry => entry.2.eventType.Moves)
    (fun entry => entry.2.eventType = .candidateRegistered) ?_ ?_ ?_
  · apply contiguous.imp
    rintro prior next ⟨whole, step, moved, kept⟩
    rcases of_decide_eq_true moved with isMint | passes
    · cases whole with
      | none =>
          obtain rfl : none = prior := kept
          exact ⟨isMint, step.minted isMint⟩
      | some last =>
          have candidate := Follows.mint isMint step.follows
          have skipped : none = prior := by
            simpa [Option.filter_some, candidate, not_moves_candidate] using kept
          rw [← skipped]
          exact ⟨isMint, step.minted isMint⟩
    · obtain ⟨last, lastEq, same, holder⟩ := step.passes passes
      obtain ⟨entry, rfl, rfl⟩ := Option.map_eq_some_iff.mp lastEq
      obtain ⟨held, alive⟩ := Follows.pass passes step.follows
      obtain rfl : some entry = prior := by simpa [Option.filter_some, held] using kept
      exact ⟨passes, same, holder, alive, step.transferred⟩
  · intro entry early
    simp [early, not_moves_candidate]
  · intro prior next step early
    have follows := step.follows
    rw [early] at follows
    exact absurd follows Follows.not_candidate
  · intro prior next step moved
    rcases of_decide_eq_true moved with isMint | passes
    · exact .inr (Follows.mint isMint step.follows)
    · exact .inl (decide_eq_true (Follows.pass passes step.follows).1)

theorem SameToken.trans {first second third : ProviderEvent} (before : SameToken first second)
    (after : SameToken second third) : SameToken first third :=
  ⟨before.1.trans after.1, before.2.1.trans after.2.1, before.2.2.trans after.2.2⟩

theorem SameToken.symm {first second : ProviderEvent} (same : SameToken first second) :
    SameToken second first :=
  ⟨same.1.symm, same.2.1.symm, same.2.2.symm⟩

theorem mem_moves {entry : Id32 × ProviderEvent} :
    entry ∈ moves log ↔ entry ∈ log ∧ entry.2.eventType.Moves := by
  rw [moves, List.mem_filter, decide_eq_true_iff]

/-- Nothing but the first move is a mint. -/
theorem minted_once (trail : Trail (Judged object class') log) :
    (log.filter fun entry => entry.2.eventType.Mint).length ≤ 1 := by
  have mints : log.filter (fun entry => entry.2.eventType.Mint) =
      (moves log).filter fun entry => entry.2.eventType.Mint := by
    rw [moves, List.filter_filter]
    apply List.filter_congr
    intro entry _
    simp only [TokenEventType.Moves]
    by_cases isMint : entry.2.eventType.Mint <;> simp [isMint]
  rw [mints]
  have isTrans : IsTrans (Id32 × ProviderEvent) fun _ next => ¬ next.2.eventType.Mint :=
    ⟨fun _ _ _ _ after => after⟩
  have later : (moves log).Pairwise fun _ next => ¬ next.2.eventType.Mint := by
    apply (moves_trail trail).pairwise
    intro prior next move isMint
    rcases isMint with mint | mint <;> rcases move.1 with pass | pass <;> simp [mint] at pass
  cases movesEq : moves log with
  | nil => simp
  | cons first rest =>
      rw [movesEq] at later
      have none' : rest.filter (fun entry => entry.2.eventType.Mint) = [] := by
        simpa using (List.pairwise_cons.mp later).1
      rw [List.filter_cons, none']
      split <;> simp

/-- All moves concern one token. -/
theorem moves_sameToken (trail : Trail (Judged object class') log) {first second}
    (firstMoves : first ∈ moves log) (secondMoves : second ∈ moves log) :
    SameToken first.2 second.2 := by
  have isTrans : IsTrans (Id32 × ProviderEvent) fun first second => SameToken first.2 second.2 :=
    ⟨fun _ _ _ => SameToken.trans⟩
  have ordered : (moves log).Pairwise fun first second => SameToken first.2 second.2 :=
    (moves_trail trail).pairwise fun move => move.2.1
  have symmetric : Std.Symm fun first second : Id32 × ProviderEvent =>
      SameToken first.2 second.2 := ⟨fun _ _ => SameToken.symm⟩
  exact ordered.forall_of_forall (fun _ _ => ⟨rfl, rfl, rfl⟩) firstMoves secondMoves

/-- A token that may not be transferred is with its initial holder until it is burned. -/
theorem moves_bound (trail : Trail (Judged object class') log)
    (bound : class'.transferable = false) :
    (∀ entry ∈ log, entry.2.eventType ≠ .transferConfirmed) ∧
    ∀ entry ∈ moves log, Stays object entry := by
  constructor
  · intro entry member transfer
    have transferable := trail.forall_of_step
      (P := fun entry => entry.2.eventType = .transferConfirmed → class'.transferable = true)
      (fun step => step.transferred) entry member transfer
    rw [bound] at transferable
    cases transferable
  · apply (moves_trail trail).forall_of_chain (P := Stays object)
    · exact fun move => .inl move.2.2
    · rintro prior next ⟨passes, _, holder, alive, transferred⟩ held
      rcases passes with transfer | burn
      · rw [transferred transfer] at bound
        cases bound
      · rcases held with initial | ⟨burned, _⟩
        · exact .inr ⟨burn, holder.trans initial⟩
        · exact absurd burned alive

end Lives

/-! ## Runs -/

/-- The second storage holds every record that the first one does. -/
structure Keeps (s s' : Storage) : Prop where
  classes : ∀ tokenClassId value, s.tokenClasses.get tokenClassId = some value →
    s'.tokenClasses.get tokenClassId = some value
  adapters : ∀ chainAdapterId value, s.chainAdapters.get chainAdapterId = some value →
    s'.chainAdapters.get chainAdapterId = some value
  objects : ∀ objectId value, s.tokenizedObjects.get objectId = some value →
    s'.tokenizedObjects.get objectId = some value
  events : ∀ tokenEventId record, s.tokenEvents.get tokenEventId = some record →
    s'.tokenEvents.get tokenEventId = some record

theorem Keeps.refl (s : Storage) : Keeps s s :=
  ⟨fun _ _ => id, fun _ _ => id, fun _ _ => id, fun _ _ => id⟩

theorem Keeps.trans {s t u : Storage} (first : Keeps s t) (second : Keeps t u) : Keeps s u where
  classes _ _ stored := second.classes _ _ (first.classes _ _ stored)
  adapters _ _ stored := second.adapters _ _ (first.adapters _ _ stored)
  objects _ _ stored := second.objects _ _ (first.objects _ _ stored)
  events _ _ stored := second.events _ _ (first.events _ _ stored)

theorem Effect.keeps {s s' : Storage} {call : Call} (effect : Effect s call s') : Keeps s s' := by
  cases effect with
  | tokenClass _ value _ fresh =>
      exact { Keeps.refl s with classes := fun _ _ => s.tokenClasses.get_insert_of_some _ fresh }
  | adapter _ value _ fresh =>
      exact { Keeps.refl s with
        adapters := fun _ _ => s.chainAdapters.get_insert_of_some _ fresh }
  | object _ value _ _ fresh =>
      exact { Keeps.refl s with
        objects := fun _ _ => s.tokenizedObjects.get_insert_of_some _ fresh }
  | failure _ record _ fresh | event _ record _ _ _ fresh =>
      exact { Keeps.refl s with events := fun _ _ => s.tokenEvents.get_insert_of_some _ fresh }

section Runs

variable {AccountId BlockNumber : Type} [LinearOrder BlockNumber]

theorem represents_run (genesis : BlockNumber)
    (inputs : List (Input AccountId BlockNumber Call)) :
    Represents (accepted (trace pallet ⟨genesis, .empty⟩ inputs))
      (run genesis inputs).storage := by
  have invariant : LogInvariant (@pallet AccountId BlockNumber) Represents :=
    ⟨fun represents done => represents.step (pallet_effect done)⟩
  have start : Represents [] .empty := represents_empty
  exact invariant.run (w := ⟨genesis, .empty⟩) start inputs

/-- The life of every object follows the automaton: one mint for the initial
holder at most, then a chain of holders of the same token; the latest event is
the last of the life, which no failure observation touches; and what is stored
stays. -/
theorem lifecycles_follow (genesis : BlockNumber)
    (inputs later : List (Input AccountId BlockNumber Call)) :
    let s := (run genesis inputs).storage
    let life := fun objectId =>
      lifecycle objectId (accepted (trace pallet ⟨genesis, .empty⟩ inputs))
    (∀ objectId, s.tokenizedObjects.get objectId = none → life objectId = []) ∧
    (∀ objectId object, s.tokenizedObjects.get objectId = some object →
      ∃ class', s.tokenClasses.get object.tokenClassId = some class' ∧
        Trail Follows ((life objectId).map fun entry => entry.2.eventType) ∧
        ((life objectId).filter fun entry => entry.2.eventType.Mint).length ≤ 1 ∧
        (∀ mint ∈ life objectId, ∀ entry ∈ life objectId, mint.2.eventType.Mint →
          entry.2.eventType.Passes → SameToken mint.2 entry.2) ∧
        (∀ entry, (moves (life objectId)).head? = some entry →
          entry.2.eventType.Mint ∧ entry.2.fromSubjectId = none ∧
            entry.2.toSubjectId = some object.initialHolderSubjectId) ∧
        (moves (life objectId)).IsChain (fun prior next =>
          next.2.fromSubjectId = prior.2.toSubjectId) ∧
        (class'.transferable = false →
          (∀ entry ∈ life objectId, entry.2.eventType ≠ .transferConfirmed) ∧
            ∀ entry ∈ moves (life objectId), Stays object entry)) ∧
    (∀ objectId, s.latestTokenEvent.get objectId = (life objectId).getLast?.map Prod.fst) ∧
    (∀ objectId, ∀ entry ∈ life objectId, ∃ record,
      s.tokenEvents.get entry.1 = some record ∧ record.toProviderEvent = entry.2 ∧
        record.tokenizedObjectId = objectId ∧ record.eventType ≠ .providerFailure) ∧
    (∀ (env : Env AccountId BlockNumber) (origin : RawOrigin AccountId) (tokenEventId : Id32)
      (details : ProviderEvent) (s' : Storage), details.eventType = .providerFailure →
        pallet env origin (.recordProviderEvent tokenEventId details) s = .ok () s' →
          s'.latestTokenEvent = s.latestTokenEvent) ∧
    Keeps s (run genesis (inputs ++ later)).storage := by
  intro s life
  have represents : Represents _ s := represents_run genesis inputs
  have kept : Keeps s (run genesis (inputs ++ later)).storage :=
    preorder_run Keeps.refl Keeps.trans (fun done => (pallet_effect done).keeps) inputs later
  refine ⟨fun objectId absent => represents.unregistered absent, ?_, represents.latest, ?_, ?_,
    kept⟩
  · intro objectId object objectEq
    obtain ⟨class', classEq⟩ := represents.classed objectEq
    have trail := represents.trail objectEq classEq
    refine ⟨class', classEq, ?_, minted_once trail, ?_, ?_, ?_, moves_bound trail⟩
    · apply trail.map
      intro prior next step
      have follows := step.follows
      rwa [Option.map_map] at follows
    · intro mint mintMember entry entryMember isMint passes
      exact moves_sameToken trail (mem_moves.mpr ⟨mintMember, .inl isMint⟩)
        (mem_moves.mpr ⟨entryMember, .inr passes⟩)
    · exact fun entry headEq => (moves_trail trail).head headEq
    · exact (moves_trail trail).isChain.imp fun _ _ move => move.2.2.1
  · intro objectId entry member
    obtain ⟨record, found, same⟩ := represents.stored member
    obtain ⟨own, succeeded⟩ := of_mem_lifecycle member
    rw [← same] at own succeeded
    exact ⟨record, found, same, own, succeeded⟩
  · intro env origin tokenEventId details s' failed done
    generalize callEq : Call.recordProviderEvent tokenEventId details = call at done
    cases pallet_effect done with
    | tokenClass | adapter | object | failure => rfl
    | event _ record _ _ _ _ _ _ succeeded =>
        obtain ⟨_, rfl⟩ := Call.recordProviderEvent.inj callEq
        exact absurd failed succeeded

end Runs

end Chlom.Tokenization
