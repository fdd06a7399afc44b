import Chlom.Dispatcher.Ledger
import Chlom.Dispatcher.Retries

/-!
# Each keyed mutation is carried out once

Whatever sessions call the dispatchers side by side, at most one committed call under a
key carries its mutation out.  Later calls of the same mutation answer what it answered,
and calls of another mutation under its key conflict with it.  While no committed call has
carried a mutation out under a key, the next one that reaches the first dispatcher does.
-/

namespace Chlom.Dispatcher

open Assurance (Text text Timestamp Uuid SqlError)
open Locking

variable {B : Builtins} {s s' : Tables} {held held' : List Lock} {r : Request} {answer : Json}
  {past : List Entry} {t t' : Tables}

/-! ## How a call of the third dispatcher ends -/

/-- The same mutation. -/
def Same (first r : Request) : Prop :=
  first.name = r.name ∧ first.document = r.document

/-- A mutation ends as the first dispatcher does after its key is reserved. -/
def CarriedOutV3 (B : Builtins) (t : Tables) (r : Request) (key : RegistryKey)
    (result : Except Failure Json) : Prop :=
  ∃ rateBuckets locks out,
    Runs (parts B) (dispatchV1 B r.passOn)
        { t with rateBuckets := rateBuckets, registry := t.registry.put (placeholder B r key) }
        locks out ∧
      result = out.result.map fun response => answerV3 B key.2 response (rateLimit r.name)

/-- The requests of an account for an action were too many in the minute. -/
def RateLimited (t : Tables) (r : Request) (uid : Uuid) (result : Except Failure Json) : Prop :=
  result = .error rateLimitExceeded ∧ rateLimit r.name ≤ counted t r uid

/-- How a mutation under a key ends after some calls.  A second call of it is a replay of
the first, a call of another one under its key is a conflict, and the first one is carried
out, all unless it is refused before its key is looked up. -/
structure SettledV3 (B : Builtins) (past : List Entry) (t : Tables) (r : Request)
    (key : RegistryKey) (result : Except Failure Json) : Prop where
  finished : result ≠ .error requestInProgress
  again : ∀ first k reply, (.v3 first k, reply) ∈ past →
    executesV3 key (.v3 first k, reply) = true → Same first r →
      RateLimited t r key.1 result ∨
        ∃ response, reply = answerV3 B key.2 response (rateLimit r.name) ∧
          result = .ok (replayV3 B (completed B first key response) response (rateLimit r.name))
  conflict : ∀ first k reply, (.v3 first k, reply) ∈ past →
    executesV3 key (.v3 first k, reply) = true → ¬ Same first r →
      RateLimited t r key.1 result ∨
        (result = .error payloadTooLarge ∧ ¬ r.document.octets ≤ 1048576) ∨
        result = .error idempotencyConflict
  first : past.countP (executesV3 key) = 0 →
    (∃ failure, RefusedV3 r key t failure ∧ result = .error failure) ∨
      CarriedOutV3 B t r key result

theorem requestSha256_eq (injective : Function.Injective B.canonicalSha256) {first : Request} :
    requestSha256 B first = requestSha256 B r ↔ Same first r := by
  rw [requestSha256, requestSha256, injective.eq_iff]
  simp [Same]

variable {out : Ended Tables Lock Failure Json} {key : RegistryKey} {first : Request}
  {k : Option Text} {reply : Json}

theorem endV3_completed (injective : Function.Injective B.canonicalSha256) {response : Json} :
    endV3 B r (completed B first key response) = .ok
        (replayV3 B (completed B first key response) response (rateLimit r.name)) ∧ Same first r ∨
      endV3 B r (completed B first key response) = .error idempotencyConflict ∧ ¬ Same first r := by
  by_cases same : Same first r
  · refine .inl ⟨if_pos ⟨same.1, ?_⟩, same⟩
    exact (requestSha256_eq injective).mpr same
  · refine .inr ⟨if_neg fun both => same ?_, same⟩
    exact (requestSha256_eq injective).mp both.2

theorem RefusedV3.ne_requestInProgress {failure : Failure} (refused : RefusedV3 r key t failure) :
    failure ≠ requestInProgress := by
  cases refused <;> decide

theorem conflict_ne_requestInProgress : idempotencyConflict ≠ requestInProgress := by
  decide

theorem MutationV3.again_ends (ends : MutationV3 B r key t out) {row : RegistryRow}
    (found : t.registry.find key = some row) (valid : ValidKey key.2) :
    RateLimited t r key.1 out.result ∨
      (out.result = .error payloadTooLarge ∧ ¬ r.document.octets ≤ 1048576) ∨
      out.result = endV3 B r row := by
  cases ends with
  | refused refused =>
      cases refused with
      | large above => exact .inr (.inl ⟨rfl, above⟩)
      | rate full => exact .inl ⟨rfl, full⟩
      | malformed bad => exact absurd valid bad
  | again stored =>
      obtain rfl := Option.some.inj (found.symm.trans stored)
      exact .inr (.inr rfl)
  | first small valid free first =>
      rw [found] at free
      cases free

theorem MutationV3.settled (injective : Function.Injective B.canonicalSha256)
    (ledger : Ledger B past t) (ends : MutationV3 B r key t out) :
    SettledV3 B past t r key out.result := by
  have once := ledger.registry key
  constructor
  · cases ends with
    | refused refused => exact fun same => refused.ne_requestInProgress (Except.error.inj same)
    | again found =>
        generalize past.filter (executesV3 key) = entries at once
        rw [found] at once
        cases once with
        | stored stores =>
            cases stores with
            | intro named small valid =>
                rcases endV3_completed injective with ⟨ended, _⟩ | ⟨ended, _⟩
                · rw [ended]
                  nofun
                · rw [ended]
                  exact fun same => conflict_ne_requestInProgress (Except.error.inj same)
    | first small valid free first =>
        cases first with
        | failed runs =>
            have unkeyed := runs.raised raises_dispatchV1
            exact fun same => unkeyed.1 (Except.error.inj same)
        | stored runs => nofun
  · intro first k reply member executed same
    obtain ⟨row, found, stores⟩ := once.of_mem member executed
    cases stores with
    | @intro _ _ fields named small valid =>
        rcases ends.again_ends found valid with limited | ⟨_, above⟩ | ended
        · exact .inl limited
        · rw [same.2] at small
          exact absurd small above
        · refine .inr ⟨.object fields, by rw [same.1], ?_⟩
          rcases endV3_completed injective with ⟨replay, _⟩ | ⟨_, other⟩
          · exact ended.trans replay
          · exact absurd same other
  · intro first k reply member executed other
    obtain ⟨row, found, stores⟩ := once.of_mem member executed
    cases stores with
    | intro named small valid =>
        rcases ends.again_ends found valid with limited | large | ended
        · exact .inl limited
        · exact .inr (.inl large)
        · rcases endV3_completed injective with ⟨_, same⟩ | ⟨conflict, _⟩
          · exact absurd same other
          · exact .inr (.inr (ended.trans conflict))
  · intro unused
    cases ends with
    | refused refused => exact .inl ⟨_, refused, rfl⟩
    | again found =>
        rw [once.of_countP unused] at found
        cases found
    | first small valid free first =>
        cases first with
        | failed runs => exact .inr ⟨_, _, _, runs, rfl⟩
        | stored runs => exact .inr ⟨_, _, _, runs, rfl⟩

/-! ## How a call of the second dispatcher ends -/

/-- A mutation ends as the first dispatcher does, unless the identifier for its receipt is
in use. -/
def CarriedOutV2 (B : Builtins) (t : Tables) (r : Request) (key : ReceiptKey)
    (result : Except Failure Json) : Prop :=
  result = .error (.own (.uniqueViolation "idempotency_receipt_id")) ∨
    ∃ locks out subject, Runs (parts B) (dispatchV1 B r.passOn) t locks out ∧
      result = out.result.map fun response => answerV2 (receiptOf B r key subject response)

/-- How a mutation under a key ends after some calls. -/
structure SettledV2 (B : Builtins) (past : List Entry) (t : Tables) (r : Request) (uid : Uuid)
    (key : Text) (result : Except Failure Json) : Prop where
  finished : result ≠ .error requestInProgress
  again : ∀ first k reply, (.v2 first k, reply) ∈ past → trimmedKey k = key →
    executesV2 B (receiptKey B r uid key) (.v2 first k, reply) = true →
    first.document = r.document →
      result = .error operatorNotActive ∨ ∃ subject response,
        reply = answerV2 (receiptOf B first (receiptKey B r uid key) subject response) ∧
          result = .ok
            (replayV2 B (receiptOf B first (receiptKey B r uid key) subject response))
  conflict : ∀ first k reply, (.v2 first k, reply) ∈ past → trimmedKey k = key →
    executesV2 B (receiptKey B r uid key) (.v2 first k, reply) = true →
    first.document ≠ r.document →
      result = .error operatorNotActive ∨ result = .error idempotencyConflict
  first : past.countP (executesV2 B (receiptKey B r uid key)) = 0 →
    (∃ failure, RefusedV2 key failure ∧ result = .error failure) ∨
      CarriedOutV2 B t r (receiptKey B r uid key) result

variable {uid : Uuid} {given : Text}

theorem endV2_receiptOf (injective : Function.Injective B.canonicalSha256) {key : ReceiptKey}
    {subject : Text} {response : Json} :
    endV2 B r (receiptOf B first key subject response) =
          .ok (replayV2 B (receiptOf B first key subject response)) ∧
        first.document = r.document ∨
      endV2 B r (receiptOf B first key subject response) = .error idempotencyConflict ∧
        first.document ≠ r.document := by
  by_cases same : first.document = r.document
  · exact .inl ⟨if_pos (congrArg B.canonicalSha256 same), same⟩
  · exact .inr ⟨if_neg fun digests => same (injective digests), same⟩

theorem RefusedV2.ne_requestInProgress {failure : Failure} (refused : RefusedV2 given failure) :
    failure ≠ requestInProgress := by
  cases refused <;> decide

theorem MutationV2.again_ends (ends : MutationV2 B r uid given t out) {row : IdempotencyReceipt}
    (found : priorOf t (receiptKey B r uid given) = some row) (present : given ≠ [])
    (short : given.length ≤ 128) :
    out.result = .error operatorNotActive ∨ out.result = endV2 B r row := by
  cases ends with
  | refused refused =>
      cases refused with
      | missing empty => exact absurd empty present
      | long above => exact absurd short above
      | unknown => exact .inl rfl
  | again stored =>
      obtain rfl := Option.some.inj (found.symm.trans stored)
      exact .inr rfl
  | first present short free first =>
      rw [found] at free
      cases free

theorem FirstV2.carriedOut {key : ReceiptKey} (first : FirstV2 B r key t out) :
    CarriedOutV2 B t r key out.result := by
  cases first with
  | failed runs => exact .inr ⟨_, _, [], runs, rfl⟩
  | taken => exact .inl rfl
  | stored runs => exact .inr ⟨_, _, _, runs, rfl⟩

theorem FirstV2.ne_requestInProgress {key : ReceiptKey} (first : FirstV2 B r key t out) :
    out.result ≠ .error requestInProgress := by
  cases first with
  | failed runs =>
      have unkeyed := runs.raised raises_dispatchV1
      exact fun same => unkeyed.1 (Except.error.inj same)
  | taken => nofun
  | stored runs => nofun

theorem MutationV2.settled (injective : Function.Injective B.canonicalSha256)
    (ledger : Ledger B past t) (ends : MutationV2 B r uid given t out) :
    SettledV2 B past t r uid given out.result := by
  have once := ledger.receipts (receiptKey B r uid given)
  constructor
  · cases ends with
    | refused refused => exact fun same => refused.ne_requestInProgress (Except.error.inj same)
    | @again _ prior found =>
        change endV2 B r prior ≠ _
        unfold endV2
        split
        · nofun
        · exact fun same => conflict_ne_requestInProgress (Except.error.inj same)
    | first present short free first => exact first.ne_requestInProgress
  · rintro first k reply member rfl executed same
    obtain ⟨row, found, stores⟩ := once.of_mem member executed
    cases stores with
    | @intro _ _ subject fields named present short =>
        rcases ends.again_ends found present short with unknown | ended
        · exact .inl unknown
        · refine .inr ⟨subject, .object fields, rfl, ?_⟩
          rcases endV2_receiptOf injective with ⟨replay, _⟩ | ⟨_, other⟩
          · exact ended.trans replay
          · exact absurd same other
  · rintro first k reply member rfl executed other
    obtain ⟨row, found, stores⟩ := once.of_mem member executed
    cases stores with
    | intro named present short =>
        rcases ends.again_ends found present short with unknown | ended
        · exact .inl unknown
        · rcases endV2_receiptOf injective with ⟨_, same⟩ | ⟨conflict, _⟩
          · exact absurd same other
          · exact .inr (ended.trans conflict)
  · intro unused
    cases ends with
    | refused refused => exact .inl ⟨_, refused, rfl⟩
    | again found =>
        rw [once.of_countP unused] at found
        cases found
    | first present short free first => exact .inr first.carriedOut

/-! ## Every schedule -/

/-- The committed calls of a schedule. -/
def committedCalls {Session : Type} [DecidableEq Session] (B : Builtins)
    (schedule : List (Action Call Session)) : List Entry :=
  history (Runs.trace (step (perform B)) (.initial .empty) schedule)

/-- The calls that a session sees after a schedule: the committed ones and those of its own
transaction. -/
def earlier {Session : Type} [DecidableEq Session] (B : Builtins)
    (schedule : List (Action Call Session)) (session : Session) : List Entry :=
  committedCalls B schedule ++ ((sessions B schedule).current session).past

/-- What holds after a schedule of calls. -/
structure ExactlyOnce {Session : Type} [DecidableEq Session] (B : Builtins)
    (schedule : List (Action Call Session)) : Prop where
  onceV3 : ∀ key, (committedCalls B schedule).countP (executesV3 key) ≤ 1
  onceV2 : ∀ key, (committedCalls B schedule).countP (executesV2 B key) ≤ 1
  dispatched : (sessions B schedule).committed.dispatchReceipts.length =
    (committedCalls B schedule).countP executes
  settledV3 : ∀ session r k uid result, r.uid = some uid → Mutation r.name →
    (step (perform B) (sessions B schedule) (.advance session)).2 = .answered (.v3 r k) result →
    SettledV3 B (earlier B schedule session) ((sessions B schedule).seen session) r
      (uid, trimmedKey k) result
  settledV2 : ∀ session r k uid result, r.uid = some uid → Mutation r.name →
    (step (perform B) (sessions B schedule) (.advance session)).2 = .answered (.v2 r k) result →
    SettledV2 B (earlier B schedule session) ((sessions B schedule).seen session) r uid
      (trimmedKey k) result
  /-- A call that is issued after the first one was committed misses no operator. -/
  laterV2 : ∀ before after session r k uid result, schedule = before ++ after →
    ((sessions B before).current session).active = none → r.uid = some uid → Mutation r.name →
    0 < (committedCalls B before).countP (executesV2 B (receiptKey B r uid (trimmedKey k))) →
    (step (perform B) (sessions B schedule) (.advance session)).2 = .answered (.v2 r k) result →
    result ≠ .error operatorNotActive
  refused : ∀ session call failure,
    (step (perform B) (sessions B schedule) (.advance session)).2 =
      .answered call (.error failure) →
    (sessions B schedule).Unchanged (sessions B (schedule ++ [.advance session]))
  aborted : ∀ session,
    (sessions B (schedule ++ [.abort session])).committed = (sessions B schedule).committed ∧
      committedCalls B (schedule ++ [.abort session]) = committedCalls B schedule

theorem sessions_append {Session : Type} [DecidableEq Session]
    (before after : List (Action Call Session)) : sessions B (before ++ after) =
      Runs.run (step (perform B)) (sessions B before) after :=
  Runs.run_append ..

theorem committedCalls_concat {Session : Type} [DecidableEq Session]
    (schedule : List (Action Call Session)) (action : Action Call Session) :
    committedCalls B (schedule ++ [action]) =
      committedCalls B schedule ++ (step (perform B) (sessions B schedule) action).2.past := by
  rw [committedCalls, Runs.trace_append, history, List.flatMap_append]
  simp [committedCalls, history, Runs.trace]

theorem ledger_committed {Session : Type} [DecidableEq Session]
    (schedule : List (Action Call Session)) :
    Ledger B (committedCalls B schedule) (sessions B schedule).committed :=
  ledger_empty.serial (serial_run guarded_perform .empty schedule)

/-- While its key has a result, a call of the second dispatcher does not miss its operator. -/
theorem raises_named (key : ReceiptKey) (call : Call) : Raises (Served key)
    (fun failure => namesV2 B key call = true → failure ≠ operatorNotActive) (perform B call) := by
  cases named : namesV2 B key call with
  | false => exact raises_of_forall (fun _ impossible => by cases impossible) _
  | true =>
      cases call with
      | v2 r k =>
          obtain ⟨mutation, signed, same⟩ := namesV2_iff.mp named
          have raises : Raises (Served (receiptKey B r key.1 (trimmedKey k))) _ (dispatchV2 B r k) :=
            raises_dispatchV2 signed mutation
          rw [same] at raises
          simpa [perform] using raises
      | _ => cases named

/-- In every schedule of calls, each keyed mutation is carried out at most once. -/
theorem exactlyOnce {Session : Type} [DecidableEq Session]
    (injective : Function.Injective B.canonicalSha256) (schedule : List (Action Call Session)) :
    ExactlyOnce B schedule := by
  have sound : (sessions B schedule).Sound (parts B) (perform B) := .run guarded_perform schedule
  have ledger : Ledger B (committedCalls B schedule) (sessions B schedule).committed :=
    ledger_committed schedule
  have seen (session : Session) :
      Ledger B (earlier B schedule session) ((sessions B schedule).seen session) :=
    ledger.serial (sound.seen session)
  constructor
  · exact fun key => (ledger.registry key).countP_le
  · exact fun key => (ledger.receipts key).countP_le
  · exact ledger.dispatched
  · intro session r k uid result signed mutation shown
    obtain ⟨held, s', held', runs⟩ := sound.answered shown
    exact (dispatchV3_runs signed mutation runs).settled injective (seen session)
  · intro session r k uid result signed mutation shown
    obtain ⟨held, s', held', runs⟩ := sound.answered shown
    exact (dispatchV2_runs signed mutation runs).settled injective (seen session)
  · rintro before after session r k uid result rfl idle signed mutation executed shown rfl
    have named : namesV2 B (receiptKey B r uid (trimmedKey k)) (.v2 r k) = true :=
      namesV2_iff.mpr ⟨mutation, signed, rfl⟩
    have stored := ((ledger_committed before).receipts _).isSome_of_countP executed
    have known := known_of_hasResult before stored
    have failed := System.raises_later steady_perform (raises_named _) before after idle
      ⟨known, stored⟩ shown
    exact failed named rfl
  · intro session call failure shown
    rw [sessions_append]
    exact System.refused shown
  · intro session
    rw [sessions_append, committedCalls_concat]
    exact ⟨rfl, List.append_nil _⟩

/-! ## A mutation called too often -/

namespace Sample

def builtins : Builtins where
  hashText _ := 0
  sha256Hex key := key
  canonicalSha256 document := document.encode []
  timestampText _ := []

theorem builtins_injective : Function.Injective builtins.canonicalSha256 :=
  fun first second same => (Json.encode_injective first second same).1

def operator (version : Int) (active : Bool) : OperatorVersion where
  operatorSubjectId := text "ct.operator"
  version
  userId := 7
  authorityClass := text "D2"
  active
  scopes := [some wildcard]
  approvalId := text "ct.approval"
  recordedAt := version

def request (n : Nat) : Request where
  uid := some 7
  action := some (text "record_dla")
  payload := none
  met _ := 0
  requestId := n
  dispatchReceiptId := n
  idempotencyReceiptId := n
  clock := 0
  recordedAt := 0
  completedAt := 0
  status := .null
  capabilities := .null
  carryOut _ := .ok (.object [])
  receiptEvent := .ok .null

def retryKey : Text := text "0123456789abcdef"

/-- Issue a call, take all its steps and commit. -/
def calling (call : Call) : List (Action Call Unit) :=
  .issue () call :: (List.replicate 26 (.advance ()) ++ [.commit ()])

/-- An operator calls for the same mutation some times within one minute. -/
def repeated (times : Nat) : List (Action Call Unit) :=
  calling (.operator (operator 1 true)) ++
    (List.range times).flatMap fun n => calling (.v3 (request n) (some retryKey))

end Sample

/-- Two calls for one mutation. -/
theorem repeated_exactlyOnce : ExactlyOnce Sample.builtins (Sample.repeated 2) :=
  exactlyOnce Sample.builtins_injective _

set_option maxRecDepth 100000 in
/-- Beyond thirty calls in a minute, a later call for a mutation is refused. -/
theorem not_always_replayed : ¬ ∀ (schedule : List (Action Call Unit)) session r k uid result,
    r.uid = some uid → Mutation r.name →
    (step (perform Sample.builtins) (sessions Sample.builtins schedule) (.advance session)).2 =
      .answered (.v3 r k) result →
    ∀ first k' reply, (.v3 first k', reply) ∈ committedCalls Sample.builtins schedule →
      executesV3 (uid, trimmedKey k) (.v3 first k', reply) = true → Same first r →
      ∃ row response, result = .ok (replayV3 Sample.builtins row response (rateLimit r.name)) := by
  intro always
  let schedule : List (Action Call Unit) := Sample.repeated 30 ++
    .issue () (.v3 (Sample.request 30) (some Sample.retryKey)) :: List.replicate 3 (.advance ())
  have refused : (step (perform Sample.builtins) (sessions Sample.builtins schedule)
      (.advance ())).2 = .answered (.v3 (Sample.request 30) (some Sample.retryKey))
        (.error rateLimitExceeded) := by
    rfl
  have carriedOut : ∃ reply, (committedCalls Sample.builtins schedule)[1]? =
      some (.v3 (Sample.request 0) (some Sample.retryKey), reply) ∧ fresh reply = true := by
    exact ⟨_, rfl, rfl⟩
  obtain ⟨reply, second, flag⟩ := carriedOut
  have named : executesV3 (7, trimmedKey (some Sample.retryKey))
      (.v3 (Sample.request 0) (some Sample.retryKey), reply) = true := by
    rw [executesV3, flag, Bool.and_true]
    exact namesV3_iff.mpr (by decide)
  obtain ⟨row, response, replayed⟩ := always schedule () (Sample.request 30) (some Sample.retryKey) 7 _
    rfl (by decide) refused (Sample.request 0) (some Sample.retryKey) reply
    (List.mem_of_getElem? second) named ⟨rfl, rfl⟩
  cases replayed

end Chlom.Dispatcher
