import Chlom.Dispatcher.Effects

/-!
# How keyed requests end

A request under a key is refused before its key is looked up, or is answered from what is
stored under the key, or, when nothing is, ends as the first dispatcher ends.
-/

namespace Chlom.Dispatcher

open Assurance (Text text Timestamp Uuid SqlError)
open Locking

variable {B : Builtins} {s s' : Tables} {held held' : List Lock} {r : Request} {answer : Json}
  {out : Ended Tables Lock Failure Json} {I : Tables → Prop}

/-! ## Failures of the first dispatcher -/

/-- A failure other than those that are about the key of a request. -/
def Unkeyed (failure : Failure) : Prop :=
  failure ≠ requestInProgress ∧ failure ≠ idempotencyConflict

instance (failure : Failure) : Decidable (Unkeyed failure) :=
  inferInstanceAs (Decidable (_ ∧ _))

theorem unkeyed_called (error : SqlError) : Unkeyed (.called error) :=
  ⟨nofun, nofun⟩

theorem raises_ofCalled {α : Type} {called : Except SqlError α} :
    Raises I Unkeyed (ofCalled called) := by
  cases called with
  | ok value => exact raises_pure
  | error error => exact unkeyed_called error

theorem raises_judge : Raises I Unkeyed (judge r) := by
  refine (raises_okOr (by decide)).bind fun uid => ?_
  refine (raises_ensure (by decide)).bind fun _ => ?_
  refine raises_query.bind fun latest => ?_
  refine (raises_okOr (by decide)).bind fun operator => ?_
  refine (raises_okOr (by decide)).bind fun required => ?_
  refine (raises_ensure (by decide)).bind fun _ => ?_
  exact (raises_ensure (by decide)).bind fun _ => raises_pure

theorem raises_insertDispatchReceipt {row : DispatchReceipt} :
    Raises I Unkeyed (insertDispatchReceipt row) := by
  refine raises_acquire.bind fun _ => raises_query.bind fun sameId => ?_
  refine (raises_ensure (by decide)).bind fun _ => raises_acquire.bind fun _ => ?_
  refine raises_query.bind fun sameRequest => ?_
  exact (raises_ensure (by decide)).bind fun _ => raises_update

theorem raises_dispatchV1 : Raises I Unkeyed (dispatchV1 B r) := by
  refine raises_judge.bind fun a => ?_
  split
  · refine raises_ofCalled.bind fun result => raises_ofCalled.bind fun receiptEvent => ?_
    refine raises_insertDispatchReceipt.bind fun _ => ?_
    exact (raises_okOr (by decide)).bind fun ok => raises_pure
  · exact raises_pure

/-! ## The second dispatcher -/

/-- Results of a key are looked up among those that share its advisory lock. -/
theorem priorOf_of_agree {seen : Tables} {key : ReceiptKey}
    (member : Lock.advisory (receiptLock B key) ∈ held) (agree : AgreeOn (parts B) held s seen) :
    priorOf seen key = priorOf s key := by
  have shared : (s.idempotencyReceipts.filter fun r => receiptLock B r.key = receiptLock B key) =
      seen.idempotencyReceipts.filter fun r => receiptLock B r.key = receiptLock B key :=
    congrArg Prod.snd (agree _ member)
  have narrow : ∀ t : Tables, priorOf t key = (t.idempotencyReceipts.filter fun r =>
      receiptLock B r.key = receiptLock B key).find? fun row => row.key = key := by
    intro t
    rw [priorOf, List.find?_filter]
    congr 1
    funext row
    by_cases same : row.key = key <;> simp [same]
  rw [narrow, narrow, shared]

/-- How a request ends whose key has a result. -/
def endV2 (B : Builtins) (r : Request) (prior : IdempotencyReceipt) : Except Failure Json :=
  if prior.requestPayloadSha256 = B.canonicalSha256 r.document then .ok (replayV2 B prior)
  else .error idempotencyConflict

/-- A failure of a mutation before the second dispatcher looks its key up. -/
inductive RefusedV2 (key : Text) : Failure → Prop
  | missing (empty : key = []) : RefusedV2 key keyRequired
  | long (above : ¬ key.length ≤ 128) : RefusedV2 key keyTooLong
  | unknown : RefusedV2 key operatorNotActive

/-- How a mutation ends whose key has no result. -/
inductive FirstV2 (B : Builtins) (r : Request) (key : ReceiptKey) (s : Tables) :
    Ended Tables Lock Failure Json → Prop
  | failed {locks last kept failure}
      (runs : Runs (parts B) (dispatchV1 B r.passOn) s locks ⟨last, kept, .error failure⟩) :
      FirstV2 B r key s ⟨last, kept, .error failure⟩
  | taken {last kept} :
      FirstV2 B r key s ⟨last, kept, .error (.own (.uniqueViolation "idempotency_receipt_id"))⟩
  | stored {locks last kept kept' subject result}
      (runs : Runs (parts B) (dispatchV1 B r.passOn) s locks ⟨last, kept, .ok result⟩) :
      FirstV2 B r key s ⟨{ last with
        idempotencyReceipts := last.idempotencyReceipts ++ [receiptOf B r key subject result] },
        kept', .ok (answerV2 (receiptOf B r key subject result))⟩

/-- The key of a mutation, with the digest of the given one. -/
def receiptKey (B : Builtins) (r : Request) (uid : Uuid) (key : Text) : ReceiptKey :=
  (uid, r.name, B.sha256Hex key)

/-- How a mutation under a key ends. -/
inductive MutationV2 (B : Builtins) (r : Request) (uid : Uuid) (key : Text) (s : Tables) :
    Ended Tables Lock Failure Json → Prop
  | refused {kept failure} (refused : RefusedV2 key failure) :
      MutationV2 B r uid key s ⟨s, kept, .error failure⟩
  | again {kept prior} (found : priorOf s (receiptKey B r uid key) = some prior) :
      MutationV2 B r uid key s ⟨s, kept, endV2 B r prior⟩
  | first {ended} (present : key ≠ []) (short : key.length ≤ 128)
      (free : priorOf s (receiptKey B r uid key) = none)
      (first : FirstV2 B r (receiptKey B r uid key) s ended) : MutationV2 B r uid key s ended

theorem againV2_runs {prior : IdempotencyReceipt}
    (runs : Runs (parts B) (againV2 B r prior) s held out) : out = ⟨s, held, endV2 B r prior⟩ := by
  rw [againV2, runs_ensure_bind] at runs
  unfold endV2
  rcases runs with ⟨same, rfl⟩ | ⟨different, rfl⟩
  · rw [if_pos same]
  · rw [if_neg different]

theorem sameKey_of_agree {seen : Tables} {key : ReceiptKey}
    (member : Lock.idempotencyKey key ∈ held) (agree : AgreeOn (parts B) held s seen) :
    (seen.idempotencyReceipts.filter fun row => row.key = key) =
      s.idempotencyReceipts.filter fun row => row.key = key :=
  (agree _ member).symm

/-- A row whose key has no result is refused only for its identifier. -/
theorem insertIdempotencyReceipt_runs {row : IdempotencyReceipt} {out : Ended Tables Lock Failure Unit}
    (free : priorOf s row.key = none)
    (runs : Runs (parts B) (insertIdempotencyReceipt row) s held out) :
    out.result = .error (.own (.uniqueViolation "idempotency_receipt_id")) ∨
      out.result = .ok () ∧
        out.state = { s with idempotencyReceipts := s.idempotencyReceipts ++ [row] } := by
  rw [insertIdempotencyReceipt, runs_acquire_bind, runs_query_bind] at runs
  obtain ⟨_, _, runs⟩ := runs
  rw [runs_ensure_bind] at runs
  rcases runs with ⟨_, runs⟩ | ⟨_, rfl⟩
  · have none_ : (s.idempotencyReceipts.filter fun other => other.key = row.key) = [] := by
      simpa [priorOf] using free
    rw [runs_acquire_bind,
      runs_query_bind_of_agree fun seen agree => sameKey_of_agree (by simp) agree, none_,
      runs_ensure_bind] at runs
    rcases runs with ⟨_, ended⟩ | ⟨taken, _⟩
    · obtain rfl := runs_update.mp ended
      exact .inr ⟨rfl, rfl⟩
    · exact absurd rfl taken
  · exact .inl rfl

theorem firstV2_runs {key : ReceiptKey} {subject : Text} (free : priorOf s key = none)
    (runs : Runs (parts B) (firstV2 B r key subject) s held out) : FirstV2 B r key s out := by
  rw [firstV2, runs_bind] at runs
  rcases runs with ⟨last, kept, result, carried, runs⟩ | ⟨failure, failed, ended⟩
  · have receipts : last.idempotencyReceipts = s.idempotencyReceipts := by
      rcases dispatchV1_ok carried with ⟨_, ⟨row, rfl⟩, _⟩ | ⟨_, rfl⟩
      · rfl
      · rfl
    have free' : priorOf last (receiptOf B r key subject result).key = none := by
      rw [priorOf, receipts]
      exact free
    rw [runs_bind] at runs
    rcases runs with ⟨_, kept', _, inserted, ended⟩ | ⟨failure, refused, ended⟩
    · rcases insertIdempotencyReceipt_runs free' inserted with taken | ⟨_, after⟩
      · cases taken
      · obtain rfl := after
        obtain rfl := runs_pure.mp ended
        exact .stored carried
    · cases out
      cases ended
      rcases insertIdempotencyReceipt_runs free' refused with taken | ⟨stored, _⟩
      · cases taken
        exact .taken
      · cases stored
  · cases out
    cases ended
    exact .failed failed

theorem mutateV2_runs {uid : Uuid} {key : Text}
    (runs : Runs (parts B) (mutateV2 B r uid key) s held out) :
    MutationV2 B r uid key s out := by
  rw [mutateV2, runs_ensure_bind] at runs
  rcases runs with ⟨present, runs⟩ | ⟨empty, rfl⟩
  · rw [runs_ensure_bind] at runs
    rcases runs with ⟨short, runs⟩ | ⟨above, rfl⟩
    · rw [runs_query_bind] at runs
      obtain ⟨seen, _, runs⟩ := runs
      rw [runs_okOr_bind] at runs
      rcases runs with ⟨operator, _, runs⟩ | ⟨_, rfl⟩
      · rw [runs_acquire_bind,
          runs_query_bind_of_agree fun seen agree => priorOf_of_agree (by simp) agree] at runs
        cases found : priorOf s (receiptKey B r uid key) with
        | some prior =>
            rw [receiptKey] at found
            rw [found] at runs
            obtain rfl := againV2_runs runs
            exact .again found
        | none =>
            rw [receiptKey] at found
            rw [found] at runs
            exact .first present short found (firstV2_runs found runs)
      · exact .refused .unknown
    · exact .refused (.long above)
  · exact .refused (.missing (not_not.mp empty))

theorem dispatchV2_runs {uid : Uuid} {key : Option Text} (signed : r.uid = some uid)
    (mutation : Mutation r.name) (runs : Runs (parts B) (dispatchV2 B r key) s held out) :
    MutationV2 B r uid (trimmedKey key) s out := by
  rw [dispatchV2, signed, runs_okOr_bind] at runs
  rcases runs with ⟨_, same, runs⟩ | ⟨missing, _⟩
  · obtain rfl := Option.some.inj same
    rw [if_pos mutation] at runs
    exact mutateV2_runs runs
  · cases missing

/-! ## The third dispatcher -/

theorem find_of_agree {seen : Tables} {key : RegistryKey}
    (member : Lock.advisory (registryLock B key) ∈ held) (agree : AgreeOn (parts B) held s seen) :
    seen.registry.find key = s.registry.find key := by
  have shared := congrFun (congrArg Prod.fst (agree _ member)) key
  simpa [parts] using shared.symm

/-- How a request ends whose key is reserved. -/
def endV3 (B : Builtins) (r : Request) (stored : RegistryRow) : Except Failure Json :=
  if stored.action = r.name ∧ stored.requestSha256 = requestSha256 B r then
    match stored.state, stored.response with
    | .completed, some response => .ok (replayV3 B stored response (rateLimit r.name))
    | _, _ => .error requestInProgress
  else .error idempotencyConflict

/-- The requests counted in the bucket of the minute of a request. -/
def counted (t : Tables) (r : Request) (uid : Uuid) : Nat :=
  ((t.rateBuckets.find (uid, r.name, minute r.clock)).map RateBucket.requestCount).getD 0

/-- A failure of a mutation before the third dispatcher looks its key up. -/
inductive RefusedV3 (r : Request) (key : RegistryKey) (s : Tables) : Failure → Prop
  | large (above : ¬ r.document.octets ≤ 1048576) : RefusedV3 r key s payloadTooLarge
  | rate (full : rateLimit r.name ≤ counted s r key.1) : RefusedV3 r key s rateLimitExceeded
  | malformed (bad : ¬ ValidKey key.2) : RefusedV3 r key s keyRequired

/-- How a mutation ends whose key is not reserved. -/
inductive FirstV3 (B : Builtins) (r : Request) (key : RegistryKey) (s : Tables) :
    Ended Tables Lock Failure Json → Prop
  | failed {locks last kept failure}
      (runs : Runs (parts B) (dispatchV1 B r.passOn)
        { s with registry := s.registry.put (placeholder B r key) } locks
        ⟨last, kept, .error failure⟩) :
      FirstV3 B r key s ⟨last, kept, .error failure⟩
  | stored {locks last kept response}
      (runs : Runs (parts B) (dispatchV1 B r.passOn)
        { s with registry := s.registry.put (placeholder B r key) } locks
        ⟨last, kept, .ok response⟩) :
      FirstV3 B r key s ⟨{ last with
        registry := last.registry.put (completed B r key response) }, kept,
        .ok (answerV3 B key.2 response (rateLimit r.name))⟩

/-- How a mutation under a key ends, which was counted in a bucket. -/
inductive MutationV3 (B : Builtins) (r : Request) (key : RegistryKey) (s : Tables) :
    Ended Tables Lock Failure Json → Prop
  | refused {last kept failure} (refused : RefusedV3 r key s failure) :
      MutationV3 B r key s ⟨last, kept, .error failure⟩
  | again {rateBuckets kept stored} (found : s.registry.find key = some stored) :
      MutationV3 B r key s ⟨{ s with rateBuckets := rateBuckets }, kept, endV3 B r stored⟩
  | first {rateBuckets ended} (small : r.document.octets ≤ 1048576) (valid : ValidKey key.2)
      (free : s.registry.find key = none)
      (first : FirstV3 B r key { s with rateBuckets := rateBuckets } ended) :
      MutationV3 B r key s ended

theorem againV3_runs {stored : RegistryRow}
    (runs : Runs (parts B) (againV3 B r stored) s held out) : out = ⟨s, held, endV3 B r stored⟩ := by
  rw [againV3, runs_ensure_bind] at runs
  unfold endV3
  rcases runs with ⟨same, runs⟩ | ⟨different, rfl⟩
  · rw [if_pos same]
    rw [runs_ensure_bind] at runs
    rcases runs with ⟨state, runs⟩ | ⟨state, rfl⟩
    · rw [state]
      rw [runs_okOr_bind] at runs
      rcases runs with ⟨response, found, runs⟩ | ⟨missing, rfl⟩
      · rw [found]
        exact runs
      · rw [missing]
    · cases stage : stored.state with
      | processing => rfl
      | completed => exact absurd stage state
  · rw [if_neg different]

theorem firstV3_runs {key : RegistryKey} (free : s.registry.find key = none)
    (runs : Runs (parts B) (firstV3 B r key) s (.advisory (registryLock B key) :: held) out) :
    FirstV3 B r key s out := by
  rw [firstV3, runs_acquire_bind,
    runs_query_bind_of_agree fun seen agree => find_of_agree (by simp) agree, free,
    runs_ensure_bind] at runs
  rcases runs with ⟨_, runs⟩ | ⟨taken, _⟩
  · rw [runs_update_bind, runs_bind] at runs
    rcases runs with ⟨last, kept, response, carried, runs⟩ | ⟨failure, failed, ended⟩
    · rw [runs_update_bind, runs_pure] at runs
      subst runs
      exact .stored carried
    · cases out
      cases ended
      exact .failed failed
  · exact absurd rfl taken

theorem mutateV3_runs {uid : Uuid} {key : Text} {rateBuckets : Table RateBucket.key}
    (small : r.document.octets ≤ 1048576)
    (runs : Runs (parts B) (mutateV3 B r uid key) { s with rateBuckets := rateBuckets } held out) :
    MutationV3 B r (uid, key) s out := by
  rw [mutateV3, runs_ensure_bind] at runs
  rcases runs with ⟨valid, runs⟩ | ⟨bad, rfl⟩
  · rw [runs_acquire_bind,
      runs_query_bind_of_agree fun seen agree => find_of_agree (by simp) agree] at runs
    cases found : s.registry.find (uid, key) with
    | some stored =>
        simp only [found] at runs
        obtain rfl := againV3_runs runs
        exact .again found
    | none =>
        simp only [found] at runs
        have first := firstV3_runs (s := { s with rateBuckets := rateBuckets }) found runs
        exact .first small valid found first
  · exact .refused (.malformed bad)

theorem bucket_of_agree {seen : Tables} {key : BucketKey} (member : Lock.rateBucket key ∈ held)
    (agree : AgreeOn (parts B) held s seen) :
    seen.rateBuckets.find key = s.rateBuckets.find key :=
  (agree _ member).symm

/-- A request is counted under the lock of its bucket. -/
theorem countRequest_runs {uid : Uuid} {out : Ended Tables Lock Failure Unit}
    (runs : Runs (parts B) (countRequest uid r.name r.clock) s held out) :
    (∃ rateBuckets, out.state = { s with rateBuckets := rateBuckets }) ∧
      (out.result = .ok () ∨
        out.result = .error rateLimitExceeded ∧ rateLimit r.name ≤ counted s r uid) := by
  rw [countRequest, runs_acquire_bind,
    runs_query_bind_of_agree fun seen agree => bucket_of_agree (by simp) agree] at runs
  rw [runs_update_bind] at runs
  unfold Prog.ensure at runs
  split at runs
  · obtain rfl := runs
    exact ⟨⟨_, rfl⟩, .inl rfl⟩
  · next above =>
      obtain rfl := runs
      exact ⟨⟨_, rfl⟩, .inr ⟨rfl, by unfold counted; omega⟩⟩

theorem dispatchV3_runs {uid : Uuid} {key : Option Text} (signed : r.uid = some uid)
    (mutation : Mutation r.name) (runs : Runs (parts B) (dispatchV3 B r key) s held out) :
    MutationV3 B r (uid, trimmedKey key) s out := by
  rw [dispatchV3, signed, runs_okOr_bind] at runs
  rcases runs with ⟨_, same, runs⟩ | ⟨missing, _⟩
  · obtain rfl := Option.some.inj same
    rw [runs_ensure_bind] at runs
    rcases runs with ⟨small, runs⟩ | ⟨above, rfl⟩
    · rw [runs_bind] at runs
      rcases runs with ⟨counted, _, _, count, runs⟩ | ⟨failure, count, ended⟩
      · obtain ⟨⟨rateBuckets, rfl⟩, _⟩ := countRequest_runs count
        rw [if_pos mutation] at runs
        exact mutateV3_runs small runs
      · cases out
        cases ended
        obtain ⟨_, done | ⟨exceeded, full⟩⟩ := countRequest_runs count
        · cases done
        · cases exceeded
          exact .refused (.rate full)
    · exact .refused (.large above)
  · cases missing

end Chlom.Dispatcher
