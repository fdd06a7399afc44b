import Chlom.Dispatcher.Idempotency
import Chlom.Library.Locking.Quota

/-!
# Requests past their rate check

The third dispatcher counts a request in the same transaction that carries it out.  While
no request is rolled back after its rate check, the requests past the check stay within the
limit of their bucket.  A request that is refused later takes its count back: any number
of them gets past the check.
-/

namespace Chlom.Dispatcher

open Assurance (Text text Timestamp Uuid SqlError)
open Locking

variable {B : Builtins} {s s' : Tables} {held held' : List Lock} {r : Request} {answer : Json}
  {bucket : BucketKey}

/-! ## Before and after the check -/

/-- The bucket in which a request is counted. -/
def bucketOf (r : Request) : Option BucketKey :=
  r.uid.map fun uid => (uid, r.name, minute r.clock)

/-- A request of the third dispatcher is counted in a bucket. -/
def countsIn (bucket : BucketKey) : Call → Bool
  | .v3 r _ => bucketOf r = some bucket
  | _ => false

/-- A failure of the third dispatcher up to its rate check. -/
def Early (failure : Failure) : Prop :=
  failure = authenticationRequired ∨ failure = payloadTooLarge ∨ failure = rateLimitExceeded

instance (failure : Failure) : Decidable (Early failure) :=
  inferInstanceAs (Decidable (_ ∨ _ ∨ _))

/-- What the third dispatcher does up to its rate check. -/
def admission (r : Request) : Statement Uuid := do
  let uid ← Prog.okOr r.uid authenticationRequired
  Prog.ensure (r.document.octets ≤ 1048576) payloadTooLarge
  countRequest uid r.name r.clock
  pure uid

/-- What it does with a request past the check. -/
def proceed (B : Builtins) (r : Request) (key : Option Text) (uid : Uuid) : Statement Json :=
  if Mutation r.name then mutateV3 B r uid (trimmedKey key) else readV3 B r

theorem dispatchV3_eq (key : Option Text) :
    dispatchV3 B r key = admission r >>= proceed B r key := by
  unfold dispatchV3 admission
  simp only [Prog.bind_assoc]
  rfl

theorem raises_countRequest {I : Tables → Prop} {uid : Uuid} :
    Raises I Early (countRequest uid r.name r.clock) := by
  refine raises_acquire.bind fun _ => raises_query.bind fun stored => ?_
  exact raises_update.bind fun _ => raises_ensure (by decide)

/-- Up to the check a request raises only early failures. -/
theorem raises_admission {I : Tables → Prop} : Raises I Early (admission r) := by
  refine (raises_okOr (by decide)).bind fun uid => (raises_ensure (by decide)).bind fun _ => ?_
  exact raises_countRequest.bind fun _ => raises_pure

section Late

variable {I : Tables → Prop}

theorem raises_ofCalled_late {α : Type} {called : Except SqlError α} :
    Raises I (¬ Early ·) (ofCalled called) := by
  cases called with
  | ok value => exact raises_pure
  | error error => exact fun early => by rcases early with same | same | same <;> cases same

/-- The first dispatcher finds an account and a payload that are checked already. -/
theorem raises_judge_late {uid : Uuid} (signed : r.uid = some uid)
    (small : r.document.octets ≤ 1048576) : Raises I (¬ Early ·) (judge r) := by
  unfold judge
  rw [signed]
  refine raises_okOr_bind_of_isSome rfl fun uid _ => ?_
  rw [Prog.ensure, if_pos small]
  refine raises_query.bind fun latest => (raises_okOr (by decide)).bind fun operator => ?_
  refine (raises_okOr (by decide)).bind fun required => (raises_ensure (by decide)).bind fun _ => ?_
  exact (raises_ensure (by decide)).bind fun _ => raises_pure

theorem raises_dispatchV1_late {uid : Uuid} (signed : r.uid = some uid)
    (small : r.document.octets ≤ 1048576) : Raises I (¬ Early ·) (dispatchV1 B r) := by
  refine (raises_judge_late signed small).bind fun a => ?_
  split
  · refine raises_ofCalled_late.bind fun result => raises_ofCalled_late.bind fun receiptEvent => ?_
    refine Raises.bind ?_ fun _ => (raises_okOr (by decide)).bind fun ok => raises_pure
    refine raises_acquire.bind fun _ => raises_query.bind fun sameId => ?_
    refine (raises_ensure (by decide)).bind fun _ => raises_acquire.bind fun _ => ?_
    refine raises_query.bind fun sameRequest => ?_
    exact (raises_ensure (by decide)).bind fun _ => raises_update
  · exact raises_pure

/-- Past the check a request raises no early failure. -/
theorem raises_proceed {uid : Uuid} {key : Option Text} (signed : r.uid = some uid)
    (small : r.document.octets ≤ 1048576) : Raises I (¬ Early ·) (proceed B r key uid) := by
  have first : Raises I (¬ Early ·) (dispatchV1 B r.passOn) := raises_dispatchV1_late signed small
  unfold proceed
  split
  · refine (raises_ensure (by decide)).bind fun _ => raises_acquire.bind fun _ => ?_
    refine raises_query.bind fun stored => ?_
    cases stored with
    | some stored =>
        refine (raises_ensure (by decide)).bind fun _ => (raises_ensure (by decide)).bind fun _ => ?_
        exact (raises_okOr (by decide)).bind fun response => raises_pure
    | none =>
        refine raises_acquire.bind fun _ => raises_query.bind fun stored => ?_
        refine (raises_ensure (by decide)).bind fun _ => raises_update.bind fun _ => ?_
        exact first.bind fun response => raises_update.bind fun _ => raises_pure
  · exact first.bind fun response => raises_pure

end Late

/-! ## What is counted -/

/-- The requests that a bucket has counted. -/
def requests (t : Tables) (bucket : BucketKey) : Nat :=
  ((t.rateBuckets.find bucket).map RateBucket.requestCount).getD 0

/-- The requests of a bucket, counted under the lock of its row. -/
def bucketQuota (bucket : BucketKey) : Quota Tables Lock Call where
  counts := countsIn bucket
  lock := .rateBucket bucket
  measure t := requests t bucket
  limit := rateLimit bucket.2.1

theorem countRequest_ok {uid : Uuid} {action : Text} {clock : Timestamp}
    (runs : Runs (parts B) (countRequest uid action clock) s held ⟨s', held', .ok ()⟩) :
    ∃ row : RateBucket, row.key = (uid, action, minute clock) ∧
      s' = { s with rateBuckets := s.rateBuckets.put row } ∧
      row.requestCount = requests s row.key + 1 ∧ row.requestCount ≤ rateLimit action ∧
      held' = .rateBucket row.key :: held := by
  rw [countRequest, runs_acquire_bind,
    runs_query_bind_of_agree fun seen agree => bucket_of_agree (by simp) agree,
    runs_update_bind, runs_ensure_ok] at runs
  obtain ⟨within, rfl, rfl⟩ := runs
  exact ⟨⟨uid, action, minute clock, _, clock⟩, rfl, rfl, rfl, within, rfl⟩

/-- An admitted request is signed in, has a small payload and is counted. -/
theorem admission_ok {uid : Uuid} (runs : Runs (parts B) (admission r) s held ⟨s', held', .ok uid⟩) :
    r.uid = some uid ∧ r.document.octets ≤ 1048576 ∧
      ∃ row : RateBucket, row.key = (uid, r.name, minute r.clock) ∧
        s' = { s with rateBuckets := s.rateBuckets.put row } ∧
        row.requestCount = requests s row.key + 1 ∧ row.requestCount ≤ rateLimit r.name ∧
        held' = .rateBucket row.key :: held := by
  rw [admission, runs_okOr_bind_ok] at runs
  obtain ⟨_, signed, runs⟩ := runs
  rw [runs_ensure_bind_ok, runs_bind_ok] at runs
  obtain ⟨small, _, _, _, count, ended⟩ := runs
  cases ended
  exact ⟨signed, small, countRequest_ok count⟩

/-- A request that raises is past its check unless the failure is an early one. -/
theorem late_iff {key : Option Text} {failure : Failure}
    (runs : Runs (parts B) (dispatchV3 B r key) s held ⟨s', held', .error failure⟩) :
    ¬ Early failure ↔ ∃ middle held'' uid, Runs (parts B) (admission r) s held ⟨middle, held'', .ok uid⟩ ∧
      Runs (parts B) (proceed B r key uid) middle held'' ⟨s', held', .error failure⟩ := by
  constructor
  · intro late
    rw [dispatchV3_eq, runs_bind] at runs
    rcases runs with admitted | ⟨other, refused, same⟩
    · exact admitted
    · cases same
      exact absurd (refused.raised raises_admission) late
  · rintro ⟨middle, held'', uid, admitted, failed⟩
    obtain ⟨signed, small, _⟩ := admission_ok admitted
    exact failed.raised (raises_proceed signed small)

/-! ### Calls leave the buckets of others alone -/

theorem dispatchV1_rateBuckets
    (runs : Runs (parts B) (dispatchV1 B r) s held ⟨s', held', .ok answer⟩) :
    s'.rateBuckets = s.rateBuckets := by
  rcases dispatchV1_ok runs with ⟨_, ⟨row, rfl⟩, _⟩ | ⟨_, rfl⟩
  · rfl
  · rfl

theorem dispatchV2_rateBuckets {key : Option Text}
    (runs : Runs (parts B) (dispatchV2 B r key) s held ⟨s', held', .ok answer⟩) :
    s'.rateBuckets = s.rateBuckets := by
  rw [dispatchV2, runs_okOr_bind_ok] at runs
  obtain ⟨uid, _, runs⟩ := runs
  split at runs
  · generalize ended : (⟨s', held', .ok answer⟩ : Ended Tables Lock Failure Json) = out at runs
    cases mutateV2_runs runs with
    | refused refused => cases ended
    | again found =>
        obtain ⟨rfl, _⟩ := Ended.mk.inj ended
        rfl
    | first present short free first =>
        cases first with
        | failed runs => cases ended
        | taken => cases ended
        | stored carried =>
            cases ended
            have kept := dispatchV1_rateBuckets carried
            exact kept
  · exact dispatchV1_rateBuckets runs

theorem mutateV3_rateBuckets {uid : Uuid} {key : Text}
    (runs : Runs (parts B) (mutateV3 B r uid key) s held ⟨s', held', .ok answer⟩) :
    s'.rateBuckets = s.rateBuckets := by
  rw [mutateV3, runs_ensure_bind_ok, runs_acquire_bind,
    runs_query_bind_of_agree fun seen agree => find_of_agree (by simp) agree] at runs
  obtain ⟨_, runs⟩ := runs
  cases found : s.registry.find (uid, key) with
  | some stored =>
      simp only [found] at runs
      obtain ⟨rfl, _⟩ := Ended.mk.inj (againV3_runs runs)
      rfl
  | none =>
      simp only [found] at runs
      generalize ended : (⟨s', held', .ok answer⟩ : Ended Tables Lock Failure Json) = out at runs
      cases firstV3_runs found runs with
      | failed runs => cases ended
      | stored carried =>
          cases ended
          have kept := dispatchV1_rateBuckets carried
          exact kept

theorem proceed_rateBuckets {uid : Uuid} {key : Option Text}
    (runs : Runs (parts B) (proceed B r key uid) s held ⟨s', held', .ok answer⟩) :
    s'.rateBuckets = s.rateBuckets := by
  unfold proceed at runs
  split at runs
  · exact mutateV3_rateBuckets runs
  · rw [readV3, runs_bind_ok] at runs
    obtain ⟨_, _, _, carried, ended⟩ := runs
    cases ended
    exact dispatchV1_rateBuckets carried

/-- A request of the third dispatcher that succeeds was counted in its bucket. -/
theorem dispatchV3_counted {key : Option Text}
    (runs : Runs (parts B) (dispatchV3 B r key) s held ⟨s', held', .ok answer⟩) :
    ∃ row : RateBucket, bucketOf r = some row.key ∧ s'.rateBuckets = s.rateBuckets.put row ∧
      row.requestCount = requests s row.key + 1 ∧ row.requestCount ≤ rateLimit row.key.2.1 ∧
      Lock.rateBucket row.key ∈ held' := by
  rw [dispatchV3_eq, runs_bind_ok] at runs
  obtain ⟨middle, held'', uid, admitted, carried⟩ := runs
  obtain ⟨signed, _, row, named, rfl, count, within, rfl⟩ := admission_ok admitted
  refine ⟨row, ?_, proceed_rateBuckets carried, count, ?_, ?_⟩
  · rw [bucketOf, signed, named]
    rfl
  · rwa [named]
  · exact carried.held_subset List.mem_cons_self

/-- Calls that are not counted in a bucket leave it alone. -/
theorem requests_of_not_counted {call : Call} (other : countsIn bucket call = false)
    (runs : Runs (parts B) (perform B call) s held ⟨s', held', .ok answer⟩) :
    requests s' bucket = requests s bucket := by
  cases call with
  | operator row =>
      obtain rfl := appendOperator_ok runs
      rfl
  | v1 r => rw [requests, dispatchV1_rateBuckets runs, requests]
  | v2 r key => rw [requests, dispatchV2_rateBuckets runs, requests]
  | v3 r key =>
      obtain ⟨row, named, put, _⟩ := dispatchV3_counted runs
      have apart : row.key ≠ bucket := by
        rintro rfl
        rw [countsIn, named] at other
        simp at other
      rw [requests, put, Table.find_put_of_ne apart, requests]

/-- A call that is counted in a bucket adds one request to it, within the limit. -/
theorem requests_of_counted {call : Call} (counted : countsIn bucket call = true)
    (runs : Runs (parts B) (perform B call) s held ⟨s', held', .ok answer⟩) :
    requests s' bucket = requests s bucket + 1 ∧ requests s' bucket ≤ rateLimit bucket.2.1 ∧
      Lock.rateBucket bucket ∈ held' := by
  cases call with
  | v3 r key =>
      obtain ⟨row, named, put, count, within, member⟩ := dispatchV3_counted runs
      have same : row.key = bucket := by
        rw [countsIn, named] at counted
        simpa using counted
      subst same
      have stored : requests s' row.key = row.requestCount := by
        rw [requests, put, Table.find_put_self]
        rfl
      rw [stored]
      exact ⟨count, within, member⟩
  | operator row => cases counted
  | v1 r => cases counted
  | v2 r key => cases counted

theorem counted_bucketQuota : (bucketQuota bucket).Counted (parts B) (perform B) where
  lock counted runs := (requests_of_counted counted runs).2.2
  count {s held call value s' held'} runs := by
    cases counted : countsIn bucket call with
    | true =>
        obtain ⟨count, _⟩ := requests_of_counted counted runs
        simpa [bucketQuota, counted] using count
    | false =>
        have same := requests_of_not_counted counted runs
        simpa [bucketQuota, counted] using same

/-! ## Every schedule -/

/-- A request of a bucket is answered that got past its rate check. -/
def passes (bucket : BucketKey) : Event Failure Json Call → Bool
  | .answered call (.ok _) => countsIn bucket call
  | .answered call (.error failure) => countsIn bucket call && ¬ Early failure
  | _ => false

/-- The requests of a bucket that got past their rate check in a schedule. -/
def passed {Session : Type} [DecidableEq Session] (B : Builtins) (bucket : BucketKey)
    (schedule : List (Action Call Session)) : Nat :=
  (Runs.trace (step (perform B)) (.initial .empty) schedule).countP fun entry =>
    passes bucket entry.2

/-- A step rolls back a request of a bucket that got past its rate check: the request is
about to raise a later failure, or its transaction is aborted. -/
def rollsBack {Session : Type} (bucket : BucketKey)
    (s : System Tables Lock Failure Json Call Session) : Action Call Session → Bool
  | .advance session =>
      match (s.current session).active with
      | none => false
      | some a =>
          match a.rest with
          | .raise failure => countsIn bucket a.input && ¬ Early failure
          | _ => false
  | .abort session => (s.current session).past.any fun entry => countsIn bucket entry.1
  | _ => false

section Schedules

variable {Session : Type} [DecidableEq Session]

/-- A step that rolls nothing back shows a request past its check by its success. -/
theorem passes_of_kept {S : System Tables Lock Failure Json Call Session}
    {action : Action Call Session} (kept : rollsBack bucket S action = false) :
    passes bucket (step (perform B) S action).2 =
      (bucketQuota bucket).succeeds (step (perform B) S action).2 := by
  cases shown : (step (perform B) S action).2 with
  | silent => rfl
  | committed past => rfl
  | answered call result =>
      cases result with
      | ok value => rfl
      | error failure =>
          cases action with
          | advance session =>
              obtain ⟨a, found, rfl, ⟨_, result, _⟩ | ⟨_, result, rest⟩⟩ := System.of_answered shown
              · cases result
              · cases result
                simp only [rollsBack, found, rest] at kept
                exact kept
          | issue session input =>
              rw [Locking.step] at shown
              split at shown <;> cases shown
          | commit session =>
              rw [Locking.step] at shown
              split at shown <;> cases shown
          | abort session => cases shown

omit [DecidableEq Session] in
theorem spares_of_kept {S : System Tables Lock Failure Json Call Session}
    {action : Action Call Session} (kept : rollsBack bucket S action = false) :
    (bucketQuota bucket).Spares S action := by
  cases action with
  | abort session =>
      refine List.countP_eq_zero.mpr fun entry member counted => ?_
      exact List.any_eq_false.mp kept entry member counted
  | _ => trivial

/-- In a run that rolls none of them back, the requests past their check are those that
succeed. -/
theorem passed_of_kept {schedule : List (Action Call Session)}
    (kept : Runs.Meets (step (perform B)) (rollsBack bucket · · = false) (.initial .empty)
      schedule) :
    passed B bucket schedule = (bucketQuota bucket).successes
      (Runs.trace (step (perform B)) (.initial .empty) schedule) := by
  induction schedule using List.reverseRecOn with
  | nil => rfl
  | append_singleton before action ih =>
      obtain ⟨earlier, last, _⟩ := Runs.meets_append.mp kept
      have same := ih earlier
      rw [passed, Quota.successes] at same ⊢
      rw [Runs.trace_append, List.countP_append, List.countP_append, same]
      simp only [Runs.trace, List.countP_singleton, passes_of_kept last]

end Schedules

/-- In a run that rolls none of them back, the limit of a bucket bounds the requests that get
past its rate check. -/
theorem passed_le {Session : Type} [DecidableEq Session] (B : Builtins) (bucket : BucketKey)
    (schedule : List (Action Call Session))
    (kept : Runs.Meets (step (perform B)) (rollsBack bucket · · = false) (.initial .empty)
      schedule) : passed B bucket schedule ≤ rateLimit bucket.2.1 := by
  rw [passed_of_kept kept]
  refine counted_bucketQuota.successes_le (fun counted runs => ?_) guarded_perform schedule ?_
  · exact (requests_of_counted counted runs).2.1
  · exact kept.mono fun S action => spares_of_kept

/-! ## Requests of an account without an operator -/

namespace Sample

/-- The bucket of the first minute. -/
def firstMinute : BucketKey :=
  (7, text "record_dla", 0)

/-- An account calls for mutations, each in its own transaction. -/
def unoperated (times : Nat) : List (Action Call Unit) :=
  (List.range times).flatMap fun n => calling (.v3 (request n) (some retryKey))

end Sample

/-- The requests of an operator up to the limit of the bucket and one more. -/
theorem repeated_passed_le :
    passed Sample.builtins Sample.firstMinute (Sample.repeated 31) = 30 :=
  Nat.le_antisymm
    (passed_le Sample.builtins Sample.firstMinute (Sample.repeated 31) (by decide +kernel))
    (by decide +kernel)

/-- Any number of requests gets past the check when each is denied afterwards. -/
theorem not_always_passed_le : ¬ ∀ schedule : List (Action Call Unit),
    passed Sample.builtins Sample.firstMinute schedule ≤ rateLimit Sample.firstMinute.2.1 := by
  intro always
  have more : rateLimit Sample.firstMinute.2.1 <
      passed Sample.builtins Sample.firstMinute (Sample.unoperated 31) := by
    decide +kernel
  exact Nat.not_le_of_lt more (always (Sample.unoperated 31))

end Chlom.Dispatcher
