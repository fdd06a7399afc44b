import Chlom.Dail.Raises
import Chlom.Dail.Restore

/-!
# What escapes the verification of events

Verification reports every error of a check but one: a timestamp that leaves the calendar
on its way to UTC.  It raises exactly if some event passes every check in front of its
timestamp and has such a timestamp, and a restore raises exactly then something other
than a failed restore.
-/

namespace Chlom.Dail

open Python Raises Reports

variable {F : Type} [FloatFormat F] {host : Host} {now : DateTime}

/-! ## Errors that are reported -/

/-- An error that verification does not report. -/
def Uncaught (error : PyError) : Prop := error.caught = false

theorem not_uncaught_of_names {name : Str} (error : PyError) (named : Names name error) :
    ¬ Uncaught error := by
  obtain ⟨rest, rfl⟩ := named
  simp [Uncaught, PyError.caught]

theorem not_uncaught_of_isRestoreError (error : PyError) (restore : IsRestoreError error) :
    ¬ Uncaught error := by
  obtain ⟨errors, rfl⟩ := restore
  simp [Uncaught, PyError.caught]

omit [FloatFormat F] in
theorem uncaught_normalizeTimestamp {v : Value F} :
    Ends Uncaught (normalizeTimestamp host now v) ↔ Overflows host now v := by
  rw [← normalizeTimestamp_overflows]
  constructor
  · rintro ⟨error, failed, uncaught⟩
    rcases normalizeTimestamp_only host now v error failed with named | rfl
    · exact absurd uncaught (not_uncaught_of_names error named)
    · exact failed
  · exact fun failed => ⟨_, failed, rfl⟩

omit [FloatFormat F] in
/-- The hash of an event with a readable timestamp raises nothing that is not reported. -/
theorem productionEventHash_caught {fields : HashFields F} {text : Str}
    (timestamp : normalizeTimestamp host now fields.occurredAt = .ok text) :
    Only (fun error => ¬ Uncaught error) (productionEventHash host now fields) :=
  productionEventHash_only (fun _ _ error named => not_uncaught_of_names error named)
    (.of_eq_ok timestamp)

/-! ## One event -/

/-- The fields that name and describe the event can be read. -/
def DescribedAs (e : Event F) (identity : Identity) : Prop :=
  e.toValue.IsJson ∧ ∃ eventId, normalizeText e.eventId "event_id" 128 = .ok eventId ∧
    readDescription e eventId = .ok identity

/-- The payload and its text can be read, and the text has a digest. -/
def PayloadHashedAs (host : Host) (e : Event F) (hash : Str) : Prop :=
  ∃ parsed : Value F, loadJsonNoDuplicates host e.payloadJsonbText = .ok parsed ∧ parsed.IsJson ∧
    e.payload.IsJson ∧ payloadSha256FromJsonbText host e.payloadJsonbText = .ok hash

/-- The event passes every check in front of its timestamp. -/
def ReachesTimestamp (host : Host) (e : Event F) : Prop :=
  ∃ identity payloadHash requestSha256, DescribedAs e identity ∧
    PayloadHashedAs host e payloadHash ∧
    requestHash F host (identity.requestFields payloadHash) = .ok requestSha256

omit [FloatFormat F] in
theorem readDescription_only (e : Event F) (eventId : Str) :
    Only (fun error => ¬ Uncaught error) (readDescription e eventId) := by
  have text (v : Value F) (field : String) (maximum : Nat) :
      Only (fun error => ¬ Uncaught error) (normalizeText v field maximum) :=
    (normalizeText_only v field maximum).mono not_uncaught_of_names
  have optionalText (v : Value F) (field : String) (maximum : Nat) :
      Only (fun error => ¬ Uncaught error) (normalizeOptionalText v field maximum) :=
    (normalizeOptionalText_only v field maximum).mono not_uncaught_of_names
  refine (text _ _ _).bind fun eventType => (text _ _ _).bind fun entityType => ?_
  refine (text _ _ _).bind fun entityId => (optionalText _ _ _).bind fun entityVersion => ?_
  refine (optionalText _ _ _).bind fun actorDid => (optionalText _ _ _).bind fun actorRef => ?_
  exact (text _ _ _).bind fun idempotencyKey => .pure

theorem checkIdentity_stops (label : Str) (position : Nat) (eventIds idempotencyKeys : List Str)
    (e : Event F) :
    Stops (fun error => ¬ Uncaught error)
      (checkIdentity label position eventIds idempotencyKeys e) := by
  refine (Stops.ofExcept ((validateJsonValue_only _ _).mono not_uncaught_of_names)).bind fun _ => ?_
  refine Stops.report.bind fun _ => Stops.report.bind fun _ => ?_
  refine (Stops.ofExcept ((normalizeText_only _ _ _).mono not_uncaught_of_names)).bind
    fun eventId => ?_
  refine Stops.report.bind fun _ => ?_
  refine (Stops.ofExcept (readDescription_only e eventId)).bind fun identity => ?_
  exact Stops.report.bind fun _ => .pure

theorem checkIdentity_gives {label : Str} {position : Nat} {eventIds idempotencyKeys : List Str}
    {e : Event F} {identity : Identity} {s : List Str} :
    GivesAt (checkIdentity label position eventIds idempotencyKeys e) s identity ↔
      DescribedAs e identity := by
  have described : ∀ (eventId : Str) (s : List Str),
      GivesAt (do
        report (eventId ∈ eventIds) (label ++ lit " replays event_id " ++ eventId)
        let identity ← Dispatch.ofExcept (readDescription e eventId)
        report (identity.idempotencyKey ∈ idempotencyKeys)
          (label ++ lit " reuses idempotency_key " ++ identity.idempotencyKey)
        return identity : Dispatch (List Str) PyError Identity) s identity ↔
        readDescription e eventId = .ok identity := by
    intro eventId s
    refine givesAt_report_bind fun s => (givesAt_bind (C := fun other => other = identity) ?_).trans ?_
    · intro other s
      refine givesAt_report_bind fun s => ?_
      exact givesAt_pure
    · simp only [givesAt_ofExcept, exists_eq_right]
  refine (givesAt_bind (C := fun _ => ∃ eventId,
    normalizeText e.eventId "event_id" 128 = .ok eventId ∧
      readDescription e eventId = .ok identity) ?_).trans ?_
  · refine fun _ s => givesAt_report_bind fun s => givesAt_report_bind fun s => ?_
    refine (givesAt_bind described).trans ?_
    simp only [givesAt_ofExcept]
  · simp only [givesAt_ofExcept, DescribedAs]
    exact ⟨fun ⟨_, valid, rest⟩ => ⟨validateJsonValue_ok.mp valid, rest⟩,
      fun ⟨json, rest⟩ => ⟨(), validateJsonValue_ok.mpr json, rest⟩⟩

theorem payloadSha256FromJsonbText_caught (host : Host) (v : Value F) :
    Only (fun error => ¬ Uncaught error) (payloadSha256FromJsonbText host v) := by
  unfold payloadSha256FromJsonbText
  split
  · refine Only.bind ?_ fun _ => (sha256Text_only host _).mono not_uncaught_of_names
    intro error failed
    unfold asInvalidEvent at failed
    split at failed
    · cases failed
      simp [Uncaught, PyError.caught]
    · exact not_uncaught_of_isRestoreError error (loadJsonNoDuplicates_only host _ error failed)
  · exact only_error.mpr (by simp [Uncaught, PyError.caught])

theorem checkPayload_stops (label : Str) (e : Event F) :
    Stops (fun error => ¬ Uncaught error) (checkPayload host label e) := by
  refine Stops.report.bind fun _ => ?_
  refine (Stops.ofExcept ((loadJsonNoDuplicates_only host _).mono
    not_uncaught_of_isRestoreError)).bind fun parsed => ?_
  refine (Stops.ofExcept ((canonicalJson_only _).mono not_uncaught_of_names)).bind fun _ => ?_
  refine (Stops.ofExcept ((canonicalJson_only _).mono not_uncaught_of_names)).bind fun _ => ?_
  refine Stops.report.bind fun _ => ?_
  refine (Stops.ofExcept (payloadSha256FromJsonbText_caught host _)).bind fun hash => ?_
  exact Stops.report.bind fun _ => .pure

theorem checkPayload_gives {label : Str} {e : Event F} {hash : Str} {s : List Str} :
    GivesAt (checkPayload host label e) s hash ↔ PayloadHashedAs host e hash := by
  have hashed : ∀ (parsedText payloadText : Str) (s : List Str),
      GivesAt (do
        report (parsedText ≠ payloadText)
          (label ++ lit " payload_jsonb_text does not represent payload")
        let payloadHash ← Dispatch.ofExcept (payloadSha256FromJsonbText host e.payloadJsonbText)
        report (¬ e.payloadSha256.pyEq (.str payloadHash) = true)
          (label ++ lit " payload_sha256 mismatch")
        return payloadHash : Dispatch (List Str) PyError Str) s hash ↔
        payloadSha256FromJsonbText host e.payloadJsonbText = .ok hash := by
    intro parsedText payloadText s
    refine givesAt_report_bind fun s => (givesAt_bind (C := fun other => other = hash) ?_).trans ?_
    · intro other s
      refine givesAt_report_bind fun s => ?_
      exact givesAt_pure
    · simp only [givesAt_ofExcept, exists_eq_right]
  refine givesAt_report_bind fun s => ?_
  refine (givesAt_bind (C := fun parsed : Value F => parsed.IsJson ∧ e.payload.IsJson ∧
    payloadSha256FromJsonbText host e.payloadJsonbText = .ok hash) fun parsed s => ?_).trans ?_
  · refine (givesAt_bind (C := fun _ => e.payload.IsJson ∧
      payloadSha256FromJsonbText host e.payloadJsonbText = .ok hash) fun parsedText s => ?_).trans ?_
    · refine (givesAt_bind (hashed parsedText)).trans ?_
      simp only [givesAt_ofExcept, canonicalJson_ok]
      exact ⟨fun ⟨_, ⟨json, _⟩, rest⟩ => ⟨json, rest⟩, fun ⟨json, rest⟩ => ⟨_, ⟨json, rfl⟩, rest⟩⟩
    · simp only [givesAt_ofExcept, canonicalJson_ok]
      exact ⟨fun ⟨_, ⟨json, _⟩, rest⟩ => ⟨json, rest⟩, fun ⟨json, rest⟩ => ⟨_, ⟨json, rfl⟩, rest⟩⟩
  · simp only [givesAt_ofExcept, PayloadHashedAs]

/-- The last checks of an event raise something that is not reported exactly if its request
has a digest and its timestamp leaves the calendar. -/
theorem checkHashes_endsAt {label : Str} {expectedPreviousHash : Value F} {identity : Identity}
    {payloadHash : Str} {e : Event F} {s : List Str} :
    EndsAt Uncaught (checkHashes host now label expectedPreviousHash identity payloadHash e) s ↔
      (∃ requestSha256, requestHash F host (identity.requestFields payloadHash) = .ok requestSha256) ∧
        Overflows host now e.occurredAt := by
  have hashed : ∀ s : List Str, EndsAt Uncaught (do
      let expectedHash ← Dispatch.ofExcept (productionEventHash host now (identity.hashFields e))
      report (¬ e.eventHash.pyEq (.str expectedHash) = true) (label ++ lit " event_hash mismatch") :
        Dispatch (List Str) PyError Unit) s ↔
      Ends Uncaught (productionEventHash host now (identity.hashFields e)) := by
    intro s
    refine (endsAt_bind (C := fun _ => False) fun _ s => ?_).trans ?_
    · exact iff_false_intro (Stops.report.not_endsAt s)
    · simp only [endsAt_ofExcept, and_false, exists_false, or_false]
  have timed : ∀ s : List Str, EndsAt Uncaught (do
      let occurredAt ← Dispatch.ofExcept (normalizeTimestamp host now e.occurredAt)
      report (¬ e.occurredAt.pyEq (.str occurredAt) = true)
        (label ++ lit " occurred_at is not canonical UTC")
      report (¬ e.previousEventHash.pyEq expectedPreviousHash = true)
        (label ++ lit " previous_event_hash mismatch")
      let expectedHash ← Dispatch.ofExcept (productionEventHash host now (identity.hashFields e))
      report (¬ e.eventHash.pyEq (.str expectedHash) = true) (label ++ lit " event_hash mismatch") :
        Dispatch (List Str) PyError Unit) s ↔ Overflows host now e.occurredAt := by
    intro s
    refine (endsAt_bind (C := fun _ => Ends Uncaught
      (productionEventHash host now (identity.hashFields e))) fun occurredAt s => ?_).trans ?_
    · exact endsAt_report_bind fun s => endsAt_report_bind fun s => hashed s
    · rw [endsAt_ofExcept, uncaught_normalizeTimestamp]
      refine or_iff_left ?_
      rintro ⟨occurredAt, ran, ends⟩
      have timestamp : normalizeTimestamp host now (identity.hashFields e).occurredAt = .ok occurredAt :=
        givesAt_ofExcept.mp ran
      exact (productionEventHash_caught timestamp).not_ends ends
  refine (endsAt_bind (C := fun _ => Overflows host now e.occurredAt) fun _ s => ?_).trans ?_
  · exact endsAt_report_bind fun s => timed s
  · have caught : ¬ Ends Uncaught (requestHash F host (identity.requestFields payloadHash)) :=
      (requestHash_only F host _ fun _ _ error named => not_uncaught_of_names error named).not_ends
    simp only [endsAt_ofExcept, caught, false_or, givesAt_ofExcept, exists_and_right]

omit [FloatFormat F] in
theorem verifyCorrection_stops (payload : Value F) (earlierEventIds : List Str) (label : Str) :
    Stops (fun error => ¬ Uncaught error) (verifyCorrection payload earlierEventIds label) := by
  unfold verifyCorrection
  split
  · split
    · refine Stops.bind (Stops.ofExcept ?_) fun _ => ?_
      · unfold memberOf
        split
        · exact .ok
        · exact only_error.mpr (by simp [Uncaught, PyError.caught])
        · exact only_error.mpr (by simp [Uncaught, PyError.caught])
        · exact .ok
      · exact Stops.report.bind fun _ => Stops.report.bind fun _ => .report
    · exact .report
  · exact .report

/-- An event raises something that is not reported exactly if it reaches a timestamp that
leaves the calendar. -/
theorem verifyEvent_endsAt {label : Str} {position : Nat} {eventIds idempotencyKeys : List Str}
    {expectedPreviousHash : Value F} {e : Event F} {s : List Str} :
    EndsAt Uncaught
        (verifyEvent host now label position eventIds idempotencyKeys expectedPreviousHash e) s ↔
      ReachesTimestamp host e ∧ Overflows host now e.occurredAt := by
  have last : ∀ (identity : Identity) (payloadHash : Str) (s : List Str), EndsAt Uncaught (do
      checkHashes host now label expectedPreviousHash identity payloadHash e
      Dispatch.onlyIf (identity.eventType = CORRECTION_EVENT_TYPE)
        (verifyCorrection e.payload eventIds label)
      return (identity.eventId, identity.idempotencyKey) : Dispatch (List Str) PyError _) s ↔
      (∃ requestSha256, requestHash F host (identity.requestFields payloadHash) = .ok requestSha256) ∧
        Overflows host now e.occurredAt := by
    intro identity payloadHash s
    refine (endsAt_bind (C := fun _ => False) fun _ s => ?_).trans ?_
    · refine iff_false_intro (Stops.not_endsAt (Stops.bind ?_ fun _ => .pure) s)
      unfold Dispatch.onlyIf
      split
      · exact verifyCorrection_stops _ _ _
      · exact .pure
    · simp only [checkHashes_endsAt, and_false, exists_false, or_false]
  refine (endsAt_bind (C := fun identity => ∃ payloadHash, PayloadHashedAs host e payloadHash ∧
    (∃ requestSha256, requestHash F host (identity.requestFields payloadHash) = .ok requestSha256) ∧
      Overflows host now e.occurredAt) fun identity s => ?_).trans ?_
  · refine (endsAt_bind (last identity)).trans ?_
    simp only [(checkPayload_stops label e).not_endsAt, false_or, checkPayload_gives]
  · simp only [(checkIdentity_stops _ _ _ _ e).not_endsAt, false_or, checkIdentity_gives,
      ReachesTimestamp]
    constructor
    · rintro ⟨identity, described, payloadHash, hashed, ⟨requestSha256, requested⟩, overflows⟩
      exact ⟨⟨identity, payloadHash, requestSha256, described, hashed, requested⟩, overflows⟩
    · rintro ⟨⟨identity, payloadHash, requestSha256, described, hashed, requested⟩, overflows⟩
      exact ⟨identity, described, payloadHash, hashed, ⟨requestSha256, requested⟩, overflows⟩

/-! ## All events -/

/-- Keys that are all strings can be sorted. -/
def Host.Sorts (host : Host) : Prop :=
  ∀ names : List Key, (∀ name ∈ names, ∃ s, name = .str s) → ∃ text, host.sortedText names = .ok text

/-- The object is an event that reaches a timestamp that leaves the calendar. -/
def EventFault (host : Host) (now : DateTime) (entries : Entries F) : Prop :=
  ∃ e, Event.ofValue (.dict entries) = some e ∧ ReachesTimestamp host e ∧
    Overflows host now e.occurredAt

omit [FloatFormat F] in
theorem invalidFields_ok (sorts : host.Sorts) (label : Str) {entries : Entries F}
    (keys : Entries.StringKeys entries) : ∃ message, invalidFields host label entries = .ok message := by
  have literals : ∀ name ∈ EVENT_KEYS, ∃ s, name = .str s := by
    simp only [EVENT_KEYS, List.forall_mem_cons, List.not_mem_nil, false_implies, implies_true,
      and_true]
    simp
  obtain ⟨missing, missingText⟩ := sorts (EVENT_KEYS.filter fun name => name ∉ entries.map Prod.fst)
    fun name member => literals name (List.mem_of_mem_filter member)
  obtain ⟨extra, extraText⟩ := sorts ((entries.map Prod.fst).filter fun name => name ∉ EVENT_KEYS)
    fun name member => by
      obtain ⟨entry, inside, rfl⟩ := List.mem_map.mp (List.mem_of_mem_filter member)
      exact keys entry inside
  exact ⟨_, by simp only [invalidFields, missingText, extraText, bind, Except.bind]; rfl⟩

/-- One round of verification raises something exactly at a faulty event. -/
theorem verifyStep_ends (sorts : host.Sorts) {position : Nat} {pass : Pass F} {entries : Entries F}
    (keys : Entries.StringKeys entries) :
    Ends Uncaught (verifyStep host now position pass (.dict entries)) ↔
      EventFault host now entries := by
  unfold verifyStep EventFault
  dsimp only
  generalize lit "event[" ++ natText position ++ lit "]" = label
  cases event : Event.ofValue (.dict entries) with
  | none =>
      obtain ⟨message, written⟩ := invalidFields_ok sorts label keys
      rw [written]
      exact ⟨nofun, nofun⟩
  | some e =>
      have ends : EndsAt Uncaught (verifyEvent host now label position pass.eventIds
          pass.idempotencyKeys pass.expectedPreviousHash e) pass.errors ↔
          ReachesTimestamp host e ∧ Overflows host now e.occurredAt := verifyEvent_endsAt
      simp only [Option.some.injEq, exists_eq_left']
      rw [← ends, EndsAt]
      cases verifyEvent host now label position pass.eventIds pass.idempotencyKeys
        pass.expectedPreviousHash e pass.errors with
      | ok found errors => exact ⟨nofun, nofun⟩
      | error error errors =>
          by_cases caught : error.caught = true
          · simp [caught, Uncaught]
          · simp [caught, Uncaught]

theorem verifyStep_only (sorts : host.Sorts) {position : Nat} {pass : Pass F} {entries : Entries F}
    (keys : Entries.StringKeys entries) :
    Only Uncaught (verifyStep host now position pass (.dict entries)) := by
  unfold verifyStep
  dsimp only
  generalize lit "event[" ++ natText position ++ lit "]" = label
  split
  · obtain ⟨message, written⟩ := invalidFields_ok sorts label keys
    rw [written]
    exact .ok
  · split
    · exact .ok
    · split
      · exact .ok
      · next error _ _ caught => exact only_error.mpr (by simpa [Uncaught] using caught)

theorem verifyFrom_only (sorts : host.Sorts) {events : List (Entries F)}
    (keys : ∀ entries ∈ events, Entries.StringKeys entries) (position : Nat) (pass : Pass F) :
    Only Uncaught (verifyFrom host now position pass (events.map .dict)) := by
  induction events generalizing position pass with
  | nil => exact .ok
  | cons entries rest ih =>
      rw [List.map_cons, verifyFrom]
      refine (verifyStep_only sorts (keys entries List.mem_cons_self)).bind fun next => ?_
      exact ih (fun other member => keys other (List.mem_cons_of_mem _ member)) (position + 1) next

theorem verifyFrom_ends (sorts : host.Sorts) {events : List (Entries F)}
    (keys : ∀ entries ∈ events, Entries.StringKeys entries) {position : Nat} {pass : Pass F} :
    Ends Uncaught (verifyFrom host now position pass (events.map .dict)) ↔
      ∃ entries ∈ events, EventFault host now entries := by
  induction events generalizing position pass with
  | nil =>
      rw [List.map_nil, verifyFrom]
      simp
  | cons entries rest ih =>
      have here := keys entries List.mem_cons_self
      have later := fun {position : Nat} {pass : Pass F} =>
        @ih (fun other member => keys other (List.mem_cons_of_mem _ member)) position pass
      rw [List.map_cons, verifyFrom, ends_bind, verifyStep_ends sorts here,
        List.exists_mem_cons_iff]
      constructor
      · rintro (fault | ⟨next, _, ends⟩)
        · exact .inl fault
        · exact .inr (later.mp ends)
      · rintro (fault | fault)
        · exact .inl fault
        · by_cases now' : EventFault host now entries
          · exact .inl now'
          · right
            cases ran : verifyStep host now position pass (.dict entries) with
            | ok next => exact ⟨next, rfl, later.mpr fault⟩
            | error error =>
                have uncaught := verifyStep_only sorts here error ran
                exact absurd ((verifyStep_ends sorts here).mp ⟨error, ran, uncaught⟩) now'

theorem verify_only (sorts : host.Sorts) {events : List (Entries F)}
    (keys : ∀ entries ∈ events, Entries.StringKeys entries) :
    Only Uncaught (verify host now (events.map .dict)) :=
  (verifyFrom_only sorts keys 1 _).bind fun _ => .pure

/-- Verification raises something exactly if some event is faulty. -/
theorem verify_ends (sorts : host.Sorts) {events : List (Entries F)}
    (keys : ∀ entries ∈ events, Entries.StringKeys entries) :
    Ends Uncaught (verify host now (events.map .dict)) ↔
      ∃ entries ∈ events, EventFault host now entries := by
  rw [verify, ends_bind, verifyFrom_ends sorts keys]
  simp

/-! ## A restore -/

omit [FloatFormat F] in
theorem requireHash_recovered (v : Value F) (field : String) :
    Stops (fun _ => False)
      (recover (requireHash v field true) PyError.restoreErrors [] :
        Dispatch (List Str) PyError Str) := by
  refine Stops.recover fun error failed uncaught => ?_
  obtain ⟨errors, rfl⟩ := requireHash_restore_only v field error failed
  simp [PyError.restoreErrors] at uncaught

theorem hashJson_recovered (v : Value F) :
    Stops (fun _ => False)
      (recover (hashJson host v) PyError.stateErrors [] : Dispatch (List Str) PyError Str) := by
  have named : ∀ name ∈ ["value", "text"], ∀ error, Names (lit name) error →
      (PyError.stateErrors error = none → False) := by
    rintro name _ _ ⟨rest, rfl⟩
    simp [PyError.stateErrors]
  exact Stops.recover (hashJson_only host v named)

/-- The comparisons with the anchors raise what verification raises and nothing else. -/
theorem checkAnchors_endsAt {items : List (Value F)} {head state : Value F} {s : List Str} :
    EndsAt Uncaught (checkAnchors host now items head state) s ↔
      Ends Uncaught (verify host now items) := by
  refine (endsAt_bind (C := fun _ => False) fun verification s => ?_).trans ?_
  · refine iff_false_intro (Stops.not_endsAt ?_ s)
    refine Stops.reportAll.bind fun _ => ?_
    refine ((requireHash_recovered _ _).mono fun _ => False.elim).bind fun anchoredHead => ?_
    refine Stops.report.bind fun _ => ?_
    refine ((requireHash_recovered _ _).mono fun _ => False.elim).bind fun anchoredState => ?_
    exact ((hashJson_recovered _).mono fun _ => False.elim).bind fun restoredState => .report
  · simp only [endsAt_ofExcept, and_false, exists_false, or_false]

theorem checkAnchors_stops {items : List (Value F)} {head state : Value F}
    (only : Only Uncaught (verify host now items)) :
    Stops Uncaught (checkAnchors host now items head state) := by
  refine (Stops.ofExcept only).bind fun verification => Stops.reportAll.bind fun _ => ?_
  refine ((requireHash_recovered _ _).mono fun _ => False.elim).bind fun anchoredHead => ?_
  refine Stops.report.bind fun _ => ?_
  refine ((requireHash_recovered _ _).mono fun _ => False.elim).bind fun anchoredState => ?_
  exact ((hashJson_recovered _).mono fun _ => False.elim).bind fun restoredState => .report

/-- A restore raises something other than a failed restore exactly if some event is faulty. -/
theorem restoreIsolated_only_iff (sorts : host.Sorts) {events : List (Entries F)}
    (keys : ∀ entries ∈ events, Entries.StringKeys entries) (head state : Value F) :
    Only IsRestoreError (restoreIsolated host now (.list (events.map .dict)) head state) ↔
      ¬ ∃ entries ∈ events, EventFault host now entries := by
  have ends : EndsAt Uncaught (checkAnchors host now (events.map .dict) head state) [] ↔
      ∃ entries ∈ events, EventFault host now entries :=
    checkAnchors_endsAt.trans (verify_ends sorts keys)
  have stops : Stops Uncaught (checkAnchors host now (events.map .dict) head state) :=
    checkAnchors_stops (verify_only sorts keys)
  rw [← ends, restoreIsolated]
  cases ran : checkAnchors host now (events.map .dict) head state [] with
  | ok found errors =>
      have survives : ¬ EndsAt Uncaught (checkAnchors host now (events.map .dict) head state) [] := by
        rintro ⟨_, _, failed, _⟩
        rw [ran] at failed
        cases failed
      refine iff_of_true ?_ survives
      cases errors with
      | nil => exact .ok
      | cons first rest => exact only_error.mpr ⟨_, rfl⟩
  | error error errors =>
      have uncaught := stops [] error errors ran
      refine iff_of_false (fun only => ?_) fun survives => survives ⟨error, errors, ran, uncaught⟩
      exact not_uncaught_of_isRestoreError error (only error rfl) uncaught

end Chlom.Dail
