import Chlom.Dail.Checks
import Chlom.Dail.Verification

/-!
# What an accepted list of events is

Verification reports nothing exactly if every event can be read: its fields normalize,
its hashes are the recomputed ones, it names its predecessor, and neither its
identifier nor its key came before.  The readings of the events are a typed log, on
which everything that follows from acceptance is stated.
-/

namespace Chlom.Dail

open Python Reports

variable {F : Type}

/-! ## Reading one event -/

/-- The fields that name and describe an event normalize to an identity. -/
structure ReadsIdentity (e : Event F) (identity : Identity) : Prop where
  eventId : normalizeText e.eventId "event_id" 128 = .ok identity.eventId
  eventType : normalizeText e.eventType "event_type" 128 = .ok identity.eventType
  entityType : normalizeText e.entityType "entity_type" 128 = .ok identity.entityType
  entityId : normalizeText e.entityId "entity_id" 512 = .ok identity.entityId
  entityVersion :
    normalizeOptionalText e.entityVersion "entity_version" 128 = .ok identity.entityVersion
  actorDid : normalizeOptionalText e.actorDid "actor_did" 512 = .ok identity.actorDid
  actorRef : normalizeOptionalText e.actorRef "actor_ref" 512 = .ok identity.actorRef
  idempotencyKey :
    normalizeText e.idempotencyKey "idempotency_key" 256 = .ok identity.idempotencyKey

/-- What verification reads off an event. -/
structure Reading where
  identity : Identity
  jsonbText : Str
  payloadSha256 : Str
  requestSha256 : Str
  occurredAt : Str
  eventHash : Str

variable [FloatFormat F]

/-- The text stored with an event stands for its payload. -/
structure Represents (host : Host) (e : Event F) (text : Str) : Prop where
  stored : e.payloadJsonbText = .str text
  object : isDict e.payload = true
  same : ∃ parsed canonical, loadJsonNoDuplicates host (.str text : Value F) = .ok parsed ∧
    canonicalJson parsed = .ok canonical ∧ canonicalJson e.payload = .ok canonical

/-- An event at a position behind the hash of its predecessor has the reading. -/
structure Reads (host : Host) (now : DateTime) (position : Nat) (previous : Option Str)
    (e : Event F) (r : Reading) : Prop where
  json : e.toValue.IsJson
  schemaVersion : e.schemaVersion = .str SCHEMA_VERSION
  sequence : e.sequence = .int position
  identity : ReadsIdentity e r.identity
  represents : Represents host e r.jsonbText
  payloadSha256 : e.payloadSha256 = .str r.payloadSha256
  payloadHash : sha256Text host r.jsonbText = .ok r.payloadSha256
  requestSha256 : e.requestSha256 = .str r.requestSha256
  requestHash : requestHash F host (r.identity.requestFields r.payloadSha256) = .ok r.requestSha256
  occurredAt : e.occurredAt = .str r.occurredAt
  timestamp : normalizeTimestamp host now e.occurredAt = .ok r.occurredAt
  previous : e.previousEventHash = optional previous
  eventHash : e.eventHash = .str r.eventHash
  hash : productionEventHash host now (r.identity.hashFields e) = .ok r.eventHash

/-- The payload of a correction is of the right shape and names an earlier event. -/
def CorrectionShape (payload : Value F) (earlierEventIds : List Str) : Prop :=
  ∃ entries, payload = .dict entries ∧ hasKeys entries CORRECTION_KEYS ∧
    (∃ target ∈ earlierEventIds, getItem entries "target_event_id" = .str target) ∧
    isNonblank (getItem entries "reason") = true ∧
    isDict (getItem entries "replacement_payload") = true

/-! ## The checks find nothing -/

section Silent

variable {host : Host} {now : DateTime} {label : Str} {position : Nat} {ids keys : List Str}
  {e : Event F} {identity : Identity}

omit [FloatFormat F] in
theorem isNumber_iff {v : Value F} {number : Nat} : isNumber v number = true ↔ v = .int number := by
  cases v <;> simp [isNumber]

omit [FloatFormat F] in
theorem readDescription_ok {eventId : Str}
    (named : normalizeText e.eventId "event_id" 128 = .ok eventId) :
    readDescription e eventId = .ok identity ↔
      ReadsIdentity e identity ∧ identity.eventId = eventId := by
  simp only [readDescription, Except.bind_ok, Except.pure_ok]
  constructor
  · rintro ⟨eventType, eventTypeEq, entityType, entityTypeEq, entityId, entityIdEq, version,
      versionEq, did, didEq, reference, referenceEq, idempotencyKey, keyEq, rfl⟩
    exact ⟨⟨named, eventTypeEq, entityTypeEq, entityIdEq, versionEq, didEq, referenceEq, keyEq⟩,
      rfl⟩
  · rintro ⟨reads, rfl⟩
    exact ⟨_, reads.eventType, _, reads.entityType, _, reads.entityId, _, reads.entityVersion, _,
      reads.actorDid, _, reads.actorRef, _, reads.idempotencyKey, rfl⟩

theorem silent_checkIdentity :
    Silent (checkIdentity label position ids keys e) identity ↔
      e.toValue.IsJson ∧ e.schemaVersion = .str SCHEMA_VERSION ∧ e.sequence = .int position ∧
        ReadsIdentity e identity ∧ identity.eventId ∉ ids ∧ identity.idempotencyKey ∉ keys := by
  simp only [checkIdentity, silent_bind, silent_report, silent_ofExcept, silent_pure,
    Value.pyEq_str, isNumber_iff, not_not]
  constructor
  · rintro ⟨_, valid, _, schema, _, sequence, eventId, named, _, fresh, _, described, _, keyFresh,
      rfl⟩
    obtain ⟨reads, rfl⟩ := (readDescription_ok named).mp described
    exact ⟨validateJsonValue_ok.mp valid, schema, sequence, reads, fresh, keyFresh⟩
  · rintro ⟨json, schema, sequence, reads, fresh, keyFresh⟩
    exact ⟨(), validateJsonValue_ok.mpr json, (), schema, (), sequence, _, reads.eventId, (), fresh,
      identity, (readDescription_ok reads.eventId).mpr ⟨reads, rfl⟩, (), keyFresh, rfl⟩

theorem payloadSha256FromJsonbText_ok {v : Value F} {hash : Str} :
    payloadSha256FromJsonbText host v = .ok hash ↔
      ∃ text, v = .str text ∧ sha256Text host text = .ok hash ∧
        ∃ parsed, loadJsonNoDuplicates host (.str text : Value F) = .ok parsed := by
  cases v with
  | str text =>
      simp only [payloadSha256FromJsonbText, Except.bind_ok, Value.str.injEq]
      constructor
      · rintro ⟨parsed, loaded, hashed⟩
        refine ⟨text, rfl, hashed, parsed, ?_⟩
        cases outcome : loadJsonNoDuplicates host (.str text : Value F) with
        | ok found => rwa [outcome] at loaded
        | error failure => cases failure <;> simp [outcome, asInvalidEvent] at loaded
      · rintro ⟨_, rfl, hashed, parsed, loaded⟩
        exact ⟨parsed, by rw [loaded]; rfl, hashed⟩
  | _ => simp [payloadSha256FromJsonbText]

theorem silent_checkPayload {hash : Str} :
    Silent (checkPayload host label e) hash ↔
      ∃ text, Represents host e text ∧ sha256Text host text = .ok hash ∧
        e.payloadSha256 = .str hash := by
  simp only [checkPayload, silent_bind, silent_report, silent_ofExcept, silent_pure,
    Value.pyEq_str, not_not, payloadSha256FromJsonbText_ok]
  constructor
  · rintro ⟨_, object, parsed, loaded, canonical, parsedEq, payload, payloadEq, _, same, hash, ⟨text,
      stored, hashed, _⟩, _, shaEq, rfl⟩
    obtain rfl : canonical = payload := same
    rw [stored] at loaded
    exact ⟨text, ⟨stored, object, parsed, canonical, loaded, parsedEq, payloadEq⟩, hashed, shaEq⟩
  · rintro ⟨text, ⟨stored, object, parsed, canonical, loaded, parsedEq, payloadEq⟩, hashed, shaEq⟩
    exact ⟨(), object, parsed, by rw [stored, loaded], canonical, parsedEq, canonical, payloadEq, (),
      rfl, hash, ⟨text, stored, hashed, parsed, loaded⟩, (), shaEq, rfl⟩

theorem pyEq_optional {v : Value F} {o : Option Str} :
    v.pyEq (optional o) = true ↔ v = optional o := by
  cases o with
  | none => exact Value.pyEq_none
  | some s => exact Value.pyEq_str

theorem silent_checkHashes {previous : Option Str} {payloadHash : Str} {result : Unit} :
    Silent (checkHashes host now label (optional previous) identity payloadHash e) result ↔
      (∃ request, requestHash F host (identity.requestFields payloadHash) = .ok request ∧
        e.requestSha256 = .str request) ∧
      (∃ occurredAt, normalizeTimestamp host now e.occurredAt = .ok occurredAt ∧
        e.occurredAt = .str occurredAt) ∧
      e.previousEventHash = optional previous ∧
      ∃ hash, productionEventHash host now (identity.hashFields e) = .ok hash ∧
        e.eventHash = .str hash := by
  simp only [checkHashes, silent_bind, silent_report, silent_ofExcept, Value.pyEq_str,
    pyEq_optional, not_not]
  constructor
  · rintro ⟨request, requestEq, _, stored, occurred, occurredEq, _, canonical, _, linked, hash,
      hashEq, hashStored⟩
    exact ⟨⟨request, requestEq, stored⟩, ⟨occurred, occurredEq, canonical⟩, linked, hash, hashEq,
      hashStored⟩
  · rintro ⟨⟨request, requestEq, stored⟩, ⟨occurred, occurredEq, canonical⟩, linked, hash, hashEq,
      hashStored⟩
    exact ⟨request, requestEq, (), stored, occurred, occurredEq, (), canonical, (), linked, hash,
      hashEq, hashStored⟩

omit [FloatFormat F] in
theorem memberOf_true {v : Value F} {strings : List Str} :
    memberOf v strings = .ok true ↔ ∃ s ∈ strings, v = .str s := by
  cases v <;> simp [memberOf]

omit [FloatFormat F] in
theorem silent_verifyCorrection {payload : Value F} {result : Unit} :
    Silent (verifyCorrection payload ids label) result ↔ CorrectionShape payload ids := by
  cases payload with
  | dict entries =>
      by_cases shaped : hasKeys entries CORRECTION_KEYS
      · simp only [verifyCorrection, shaped, if_true, silent_bind, silent_report, silent_ofExcept,
          not_not, CorrectionShape, Value.dict.injEq, exists_eq_left', true_and]
        constructor
        · rintro ⟨earlier, found, _, isEarlier, _, reason, replacement⟩
          rw [Bool.not_eq_false] at isEarlier
          subst isEarlier
          exact ⟨memberOf_true.mp found, reason, replacement⟩
        · rintro ⟨found, reason, replacement⟩
          exact ⟨true, memberOf_true.mpr found, (), by simp, (), reason, replacement⟩
      · simp [verifyCorrection, shaped, CorrectionShape]
  | _ => simp [verifyCorrection, CorrectionShape]

/-! ### No message is taken back -/

instance : Grows (checkIdentity label position ids keys e) := by
  unfold checkIdentity
  repeat refine .seq inferInstance fun _ => ?_
  infer_instance

instance : Grows (checkPayload host label e) := by
  unfold checkPayload
  infer_instance

instance {previous : Value F} {payloadHash : Str} :
    Grows (checkHashes host now label previous identity payloadHash e) := by
  unfold checkHashes
  infer_instance

omit [FloatFormat F] in
instance {payload : Value F} : Grows (verifyCorrection payload ids label) := by
  unfold verifyCorrection
  split
  · split <;> infer_instance
  · infer_instance

instance {previous : Value F} : Grows (verifyEvent host now label position ids keys previous e) := by
  unfold verifyEvent
  infer_instance

/-- An event is verified silently exactly if it has a reading and brings a new
identifier and a new key. -/
theorem silent_verifyEvent {previous : Option Str} {id idempotencyKey : Str} :
    Silent (verifyEvent host now label position ids keys (optional previous) e)
        (id, idempotencyKey) ↔
      ∃ r, Reads host now position previous e r ∧ r.identity.eventId = id ∧
        r.identity.idempotencyKey = idempotencyKey ∧ id ∉ ids ∧ idempotencyKey ∉ keys ∧
        (r.identity.eventType = CORRECTION_EVENT_TYPE → CorrectionShape e.payload ids) := by
  simp only [verifyEvent, silent_bind, silent_checkIdentity, silent_checkPayload,
    silent_checkHashes, silent_onlyIf, silent_verifyCorrection, silent_pure, Prod.mk.injEq]
  constructor
  · rintro ⟨identity, ⟨json, schema, sequence, reads, fresh, keyFresh⟩, payloadHash, ⟨text,
      represents, hashed, shaEq⟩, _, ⟨⟨request, requestEq, requestStored⟩, ⟨occurred, occurredEq,
      canonical⟩, linked, hash, hashEq, hashStored⟩, _, correction, rfl, rfl⟩
    exact ⟨⟨identity, text, payloadHash, request, occurred, hash⟩, ⟨json, schema, sequence, reads,
      represents, shaEq, hashed, requestStored, requestEq, canonical, occurredEq, linked,
      hashStored, hashEq⟩, rfl, rfl, fresh, keyFresh, correction⟩
  · rintro ⟨r, reads, rfl, rfl, fresh, keyFresh, correction⟩
    exact ⟨r.identity, ⟨reads.json, reads.schemaVersion, reads.sequence, reads.identity, fresh,
      keyFresh⟩, r.payloadSha256, ⟨r.jsonbText, reads.represents, reads.payloadHash,
      reads.payloadSha256⟩, (), ⟨⟨r.requestSha256, reads.requestHash, reads.requestSha256⟩,
      ⟨r.occurredAt, reads.timestamp, reads.occurredAt⟩, reads.previous, r.eventHash, reads.hash,
      reads.eventHash⟩, (), correction, rfl, rfl⟩

end Silent

/-! ## Reading a list of events -/

/-- The identifiers of a log. -/
def eventIdsOf (readings : List Reading) : List Str := readings.map fun r => r.identity.eventId

/-- The idempotency keys of a log. -/
def keysOf (readings : List Reading) : List Str := readings.map fun r => r.identity.idempotencyKey

/-- The hash that the event after a log names. -/
def lastHash (readings : List Reading) : Option Str := readings.getLast?.map Reading.eventHash

/-- The events have the readings, in order; `shape` is what is asked of a correction's
payload behind the earlier identifiers. -/
inductive Verified (host : Host) (now : DateTime) (shape : Value F → List Str → Prop) :
    List (Value F) → List Reading → Prop where
  | nil : Verified host now shape [] []
  | snoc {events : List (Value F)} {readings : List Reading} {value : Value F} {e : Event F}
      {r : Reading} (before : Verified host now shape events readings)
      (event : Event.ofValue value = some e)
      (reads : Reads host now (events.length + 1) (lastHash readings) e r)
      (fresh : r.identity.eventId ∉ eventIdsOf readings)
      (keyFresh : r.identity.idempotencyKey ∉ keysOf readings)
      (correction : r.identity.eventType = CORRECTION_EVENT_TYPE →
        shape e.payload (eventIdsOf readings)) :
      Verified host now shape (events ++ [value]) (readings ++ [r])

@[simp]
theorem eventIdsOf_append_singleton (readings : List Reading) (r : Reading) :
    eventIdsOf (readings ++ [r]) = eventIdsOf readings ++ [r.identity.eventId] := by
  simp [eventIdsOf]

@[simp]
theorem keysOf_append_singleton (readings : List Reading) (r : Reading) :
    keysOf (readings ++ [r]) = keysOf readings ++ [r.identity.idempotencyKey] := by
  simp [keysOf]

@[simp]
theorem lastHash_append_singleton (readings : List Reading) (r : Reading) :
    lastHash (readings ++ [r]) = some r.eventHash := by
  simp [lastHash]

theorem setAdd_of_not_mem {members : List Str} {member : Str} (fresh : member ∉ members) :
    setAdd members member = members ++ [member] :=
  if_neg fresh

section Lists

variable {host : Host} {now : DateTime} {value : Value F}

/-- What verification carries behind a list without errors. -/
def cleanPass (readings : List Reading) : Pass F :=
  ⟨[], eventIdsOf readings, keysOf readings, optional (lastHash readings)⟩

/-- One round over an event is clean exactly if the checks find nothing. -/
theorem verifyStep_event {position : Nat} {readings : List Reading} {after : Pass F} {e : Event F}
    {entries : Entries F} (found : Event.ofValue (.dict entries) = some e)
    (clean : after.errors = []) :
    verifyStep host now position (cleanPass readings) (.dict entries) = .ok after ↔
      ∃ id idempotencyKey,
        Silent (verifyEvent host now (lit "event[" ++ natText position ++ lit "]") position
          (eventIdsOf readings) (keysOf readings) (optional (lastHash readings)) e)
          (id, idempotencyKey) ∧
        after = ⟨[], setAdd (eventIdsOf readings) id, setAdd (keysOf readings) idempotencyKey,
          e.eventHash⟩ := by
  simp only [verifyStep, found, cleanPass, Silent]
  cases verifyEvent host now (lit "event[" ++ natText position ++ lit "]") position
      (eventIdsOf readings) (keysOf readings) (optional (lastHash readings)) e [] with
  | ok pair errors =>
      obtain ⟨id, idempotencyKey⟩ := pair
      simp only [Except.ok.injEq, EStateM.Result.ok.injEq, Prod.mk.injEq]
      constructor
      · rintro rfl
        exact ⟨id, idempotencyKey, ⟨⟨rfl, rfl⟩, clean⟩, by rw [show errors = [] from clean]⟩
      · rintro ⟨_, _, ⟨⟨rfl, rfl⟩, rfl⟩, rfl⟩
        rfl
  | error error errors =>
      simp only [reduceCtorEq, false_and, exists_false, iff_false]
      split
      · intro equal
        obtain rfl := Except.ok.inj equal
        simp at clean
      · intro equal
        cases equal

/-- One round is clean exactly if the event can be read. -/
theorem verifyStep_clean {position : Nat} {readings : List Reading} {after : Pass F}
    (clean : after.errors = []) :
    verifyStep host now position (cleanPass readings) value = .ok after ↔
      ∃ e r, Event.ofValue value = some e ∧ Reads host now position (lastHash readings) e r ∧
        r.identity.eventId ∉ eventIdsOf readings ∧ r.identity.idempotencyKey ∉ keysOf readings ∧
        (r.identity.eventType = CORRECTION_EVENT_TYPE →
          CorrectionShape e.payload (eventIdsOf readings)) ∧
        after = cleanPass (readings ++ [r]) := by
  cases value with
  | dict entries =>
      cases found : Event.ofValue (.dict entries) with
      | none =>
          simp only [verifyStep, found, Except.bind_ok, Except.pure_ok]
          constructor
          · rintro ⟨message, _, rfl⟩
            simp [cleanPass] at clean
          · rintro ⟨_, _, absent, _⟩
            cases absent
      | some e =>
          have next : ∀ {r : Reading}, Reads host now position (lastHash readings) e r →
              r.identity.eventId ∉ eventIdsOf readings →
              r.identity.idempotencyKey ∉ keysOf readings →
              (⟨[], setAdd (eventIdsOf readings) r.identity.eventId,
                setAdd (keysOf readings) r.identity.idempotencyKey, e.eventHash⟩ : Pass F) =
                cleanPass (readings ++ [r]) := by
            intro r reads fresh keyFresh
            simp [cleanPass, setAdd_of_not_mem fresh, setAdd_of_not_mem keyFresh, reads.eventHash,
              optional]
          rw [verifyStep_event found clean]
          constructor
          · rintro ⟨_, _, silent, rfl⟩
            obtain ⟨r, reads, rfl, rfl, fresh, keyFresh, correction⟩ := silent_verifyEvent.mp silent
            exact ⟨e, r, rfl, reads, fresh, keyFresh, correction, next reads fresh keyFresh⟩
          · rintro ⟨_, r, same, reads, fresh, keyFresh, correction, rfl⟩
            obtain rfl := Option.some.inj same
            exact ⟨_, _, silent_verifyEvent.mpr ⟨r, reads, rfl, rfl, fresh, keyFresh, correction⟩,
              (next reads fresh keyFresh).symm⟩
  | _ =>
      simp only [verifyStep, Except.ok.injEq, Event.ofValue, reduceCtorEq, false_and, exists_false,
        iff_false]
      rintro rfl
      simp at clean

/-- Errors are never taken back. -/
theorem verifyStep_errors {position : Nat} {pass after : Pass F}
    (stepped : verifyStep host now position pass value = .ok after) (clean : after.errors = []) :
    pass.errors = [] := by
  cases value with
  | dict entries =>
      cases found : Event.ofValue (.dict entries) with
      | none =>
          simp only [verifyStep, found, Except.bind_ok, Except.pure_ok] at stepped
          obtain ⟨message, _, rfl⟩ := stepped
          simp at clean
      | some e =>
          simp only [verifyStep, found] at stepped
          split at stepped
          · next errors ran =>
              obtain rfl := Except.ok.inj stepped
              have grows := Grows.grows ran
              rw [show errors = [] from clean] at grows
              exact List.eq_nil_of_length_eq_zero (Nat.le_zero.mp grows)
          · split at stepped
            · obtain rfl := Except.ok.inj stepped
              simp at clean
            · cases stepped
  | _ =>
      obtain rfl := Except.ok.inj stepped
      simp at clean

theorem verifyFrom_append_singleton {position : Nat} {pass : Pass F} (events : List (Value F)) :
    verifyFrom host now position pass (events ++ [value]) =
      (verifyFrom host now position pass events >>= fun after =>
        verifyStep host now (position + events.length) after value) := by
  induction events generalizing position pass with
  | nil =>
      simp only [List.nil_append, verifyFrom, List.length_nil, Nat.add_zero, bind, Except.bind]
      cases verifyStep host now position pass value <;> rfl
  | cons first rest ih =>
      have place : position + 1 + rest.length = position + (first :: rest).length := by
        rw [List.length_cons]
        omega
      simp only [List.cons_append, verifyFrom, bind_assoc, ih, place]

/-- The whole list is clean exactly if every event can be read in turn. -/
theorem verifyFrom_clean {events : List (Value F)} {after : Pass F} (clean : after.errors = []) :
    verifyFrom host now 1 (cleanPass []) events = .ok after ↔
      ∃ readings, Verified host now CorrectionShape events readings ∧ after = cleanPass readings := by
  induction events using List.reverseRecOn generalizing after with
  | nil =>
      constructor
      · intro ran
        obtain rfl := Except.ok.inj ran
        exact ⟨[], .nil, rfl⟩
      · rintro ⟨readings, verified, rfl⟩
        generalize none : ([] : List (Value F)) = events at verified
        cases verified with
        | nil => rfl
        | snoc => simp at none
  | append_singleton events value ih =>
      rw [verifyFrom_append_singleton, Except.bind_ok]
      constructor
      · rintro ⟨middle, ran, stepped⟩
        have middleClean := verifyStep_errors stepped clean
        obtain ⟨readings, verified, rfl⟩ := (ih middleClean).mp ran
        obtain ⟨e, r, event, reads, fresh, keyFresh, correction, rfl⟩ :=
          (verifyStep_clean clean).mp stepped
        rw [Nat.add_comm] at reads
        exact ⟨readings ++ [r], .snoc verified event reads fresh keyFresh correction, rfl⟩
      · rintro ⟨all, verified, rfl⟩
        generalize split : events ++ [value] = whole at verified
        cases verified with
        | nil => simp at split
        | snoc before event reads fresh keyFresh correction =>
            obtain ⟨rfl, same⟩ := List.append_inj' split rfl
            obtain rfl := List.singleton_injective same
            refine ⟨_, (ih rfl).mpr ⟨_, before, rfl⟩, (verifyStep_clean clean).mpr ?_⟩
            rw [Nat.add_comm 1]
            exact ⟨_, _, event, reads, fresh, keyFresh, correction, rfl⟩

/-- The hash of the last event, or zeros. -/
def headOf (readings : List Reading) : Str := (lastHash readings).getD ZERO_HASH

/-- What verification reports of a list in which nothing is wrong. -/
def cleanReport (readings : List Reading) : VerificationReport F where
  ok := true
  eventCount := readings.length
  headHash := .str (headOf readings)
  errors := []

theorem Verified.length {shape : Value F → List Str → Prop} {events : List (Value F)}
    {readings : List Reading} (verified : Verified host now shape events readings) :
    events.length = readings.length := by
  induction verified with
  | nil => rfl
  | snoc before event reads fresh keyFresh correction ih => simp [ih]

/-- The hash an event carries is the digest of its texts. -/
theorem Reads.isHash {position : Nat} {previous : Option Str} {e : Event F} {r : Reading}
    (reads : Reads host now position previous e r) : IsHash r.eventHash := by
  obtain ⟨_, _, hashed⟩ := productionEventHash_ok.mp reads.hash
  exact isHash_of_sha256Text hashed

theorem Verified.lastHash_isHash {shape : Value F → List Str → Prop} {events : List (Value F)}
    {readings : List Reading} (verified : Verified host now shape events readings) {hash : Str}
    (last : lastHash readings = some hash) : IsHash hash := by
  cases verified with
  | nil => cases last
  | snoc before event reads fresh keyFresh correction =>
      rw [lastHash_append_singleton] at last
      obtain rfl := Option.some.inj last
      exact reads.isHash

theorem Verified.headHash {shape : Value F → List Str → Prop} {events : List (Value F)}
    {readings : List Reading} (verified : Verified host now shape events readings) :
    (if (cleanPass readings : Pass F).expectedPreviousHash.truthy then
      (cleanPass readings : Pass F).expectedPreviousHash else .str ZERO_HASH) =
      .str (headOf readings) := by
  cases last : lastHash readings with
  | none => simp [cleanPass, headOf, last, optional, Value.truthy]
  | some hash =>
      have nonempty : hash ≠ [] := by
        rintro rfl
        exact absurd (verified.lastHash_isHash last).1 (by decide)
      simp [cleanPass, headOf, last, optional, Value.truthy, nonempty]

/-- Verification accepts a list exactly if every event can be read in turn. -/
theorem verify_ok {events : List (Value F)} {report : VerificationReport F} :
    (verify host now events = .ok report ∧ report.ok = true) ↔
      ∃ readings, Verified host now CorrectionShape events readings ∧
        report = cleanReport readings := by
  simp only [verify, Except.bind_ok, Except.pure_ok]
  constructor
  · rintro ⟨⟨after, ran, rfl⟩, ok⟩
    have clean : after.errors = [] := List.isEmpty_iff.mp ok
    obtain ⟨readings, verified, rfl⟩ := (verifyFrom_clean clean).mp ran
    refine ⟨readings, verified, ?_⟩
    rw [cleanReport, verified.headHash, verified.length]
    rfl
  · rintro ⟨readings, verified, rfl⟩
    refine ⟨⟨cleanPass readings, (verifyFrom_clean rfl).mpr ⟨readings, verified, rfl⟩, ?_⟩, rfl⟩
    rw [cleanReport, verified.headHash, verified.length]
    rfl

end Lists

/-- The head hash of a report without errors. -/
def acceptedHead (outcome : Except PyError (VerificationReport F)) : Option Str :=
  match outcome with
  | .ok ⟨true, _, .str head, _⟩ => some head
  | _ => none

omit [FloatFormat F] in
theorem acceptedHead_eq_some {outcome : Except PyError (VerificationReport F)} {head : Str}
    (accepted : acceptedHead outcome = some head) :
    ∃ report, outcome = .ok report ∧ report.ok = true ∧ report.headHash = .str head := by
  unfold acceptedHead at accepted
  split at accepted
  · obtain rfl := Option.some.inj accepted
    exact ⟨_, rfl, rfl, rfl⟩
  · cases accepted

end Chlom.Dail
