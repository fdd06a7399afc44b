import Chlom.Dail.Acceptance

/-!
# What a call appends

A call checks its arguments first and reads the ledger afterwards.  Past its checks it
does one of two things: it returns the event its key is bound to, or it appends one event
whose reading verification will find again, whatever the arguments were.
-/

namespace Chlom.Dail

open Python

variable {F : Type}

/-! ## Random identifiers -/

theorem isSpace_of_isLowerHex {c : CodePoint} (hex : isLowerHex c = true) : isSpace c = false := by
  simp only [isLowerHex, isDigit, Bool.or_eq_true, Bool.and_eq_true, decide_eq_true_eq] at hex
  simp only [isSpace, Bool.or_eq_false_iff, Bool.and_eq_false_iff, decide_eq_false_iff_not,
    beq_eq_false_iff_ne]
  omega

theorem mem_uuid4 {env : Env} {c : CodePoint} (member : c ∈ env.uuid4) :
    isLowerHex c = true ∨ c = point '-' := by
  have hyphen : lit "-" = [point '-'] := rfl
  simp only [Env.uuid4, hyphen, List.mem_append, List.mem_singleton] at member
  rcases member with (((((((hex | mark) | hex) | mark) | hex) | mark) | hex) | mark) | hex
  all_goals first
    | exact .inr mark
    | exact .inl (isLowerHex_of_mem_hexText hex)

theorem length_uuid4 (env : Env) : env.uuid4.length = 36 := by
  simp [Env.uuid4, lit_eq]

/-- A random identifier is normalized to itself. -/
theorem isNormal_uuid4 (env : Env) : IsNormal 128 env.uuid4 := by
  have solid : ∀ c ∈ env.uuid4, isSpace c = false := by
    intro c member
    rcases mem_uuid4 member with hex | rfl
    · exact isSpace_of_isLowerHex hex
    · rfl
  have length := length_uuid4 env
  refine ⟨strip_eq_self (fun c found => ?_) (fun c found => ?_), ?_, ?_⟩
  · exact solid c (List.mem_of_mem_head? found)
  · exact solid c (List.mem_of_getLast? found)
  · intro empty
    rw [empty] at length
    cases length
  · omega

theorem newEventId_ok {env : Env} {eventId : Value F} {id : Str}
    (found : newEventId env eventId = .ok id) : IsNormal 128 id := by
  unfold newEventId at found
  split at found
  · obtain rfl := Except.ok.inj found
    exact isNormal_uuid4 env
  · exact isNormal_of_normalizeText found

/-! ## Requests -/

section Requests

variable [FloatFormat F] {host : Host}

/-- What the checks of a request establish. -/
structure IsRequest (host : Host) (request : Request F) : Prop where
  eventType : IsNormal 128 request.fields.eventType
  entityType : IsNormal 128 request.fields.entityType
  entityId : IsNormal 512 request.fields.entityId
  entityVersion : OptionalNormal 128 request.fields.entityVersion
  actorDid : OptionalNormal 512 request.fields.actorDid
  actorRef : OptionalNormal 512 request.fields.actorRef
  idempotencyKey : IsNormal 256 request.idempotencyKey
  payloadJson : request.payload.IsJson
  payloadObject : isDict request.payload = true
  represents : ∃ text parsed canonical, request.jsonbText = .str text ∧
    sha256Text host text = .ok request.fields.payloadSha256 ∧
    loadJsonNoDuplicates host (.str text : Value F) = .ok parsed ∧
    canonicalJson parsed = .ok canonical ∧ canonicalJson request.payload = .ok canonical
  requestHash : requestHash F host request.fields = .ok request.requestSha256

omit [FloatFormat F] in
theorem asInvalidEvent_ok {α : Type} {outcome : Except PyError α} {value : α} :
    asInvalidEvent outcome = .ok value ↔ outcome = .ok value := by
  cases outcome with
  | ok found => rfl
  | error failure => cases failure <;> simp [asInvalidEvent]

/-- The payload of a request is the dictionary given, with its keys sorted. -/
structure Prepared (host : Host) (args : AppendArgs F) (allowReservedEventType : Bool)
    (request : Request F) : Prop where
  isRequest : IsRequest host request
  eventType : normalizeText args.eventType "event_type" 128 = .ok request.fields.eventType
  idempotencyKey :
    normalizeText args.idempotencyKey "idempotency_key" 256 = .ok request.idempotencyKey
  reserved : request.fields.eventType = CORRECTION_EVENT_TYPE → allowReservedEventType = true
  payload : ∃ entries, args.payload.val.asMapping = some entries ∧
    (Value.dict entries).IsJson ∧ request.payload = sortKeys (.dict entries)

theorem prepare_ok {args : AppendArgs F} {allowReservedEventType : Bool} {request : Request F}
    (ran : prepare host args allowReservedEventType = .ok request) :
    Prepared host args allowReservedEventType request := by
  simp only [prepare, Except.bind_ok] at ran
  obtain ⟨eventType, eventTypeEq, ran⟩ := ran
  split at ran
  · cases ran
  next allowed =>
  simp only [Except.bind_ok] at ran
  obtain ⟨entityType, entityTypeEq, entityId, entityIdEq, version, versionEq, did, didEq, reference,
    referenceEq, idempotencyKey, keyEq, ran⟩ := ran
  cases mapping : args.payload.val.asMapping with
  | none => simp [mapping] at ran
  | some entries =>
      simp only [mapping, Except.bind_ok] at ran
      obtain ⟨payload, payloadEq, jsonb, _, sha, shaEq, parsed, parsedEq, parsedText, parsedTextEq,
        payloadText, payloadTextEq, ran⟩ := ran
      split at ran
      · cases ran
      next same =>
      obtain rfl := not_not.mp same
      simp only [Except.bind_ok, Except.pure_ok] at ran
      obtain ⟨requestSha, requestEq, rfl⟩ := ran
      obtain ⟨json, _, rfl⟩ := (jsonClone_ok (args.payload.property.of_asMapping mapping)).mp payloadEq
      obtain ⟨text, rfl, hashed, _⟩ := payloadSha256FromJsonbText_ok.mp shaEq
      refine ⟨?_, eventTypeEq, keyEq, fun reserved => ?_, entries, mapping, json, rfl⟩
      · exact
          { eventType := isNormal_of_normalizeText eventTypeEq
            entityType := isNormal_of_normalizeText entityTypeEq
            entityId := isNormal_of_normalizeText entityIdEq
            entityVersion := optionalNormal_of_normalizeOptionalText versionEq
            actorDid := optionalNormal_of_normalizeOptionalText didEq
            actorRef := optionalNormal_of_normalizeOptionalText referenceEq
            idempotencyKey := isNormal_of_normalizeText keyEq
            payloadJson := sortKeys_isJson json
            payloadObject := by rw [sortKeys_dict]; rfl
            represents := ⟨text, parsed, parsedText, rfl, hashed, asInvalidEvent_ok.mp parsedEq,
              parsedTextEq, payloadTextEq⟩
            requestHash := requestEq }
      · by_contra refused
        exact allowed ⟨reserved, by simpa using refused⟩

end Requests

/-! ## Storing -/

section Storing

variable [FloatFormat F] {host : Host} {env : Env} {l l' : Ledger F}
  {eventId occurredAt : Value F} {request : Request F} {event : Event F}

/-- What a request past its checks does to the ledger. -/
inductive Stores (host : Host) (env : Env) (eventId occurredAt : Value F) (request : Request F)
    (l : Ledger F) : Event F → Ledger F → Prop where
  /-- The key is bound to the same request: its event is returned. -/
  | replay {event : Event F} {sequence : Nat}
      (bound : l.idempotency.lookup request.idempotencyKey = some (request.requestSha256, sequence))
      (found : l.events[sequence - 1]? = some event) :
      Stores host env eventId occurredAt request l event l
  /-- The key is new: one event is appended and indexed. -/
  | fresh {id occurred hash : Str} (unbound : l.idempotency.lookup request.idempotencyKey = none)
      (named : newEventId env eventId = .ok id) (new : id ∉ l.eventIds)
      (timestamp : normalizeTimestamp host env.now occurredAt = .ok occurred)
      (hashed : productionEventHash host env.now
        (buildEvent (l.events.length + 1) request id occurred hash l.previousHash).hashFields =
          .ok hash) :
      Stores host env eventId occurredAt request l
        (buildEvent (l.events.length + 1) request id occurred hash l.previousHash)
        { events := l.events ++
            [buildEvent (l.events.length + 1) request id occurred hash l.previousHash]
          idempotency := dictSet l.idempotency request.idempotencyKey
            (request.requestSha256, l.events.length + 1)
          eventIds := setAdd l.eventIds id }

omit [FloatFormat F] in
theorem store_ok :
    store host env eventId occurredAt request l = .ok event l' ↔
      Stores host env eventId occurredAt request l event l' := by
  simp only [store, Dispatch.read_bind, id]
  cases bound : l.idempotency.lookup request.idempotencyKey with
  | some binding =>
      obtain ⟨prior, sequence⟩ := binding
      simp only [Dispatch.ensure_bind_ok]
      constructor
      · rintro ⟨rfl, found⟩
        cases stored : l.events[sequence - 1]? with
        | none => simp [stored, Dispatch.okOr] at found
        | some e =>
            rw [stored] at found
            obtain ⟨rfl, rfl⟩ := EStateM.Result.ok.inj found
            exact .replay bound stored
      · intro stores
        cases stores with
        | replay same found =>
            obtain ⟨rfl, rfl⟩ := Prod.mk.inj (Option.some.inj (bound.symm.trans same))
            exact ⟨rfl, by rw [found]; rfl⟩
        | fresh unbound => cases bound.symm.trans unbound
  | none =>
      simp only [Dispatch.ofExcept_bind_ok, Dispatch.ensure_bind_ok, Dispatch.write_bind,
        Dispatch.pure_apply, EStateM.Result.ok.injEq]
      constructor
      · rintro ⟨id, named, new, occurred, timestamp, hash, hashed, rfl, rfl⟩
        exact .fresh bound named new timestamp hashed
      · intro stores
        cases stores with
        | replay same _ => cases bound.symm.trans same
        | fresh _ named new timestamp hashed =>
            exact ⟨_, named, new, _, timestamp, _, hashed, rfl, rfl⟩

/-- The text of a conflict. -/
def CONFLICT : Str := lit "idempotency key is already bound to a different request"

omit [FloatFormat F] in
theorem store_conflict {prior : Str} {sequence : Nat}
    (bound : l.idempotency.lookup request.idempotencyKey = some (prior, sequence))
    (differs : prior ≠ request.requestSha256) :
    store host env eventId occurredAt request l = .error (.idempotencyConflict CONFLICT) l := by
  simp only [store, Dispatch.read_bind, id, bound]
  exact Dispatch.ensure_bind_neg differs

instance : Dispatch.Atomic (store host env eventId occurredAt request) := by
  unfold store
  refine .check fun l => ?_
  split
  · infer_instance
  · repeat refine .check fun _ => ?_
    infer_instance

/-- What a correction asks for: an event about an earlier one, of the reserved type. -/
structure IsCorrection (l : Ledger F) (args : CorrectionArgs F) (request : AppendArgs F)
    (targetId reason : Str) : Prop where
  target : ∃ event ∈ l.events, event.eventId = .str targetId
  normal : IsNormal 2048 reason
  eventType : request.eventType = .str CORRECTION_EVENT_TYPE
  payload : request.payload = correctionPayload targetId reason args.replacementPayload
  eventId : request.eventId = args.eventId
  occurredAt : request.occurredAt = args.occurredAt

theorem correctionArgs_ok {args : CorrectionArgs F} {request : AppendArgs F}
    (passed : correctionArgs l args = .ok request) :
    ∃ targetId reason, IsCorrection l args request targetId reason := by
  simp only [correctionArgs, Except.bind_ok] at passed
  obtain ⟨targetId, _, reason, reasonEq, passed⟩ := passed
  split at passed
  · cases passed
  · split at passed
    · cases passed
    next target found =>
      obtain rfl := Except.ok.inj passed
      have named : target.eventId = .str targetId := by
        simpa using List.find?_some found
      exact ⟨targetId, reason, ⟨target, List.mem_of_find?_eq_some found, named⟩,
        isNormal_of_normalizeText reasonEq, rfl, rfl, rfl, rfl⟩

/-- A call checks its arguments and then stores. -/
theorem perform_eq (c : Call F) :
    c.perform host l = (Dispatch.ofExcept (c.validate host l) >>= fun request =>
      store host c.env c.eventId c.occurredAt request) l := by
  cases c with
  | append env args => rfl
  | appendCorrection env args =>
      simp only [Call.perform, appendCorrection, Dispatch.read_bind, id]
      cases passed : correctionArgs l args with
      | error failure =>
          have checked : (Call.appendCorrection env args).validate host l = .error failure := by
            rw [Call.validate, passed]
            rfl
          rw [checked]
          rfl
      | ok request =>
          have checked :
              (Call.appendCorrection env args).validate host l = prepare host request true := by
            rw [Call.validate, passed]
            rfl
          obtain ⟨_, _, correction⟩ := correctionArgs_ok passed
          rw [Dispatch.ofExcept_bind_of_ok rfl, checked, appendWith, correction.eventId,
            correction.occurredAt]
          rfl

/-- What the checks of a call establish. -/
theorem Call.isRequest (c : Call F) (passed : c.validate host l = .ok request) :
    IsRequest host request := by
  cases c with
  | append env args => exact (prepare_ok passed).isRequest
  | appendCorrection env args =>
      obtain ⟨_, _, prepared⟩ := Except.bind_ok.mp passed
      exact (prepare_ok prepared).isRequest

theorem call_ok {c : Call F} :
    call host l c = (l', .ok event) ↔
      ∃ request, c.validate host l = .ok request ∧
        Stores host c.env c.eventId c.occurredAt request l event l' := by
  rw [call, Dispatch.ended_ok, perform_eq, Dispatch.ofExcept_bind_ok]
  simp only [store_ok]

theorem call_conflict {c : Call F} (passed : c.validate host l = .ok request) {prior : Str}
    {sequence : Nat}
    (bound : l.idempotency.lookup request.idempotencyKey = some (prior, sequence))
    (differs : prior ≠ request.requestSha256) :
    call host l c = (l, .error (.idempotencyConflict CONFLICT)) := by
  rw [call, Dispatch.ended_error, perform_eq, Dispatch.ofExcept_bind_of_ok passed]
  exact store_conflict bound differs

/-- A call that raises leaves the ledger as it was. -/
theorem call_error {c : Call F} {failure : PyError}
    (failed : call host l c = (l', .error failure)) : l' = l := by
  rw [call, Dispatch.ended_error, perform_eq] at failed
  exact Dispatch.Atomic.unchanged failed

end Storing

/-! ## The reading of a new event -/

section Reading

variable [FloatFormat F] {host : Host}

/-- The identity that verification reads off a new event. -/
def Request.identity (request : Request F) (eventId : Str) : Identity where
  eventId := eventId
  eventType := request.fields.eventType
  entityType := request.fields.entityType
  entityId := request.fields.entityId
  entityVersion := request.fields.entityVersion
  actorDid := request.fields.actorDid
  actorRef := request.fields.actorRef
  idempotencyKey := request.idempotencyKey

/-- The reading of a new event. -/
def Request.reading (request : Request F) (jsonbText eventId occurredAt eventHash : Str) :
    Reading where
  identity := request.identity eventId
  jsonbText := jsonbText
  payloadSha256 := request.fields.payloadSha256
  requestSha256 := request.requestSha256
  occurredAt := occurredAt
  eventHash := eventHash

omit [FloatFormat F] in
/-- A hash does not depend on the time at which it is computed, unless the event has no
timestamp of its own. -/
theorem productionEventHash_congr {now later : DateTime} {fields : HashFields F}
    (same : normalizeTimestamp host now fields.occurredAt =
      normalizeTimestamp host later fields.occurredAt) :
    productionEventHash host now fields = productionEventHash host later fields := by
  simp only [productionEventHash, eventHashText, same]

theorem IsRequest.readsIdentity {request : Request F} (isRequest : IsRequest host request)
    {id occurred hash : Str} {position : Nat} {previous : Value F} (normal : IsNormal 128 id) :
    ReadsIdentity (buildEvent position request id occurred hash previous)
      (request.identity id) where
  eventId := normal.normalizeText _
  eventType := isRequest.eventType.normalizeText _
  entityType := isRequest.entityType.normalizeText _
  entityId := isRequest.entityId.normalizeText _
  entityVersion := isRequest.entityVersion.normalizeOptionalText _
  actorDid := isRequest.actorDid.normalizeOptionalText _
  actorRef := isRequest.actorRef.normalizeOptionalText _
  idempotencyKey := isRequest.idempotencyKey.normalizeText _

/-- A new event is JSON. -/
theorem IsRequest.isJson {request : Request F} (isRequest : IsRequest host request)
    {id occurred hash : Str} {position : Nat} {previous : Option Str} :
    (buildEvent position request id occurred hash (optional previous)).toValue.IsJson := by
  obtain ⟨text, _, _, stored, _⟩ := isRequest.represents
  have keys : Entries.StringKeys
      (buildEvent position request id occurred hash (optional previous)).entries := by
    simp [Event.entries, Entries.StringKeys]
  refine .dict keys ?_
  simp [Event.entries, buildEvent, stored, isRequest.payloadJson, optional_isJson,
    Value.IsJson.str, Value.IsJson.int]

/-- Verification reads a new event at any later time. -/
theorem IsRequest.reads {request : Request F} (isRequest : IsRequest host request) {text : Str}
    (stored : request.jsonbText = .str text) {env : Env} {occurredAt : Value F}
    {id occurred hash : Str} {position : Nat} {previous : Option Str} (normal : IsNormal 128 id)
    (timestamp : normalizeTimestamp host env.now occurredAt = .ok occurred)
    (hashed : productionEventHash host env.now
      (buildEvent position request id occurred hash (optional previous)).hashFields = .ok hash)
    (later : DateTime) :
    Reads host later position previous
      (buildEvent position request id occurred hash (optional previous))
      (request.reading text id occurred hash) := by
  obtain ⟨_, parsed, canonical, same, digest, loaded, parsedText, payloadText⟩ :=
    isRequest.represents
  obtain rfl := Value.str.inj (same.symm.trans stored)
  have again := normalizeTimestamp_again timestamp later
  exact
    { json := isRequest.isJson
      schemaVersion := rfl
      sequence := rfl
      identity := isRequest.readsIdentity normal
      represents := ⟨stored, isRequest.payloadObject, parsed, canonical, loaded, parsedText,
        payloadText⟩
      payloadSha256 := rfl
      payloadHash := digest
      requestSha256 := rfl
      requestHash := isRequest.requestHash
      occurredAt := rfl
      timestamp := again
      previous := rfl
      eventHash := rfl
      hash :=
        (productionEventHash_congr
          (again.trans (normalizeTimestamp_again timestamp env.now).symm)).trans hashed }

end Reading

end Chlom.Dail
