import Chlom.Dail.Runtime
import Chlom.Library.Dispatch
import Chlom.Library.Runs

/-!
# The DAIL ledger

Events are dictionaries with a fixed set of keys.  The ledger keeps them in order,
next to the set of their identifiers and the requests their idempotency keys are
bound to, and a call that appends writes all three only after its last check.
-/

namespace Chlom.Dail

open Python

variable {F : Type}

/-! ## Events -/

/-- The fields of an event. -/
structure Event (F : Type) where
  schemaVersion : Value F
  sequence : Value F
  eventId : Value F
  eventType : Value F
  entityType : Value F
  entityId : Value F
  entityVersion : Value F
  actorDid : Value F
  actorRef : Value F
  payload : Value F
  payloadJsonbText : Value F
  payloadSha256 : Value F
  idempotencyKey : Value F
  requestSha256 : Value F
  previousEventHash : Value F
  eventHash : Value F
  occurredAt : Value F

/-- `_EVENT_KEYS`. -/
def EVENT_KEYS : List Key :=
  [key "schema_version", key "sequence", key "event_id", key "event_type", key "entity_type",
    key "entity_id", key "entity_version", key "actor_did", key "actor_ref", key "payload",
    key "payload_jsonb_text", key "payload_sha256", key "idempotency_key", key "request_sha256",
    key "previous_event_hash", key "event_hash", key "occurred_at"]

namespace Event

/-- The items of an event's dictionary. -/
def entries (e : Event F) : Entries F :=
  [(key "schema_version", e.schemaVersion), (key "sequence", e.sequence),
    (key "event_id", e.eventId), (key "event_type", e.eventType),
    (key "entity_type", e.entityType), (key "entity_id", e.entityId),
    (key "entity_version", e.entityVersion), (key "actor_did", e.actorDid),
    (key "actor_ref", e.actorRef), (key "payload", e.payload),
    (key "payload_jsonb_text", e.payloadJsonbText), (key "payload_sha256", e.payloadSha256),
    (key "idempotency_key", e.idempotencyKey), (key "request_sha256", e.requestSha256),
    (key "previous_event_hash", e.previousEventHash), (key "event_hash", e.eventHash),
    (key "occurred_at", e.occurredAt)]

def toValue (e : Event F) : Value F := .dict e.entries

/-- The fields of a dictionary that has the keys of an event. -/
def ofEntries (entries : Entries F) : Option (Event F) := do
  let schemaVersion ← entries.lookup (key "schema_version")
  let sequence ← entries.lookup (key "sequence")
  let eventId ← entries.lookup (key "event_id")
  let eventType ← entries.lookup (key "event_type")
  let entityType ← entries.lookup (key "entity_type")
  let entityId ← entries.lookup (key "entity_id")
  let entityVersion ← entries.lookup (key "entity_version")
  let actorDid ← entries.lookup (key "actor_did")
  let actorRef ← entries.lookup (key "actor_ref")
  let payload ← entries.lookup (key "payload")
  let payloadJsonbText ← entries.lookup (key "payload_jsonb_text")
  let payloadSha256 ← entries.lookup (key "payload_sha256")
  let idempotencyKey ← entries.lookup (key "idempotency_key")
  let requestSha256 ← entries.lookup (key "request_sha256")
  let previousEventHash ← entries.lookup (key "previous_event_hash")
  let eventHash ← entries.lookup (key "event_hash")
  let occurredAt ← entries.lookup (key "occurred_at")
  return {
    schemaVersion, sequence, eventId, eventType, entityType, entityId, entityVersion, actorDid,
    actorRef, payload, payloadJsonbText, payloadSha256, idempotencyKey, requestSha256,
    previousEventHash, eventHash, occurredAt }

/-- The event a value is, if its keys are exactly the keys of an event. -/
def ofValue : Value F → Option (Event F)
  | .dict entries => if entries.all (·.1 ∈ EVENT_KEYS) then ofEntries entries else none
  | _ => none

@[simp]
theorem ofEntries_entries (e : Event F) : ofEntries e.entries = some e := by
  simp [ofEntries, entries]

@[simp]
theorem ofValue_toValue (e : Event F) : ofValue e.toValue = some e := by
  have known : e.entries.all (·.1 ∈ EVENT_KEYS) = true := by
    simp [entries, EVENT_KEYS]
  rw [toValue, ofValue, if_pos known, ofEntries_entries]

end Event

/-! ## The ledger -/

structure Ledger (F : Type) where
  events : List (Event F)
  /-- The request hash and the position that each key is bound to. -/
  idempotency : List (Str × Str × Nat)
  eventIds : List Str

def Ledger.empty : Ledger F := ⟨[], [], []⟩

/-- `add` of a set. -/
def setAdd (members : List Str) (member : Str) : List Str :=
  if member ∈ members then members else members ++ [member]

/-- Assignment to a key of a dictionary. -/
def dictSet {α : Type} (bindings : List (Str × α)) (name : Str) (bound : α) : List (Str × α) :=
  if name ∈ bindings.map Prod.fst then
    bindings.map fun binding => if binding.1 = name then (name, bound) else binding
  else bindings ++ [(name, bound)]

/-- `head_hash`. -/
def Ledger.headHash (l : Ledger F) : Value F :=
  match l.events.getLast? with
  | some last => last.eventHash
  | none => .str ZERO_HASH

section Calls

variable [FloatFormat F]

/-- `full_state_sha256`. -/
def Ledger.fullStateSha256 (host : Host) (l : Ledger F) : Except PyError Str :=
  hashJson host (.list (l.events.map Event.toValue))

/-! ## Appending -/

structure AppendArgs (F : Type) where
  eventType : Value F
  entityType : Value F
  entityId : Value F
  payload : Object F
  idempotencyKey : Value F
  entityVersion : Value F := .none
  actorDid : Value F := .none
  actorRef : Value F := .none
  eventId : Value F := .none
  occurredAt : Value F := .none
  payloadJsonbText : Value F := .none

/-- What the checks of a request produce. -/
structure Request (F : Type) where
  fields : RequestFields
  idempotencyKey : Str
  payload : Value F
  jsonbText : Value F
  requestSha256 : Str

/-- The text of a payload: the one given, or the one the database would write. -/
def givenJsonbText (host : Host) (payloadJsonbText payload : Value F) : Except PyError (Value F) :=
  if payloadJsonbText.isNone then Value.str <$> postgresJsonbText host payload
  else .ok payloadJsonbText

/-- The checks and normalizations of `_append` that read nothing of the ledger. -/
def prepare (host : Host) (args : AppendArgs F) (allowReservedEventType : Bool) :
    Except PyError (Request F) := do
  let eventType ← normalizeText args.eventType "event_type" 128
  if eventType = CORRECTION_EVENT_TYPE ∧ allowReservedEventType = false then
    .error (.invalidEvent (lit "use append_correction for correction events"))
  else do
    let entityType ← normalizeText args.entityType "entity_type" 128
    let entityId ← normalizeText args.entityId "entity_id" 512
    let entityVersion ← normalizeOptionalText args.entityVersion "entity_version" 128
    let actorDid ← normalizeOptionalText args.actorDid "actor_did" 512
    let actorRef ← normalizeOptionalText args.actorRef "actor_ref" 512
    let idempotencyKey ← normalizeText args.idempotencyKey "idempotency_key" 256
    match args.payload.val.asMapping with
    | none => .error (.invalidEvent (lit "payload must be a JSON object"))
    | some entries => do
        let payload ← jsonClone host (.dict entries)
        let jsonbText ← givenJsonbText host args.payloadJsonbText payload
        let payloadSha256 ← payloadSha256FromJsonbText host jsonbText
        let parsed ← asInvalidEvent (loadJsonNoDuplicates host jsonbText)
        let parsedText ← canonicalJson parsed
        let payloadText ← canonicalJson payload
        if parsedText ≠ payloadText then
          .error (.invalidEvent (lit "payload_jsonb_text does not represent payload"))
        else do
          let fields : RequestFields :=
            { eventType, entityType, entityId, entityVersion, actorDid, actorRef, payloadSha256 }
          let requestSha256 ← requestHash F host fields
          return { fields, idempotencyKey, payload, jsonbText, requestSha256 }

/-- The hash that the next event names. -/
def Ledger.previousHash (l : Ledger F) : Value F :=
  match l.events.getLast? with
  | some last => last.eventHash
  | none => .none

/-- The event that `_append` builds. -/
def buildEvent (position : Nat) (request : Request F) (eventId occurredAt eventHash : Str)
    (previousHash : Value F) : Event F where
  schemaVersion := .str SCHEMA_VERSION
  sequence := .int position
  eventId := .str eventId
  eventType := .str request.fields.eventType
  entityType := .str request.fields.entityType
  entityId := .str request.fields.entityId
  entityVersion := optional request.fields.entityVersion
  actorDid := optional request.fields.actorDid
  actorRef := optional request.fields.actorRef
  payload := request.payload
  payloadJsonbText := request.jsonbText
  payloadSha256 := .str request.fields.payloadSha256
  idempotencyKey := .str request.idempotencyKey
  requestSha256 := .str request.requestSha256
  previousEventHash := previousHash
  eventHash := .str eventHash
  occurredAt := .str occurredAt

/-- The fields of an event that its hash covers. -/
def Event.hashFields (e : Event F) : HashFields F where
  previousEventHash := e.previousEventHash
  eventId := e.eventId
  schemaVersion := e.schemaVersion
  eventType := e.eventType
  entityType := e.entityType
  entityId := e.entityId
  entityVersion := e.entityVersion
  actorDid := e.actorDid
  actorRef := e.actorRef
  payloadSha256 := e.payloadSha256
  occurredAt := e.occurredAt

/-- The identifier of a new event: the one given, or a random one. -/
def newEventId (env : Env) (eventId : Value F) : Except PyError Str :=
  if eventId.isNone then .ok env.uuid4 else normalizeText eventId "event_id" 128

/-- The part of `_append` under the lock. -/
def store (host : Host) (env : Env) (eventId occurredAt : Value F) (request : Request F) :
    Dispatch (Ledger F) PyError (Event F) := do
  let l ← Dispatch.read id
  match l.idempotency.lookup request.idempotencyKey with
  | some (priorRequestHash, sequence) => do
      Dispatch.ensure (priorRequestHash = request.requestSha256)
        (.idempotencyConflict (lit "idempotency key is already bound to a different request"))
      Dispatch.okOr l.events[sequence - 1]? .indexError
  | none => do
      let eventId ← Dispatch.ofExcept (newEventId env eventId)
      Dispatch.ensure (eventId ∉ l.eventIds)
        (.replayDetected (lit "event_id already exists: " ++ eventId))
      let occurredAt ← Dispatch.ofExcept (normalizeTimestamp host env.now occurredAt)
      let sequence := l.events.length + 1
      let unhashed := buildEvent sequence request eventId occurredAt [] l.previousHash
      let eventHash ← Dispatch.ofExcept (productionEventHash host env.now unhashed.hashFields)
      let event := { unhashed with eventHash := .str eventHash }
      Dispatch.write fun l => { l with events := l.events ++ [event] }
      Dispatch.write fun l => { l with eventIds := setAdd l.eventIds eventId }
      Dispatch.write fun l => { l with
        idempotency :=
          dictSet l.idempotency request.idempotencyKey (request.requestSha256, sequence) }
      return event

/-- `_append`. -/
def appendWith (host : Host) (env : Env) (args : AppendArgs F) (allowReservedEventType : Bool) :
    Dispatch (Ledger F) PyError (Event F) := do
  let request ← Dispatch.ofExcept (prepare host args allowReservedEventType)
  store host env args.eventId args.occurredAt request

/-- `append`. -/
def append (host : Host) (env : Env) (args : AppendArgs F) :
    Dispatch (Ledger F) PyError (Event F) :=
  appendWith host env args false

structure CorrectionArgs (F : Type) where
  targetEventId : Value F
  reason : Value F
  replacementPayload : Object F
  idempotencyKey : Value F
  actorDid : Value F := .none
  actorRef : Value F := .none
  eventId : Value F := .none
  occurredAt : Value F := .none
  payloadJsonbText : Value F := .none

/-- The payload of a correction. -/
def correctionPayload (targetId reason : Str) (replacement : Object F) : Object F :=
  ⟨.dict
    [(key "target_event_id", .str targetId), (key "reason", .str reason),
      (key "replacement_payload", replacement.val)],
    .dict (by simp) (by
      simp only [List.forall_mem_cons, List.not_mem_nil, false_implies, implies_true, and_true]
      exact ⟨.str _, .str _, replacement.property⟩)⟩

/-- The request that `append_correction` passes on to `_append`. -/
def correctionArgs (l : Ledger F) (args : CorrectionArgs F) : Except PyError (AppendArgs F) := do
  let targetId ← normalizeText args.targetEventId "target_event_id" 128
  let reason ← normalizeText args.reason "reason" 2048
  if args.actorDid.isNone = true ∧ args.actorRef.isNone = true then
    .error (.invalidEvent (lit "a correction requires actor_did or actor_ref"))
  else
    match l.events.find? fun event => event.eventId.pyEq (.str targetId) with
    | none => .error (.invalidEvent (lit "correction target must identify an earlier event"))
    | some target =>
        .ok {
          eventType := .str CORRECTION_EVENT_TYPE
          entityType := target.entityType
          entityId := target.entityId
          entityVersion := target.entityVersion
          payload := correctionPayload targetId reason args.replacementPayload
          idempotencyKey := args.idempotencyKey
          actorDid := args.actorDid
          actorRef := args.actorRef
          eventId := args.eventId
          occurredAt := args.occurredAt
          payloadJsonbText := args.payloadJsonbText }

/-- `append_correction`. -/
def appendCorrection (host : Host) (env : Env) (args : CorrectionArgs F) :
    Dispatch (Ledger F) PyError (Event F) := do
  let l ← Dispatch.read id
  let request ← Dispatch.ofExcept (correctionArgs l args)
  appendWith host env request true

/-! ## Calls -/

inductive Call (F : Type) where
  | append (env : Env) (args : AppendArgs F)
  | appendCorrection (env : Env) (args : CorrectionArgs F)

def Call.perform (host : Host) : Call F → Dispatch (Ledger F) PyError (Event F)
  | .append env args => Dail.append host env args
  | .appendCorrection env args => Dail.appendCorrection host env args

def Call.env : Call F → Env
  | .append env _ => env
  | .appendCorrection env _ => env

/-- The identifier a call gives its event. -/
def Call.eventId : Call F → Value F
  | .append _ args => args.eventId
  | .appendCorrection _ args => args.eventId

/-- The timestamp a call gives its event. -/
def Call.occurredAt : Call F → Value F
  | .append _ args => args.occurredAt
  | .appendCorrection _ args => args.occurredAt

/-- The argument checks of a call, before it looks its key up. -/
def Call.validate (host : Host) (l : Ledger F) : Call F → Except PyError (Request F)
  | .append _ args => prepare host args false
  | .appendCorrection _ args => do
      let request ← correctionArgs l args
      prepare host request true

/-- Make one call; an error leaves behind whatever was written before it. -/
def call (host : Host) (l : Ledger F) (c : Call F) : Ledger F × Except PyError (Event F) :=
  let ran := c.perform host l
  (Dispatch.finalState ran, Dispatch.outcome ran)

/-- The ledger after a list of calls. -/
abbrev record (host : Host) (l : Ledger F) (calls : List (Call F)) : Ledger F :=
  Runs.run (call host) l calls

end Calls

/-! ## A host for samples -/

/-- The floating-point format whose only number is zero. -/
inductive ZeroFloat where
  | zero

instance : FloatFormat ZeroFloat where
  eqFloat _ _ := true
  eqInt _ i := i == 0
  isFinite _ := true
  repr _ := lit "0.0"
  parse _ := .zero
  repr_text _ :=
    ⟨⟨false, lit "0", lit ".0", [], .inl rfl, .inr ⟨_, _, rfl, rfl, by simp⟩, .inl rfl⟩, rfl,
      .inl (by decide)⟩
  parse_repr _ := rfl

/-- A digest that spreads the bytes of a short text over the whole range. -/
def sampleDigest (bytes : List UInt8) : Id32 :=
  let sum := bytes.foldl (fun sum byte => sum * 257 + byte.toNat + 1) 1
  ⟨((List.range 32).map fun i => UInt8.ofNat (sum / 256 ^ i)).toArray, by simp⟩

/-- A host that reads the timestamps it writes. -/
def sampleHost : Host where
  sha256 := sampleDigest
  fromisoformat := DateTime.ofIsoText
  decodeErrorText _ := lit "invalid JSON text"
  digitsErrorText _ := lit "Exceeds the limit (4300 digits) for integer string conversion"
  sortedText _ := .ok (lit "[...]")
  digitLimit := 4300
  recursionLimit := 990
  digitLimit_least := by decide
  fromisoformat_isoText d := DateTime.ofIsoText_isoText d _

/-- Noon of a day in August, with a fixed random source. -/
def sampleEnv : Env := ⟨⟨2026, 8, 26, by decide⟩, ⟨43200000000, by decide⟩, Vector.replicate 16 7⟩

/-- The object without entries. -/
def emptyObject : Object ZeroFloat := ⟨.dict [], .dict (by simp) (by simp)⟩

/-- A request with an empty payload. -/
def sampleArgs (eventId idempotencyKey : String) : AppendArgs ZeroFloat where
  eventType := .str (lit "asset.registered.v1")
  entityType := .str (lit "asset")
  entityId := .str (lit "asset-001")
  entityVersion := .str (lit "v1")
  payload := emptyObject
  idempotencyKey := .str (lit idempotencyKey)
  actorRef := .str (lit "service")
  eventId := .str (lit eventId)
  occurredAt := .str (lit "2026-08-26T12:00:00.000000Z")

end Chlom.Dail
