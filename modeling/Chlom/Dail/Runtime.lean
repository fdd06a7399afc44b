import Chlom.Library.Python.JsonCanonical
import Chlom.Primitives

/-!
# Values, hashes and timestamps of the DAIL runtime

Arguments are checked and normalized, JSON is written canonically and hashed, and
timestamps are brought to UTC.  Every helper raises the errors the portable runtime
raises, with their texts.
-/

namespace Chlom.Dail

open Python

def SCHEMA_VERSION : Str := lit "1.1.0"
def COLD_EXPORT_FORMAT : Str := lit "chlom.dail.cold-export"
def CORRECTION_EVENT_TYPE : Str := lit "dail.correction.v1"
def GENESIS_MARKER : Str := lit "GENESIS"
def ZERO_HASH : Str := List.replicate 64 (point '0')

/-! ## Errors -/

inductive PyError where
  | invalidEvent (message : Str)
  | idempotencyConflict (message : Str)
  | replayDetected (message : Str)
  | restoreVerification (errors : List Str)
  | typeError (message : Str)
  | valueError (message : Str)
  | unicodeEncodeError
  | overflowError
  | indexError
  | recursionError
  deriving DecidableEq

/-- `str(exc)` of the errors that verification reports. -/
def PyError.text : PyError → Str
  | .invalidEvent message | .idempotencyConflict message | .replayDetected message
  | .typeError message | .valueError message => message
  | .restoreVerification errors => List.intercalate (lit "; ") errors
  | .unicodeEncodeError | .overflowError | .indexError | .recursionError => []

/-- What the runtime takes from the platform: the digest, the reading of timestamps,
the texts of errors of `json.loads`, the text of a sorted list of keys, which fails on
keys that cannot be compared, and two limits of the interpreter, on the digits of an
integer that it reads or writes, where 0 is none, and on the nesting of a value. -/
structure Host where
  sha256 : List UInt8 → Id32
  fromisoformat : Str → Option DateTime
  decodeErrorText : Str → Str
  digitsErrorText : Str → Str
  sortedText : List Key → Except PyError Str
  digitLimit : Nat
  recursionLimit : Nat
  /-- `sys.set_int_max_str_digits` takes no smaller limit. -/
  digitLimit_least : digitLimit = 0 ∨ 640 ≤ digitLimit
  fromisoformat_isoText : ∀ d : DateTime,
    fromisoformat (d.isoText ++ lit "+00:00") = some ⟨d.date, d.time, some .utc⟩

/-- What a call takes from the clock and the random source. -/
structure Env where
  date : Date
  time : Fin DAY
  uuid : Vector UInt8 16

/-- `datetime.now(timezone.utc)`. -/
def Env.now (env : Env) : DateTime := ⟨env.date, env.time, some .utc⟩

/-- `str(uuid.uuid4())`. -/
def Env.uuid4 (env : Env) : Str :=
  let bytes := env.uuid.toList
  hexText (bytes.take 4) ++ lit "-" ++ hexText ((bytes.drop 4).take 2) ++ lit "-" ++
    hexText ((bytes.drop 6).take 2) ++ lit "-" ++ hexText ((bytes.drop 8).take 2) ++ lit "-" ++
    hexText (bytes.drop 10)

variable {F : Type}

/-- A dictionary key written as a literal. -/
abbrev key (name : String) : Key := .str (lit name)

/-- A lookup passes over another literal key. -/
@[simp]
theorem lookup_key_of_ne {name other : String} (differs : name ≠ other) {v : Value F}
    {rest : Entries F} : List.lookup (key name) ((key other, v) :: rest) = rest.lookup (key name) :=
  Entries.lookup_cons_of_ne (by simpa using differs)

/-- A string that may be absent, as a value. -/
def optional : Option Str → Value F
  | none => .none
  | some s => .str s

/-! ## JSON values -/

variable [FloatFormat F]

mutual

/-- `_validate_json_value`. -/
def validateJsonValue (path : Str) : Value F → Except PyError Unit
  | .none | .bool _ | .int _ | .str _ => .ok ()
  | .float f =>
      if FloatFormat.isFinite f then .ok ()
      else .error (.invalidEvent (path ++ lit " contains a non-finite number"))
  | .list items => validateItems path 0 items
  | .dict entries => validateEntries path entries
  | v => .error (.invalidEvent (path ++ lit " contains unsupported type " ++ v.typeName))

def validateItems (path : Str) (index : Nat) : List (Value F) → Except PyError Unit
  | [] => .ok ()
  | v :: rest => do
      validateJsonValue (path ++ lit "[" ++ natText index ++ lit "]") v
      validateItems path (index + 1) rest

def validateEntries (path : Str) : Entries F → Except PyError Unit
  | [] => .ok ()
  | (.str name, v) :: rest => do
      validateJsonValue (path ++ lit "." ++ name) v
      validateEntries path rest
  | (.other _, _) :: _ =>
      .error (.invalidEvent (path ++ lit " contains a non-string object key"))

end

/-- `_canonical_json` of a value within the limits of the interpreter, as `json.loads` gives it. -/
def canonicalJson (value : Value F) : Except PyError Str := do
  validateJsonValue (lit "value") value
  return dumps [] (sortKeys value)

/-- `_sha256_text`. -/
def sha256Text (host : Host) (value : Str) : Except PyError Str :=
  match encodeUtf8 value with
  | some encoded => .ok (hexText (host.sha256 encoded).toList)
  | none => .error (.invalidEvent (lit "text is not valid UTF-8"))

/-- `_hash_json`. -/
def hashJson (host : Host) (value : Value F) : Except PyError Str := do
  let text ← canonicalJson value
  sha256Text host text

/-- `str(exc)` of an error of `json.loads`. -/
def jsonErrorText (host : Host) (text : Str) : JsonError → Str
  | .decode => host.decodeErrorText text
  | .constant name => lit "non-standard JSON constant: " ++ name
  | .duplicate name => lit "duplicate JSON key: " ++ name
  | .digits => host.digitsErrorText text

/-- `_json_clone`.  A value beyond the limits of the interpreter is not written. -/
def jsonClone (host : Host) (value : Value F) : Except PyError (Value F) := do
  let text ← canonicalJson value
  if host.recursionLimit < value.depth then .error .recursionError
  else if value.fits host.digitLimit = false then
    .error (.valueError (jsonErrorText host text .digits))
  else
    match loadsWith (Hooks.standard.limited host.digitLimit) text with
    | .ok clone => return clone
    | .error error => .error (.valueError (jsonErrorText host text error))

/-- `_load_json_no_duplicates`. -/
def loadJsonNoDuplicates (host : Host) : Value F → Except PyError (Value F)
  | .str text =>
      match loadsWith (Hooks.strict.limited host.digitLimit) text with
      | .ok value => .ok value
      | .error (.duplicate name) =>
          .error (.restoreVerification [jsonErrorText host text (.duplicate name)])
      | .error error =>
          .error (.restoreVerification [lit "invalid JSON: " ++ jsonErrorText host text error])
  | value => .error (.restoreVerification [lit "invalid JSON: " ++
      (lit "the JSON object must be str, bytes or bytearray, not " ++ value.typeName)])

/-! ## Normalization -/

/-- `_normalize_text`. -/
def normalizeText (value : Value F) (field : String) (maximum : Nat) : Except PyError Str :=
  match value with
  | .str s =>
      if strip s = [] then .error (.invalidEvent (lit field ++ lit " must not be empty"))
      else if maximum < (strip s).length then
        .error (.invalidEvent (lit field ++ lit " exceeds " ++ natText maximum ++
          lit " characters"))
      else .ok (strip s)
  | _ => .error (.invalidEvent (lit field ++ lit " must be a string"))

/-- `_normalize_optional_text`. -/
def normalizeOptionalText (value : Value F) (field : String) (maximum : Nat) :
    Except PyError (Option Str) :=
  match value with
  | .none => .ok none
  | value => some <$> normalizeText value field maximum

/-- `_normalize_hash_field`. -/
def normalizeHashField (value : Value F) (field : String) (maximum : Nat) :
    Except PyError Str := do
  let normalized ← normalizeText value field maximum
  if point '|' ∈ normalized then
    .error (.invalidEvent (lit field ++ lit " must not contain the production hash delimiter '|'"))
  else return normalized

/-- `_normalize_optional_hash_field`. -/
def normalizeOptionalHashField (value : Value F) (field : String) (maximum : Nat) :
    Except PyError (Option Str) :=
  match value with
  | .none => .ok none
  | value => some <$> normalizeHashField value field maximum

/-- The timestamp a text stands for, with `Z` read as the offset of UTC. -/
def parseTimestamp (host : Host) (s : Str) : Option DateTime :=
  if (strip s).getLast? = some (point 'Z') then
    host.fromisoformat ((strip s).dropLast ++ lit "+00:00")
  else host.fromisoformat (strip s)

/-- The canonical text of a timestamp, which is in UTC. -/
def timestampText (d : DateTime) : Str := d.isoText ++ lit "Z"

/-- The timestamp that an argument stands for. -/
def readTimestamp (host : Host) (now : DateTime) : Value F → Except PyError DateTime
  | .none => .ok now
  | .datetime d => .ok d
  | .str s =>
      match parseTimestamp host s with
      | some d => .ok d
      | none => .error (.invalidEvent (lit "timestamp must be valid RFC 3339"))
  | _ => .error (.invalidEvent (lit "timestamp must be a string, datetime, or None"))

/-- `_normalize_timestamp`. -/
def normalizeTimestamp (host : Host) (now : DateTime) (value : Value F) : Except PyError Str := do
  let parsed ← readTimestamp host now value
  match parsed.offset with
  | none => .error (.invalidEvent (lit "timestamp must include a UTC offset"))
  | some offset =>
      match parsed.toUtc offset with
      | some utc => return timestampText utc
      | none => .error .overflowError

/-- `_HASH_PATTERN.fullmatch`. -/
def IsHash (s : Str) : Prop := s.length = 64 ∧ s.all isLowerHex = true

instance (s : Str) : Decidable (IsHash s) :=
  inferInstanceAs (Decidable (_ ∧ _))

/-- `_require_hash`; `restore` chooses the kind of error. -/
def requireHash (value : Value F) (field : String) (restore : Bool) : Except PyError Str :=
  let message := lit field ++ lit " must be a lowercase SHA-256 hash"
  let refused := if restore then PyError.restoreVerification [message] else .invalidEvent message
  match value with
  | .str s => if IsHash s then .ok s else .error refused
  | _ => .error refused

/-! ## The texts the database writes -/

/-- The order of PostgreSQL's keys: length first, then bytes. -/
def JsonbKeyLe (first second : List UInt8) : Prop :=
  first.length < second.length ∨ first.length = second.length ∧ first ≤ second

instance (first second : List UInt8) : Decidable (JsonbKeyLe first second) :=
  inferInstanceAs (Decidable (_ ∨ _ ∧ _))

/-- `_jsonb_key_order`: the bytes of a key, which the order compares. -/
def jsonbKeyOrder (name : Key) : Except PyError (List UInt8) :=
  match encodeUtf8 name.text with
  | some encoded => .ok encoded
  | none => .error .unicodeEncodeError

mutual

/-- `_jsonb_order`: the keys of a dictionary are put in order before its values. -/
def jsonbOrder : Value F → Except PyError (Value F)
  | .dict entries => do
      let ordered ← jsonbOrderEntries entries
      let sorted := ordered.insertionSort fun first second => JsonbKeyLe first.1 second.1
      let values ← sorted.mapM fun entry => return (entry.2.1, ← entry.2.2)
      return .dict values
  | .list items => do return .list (← jsonbOrderItems items)
  | .float _ => .error (.invalidEvent
      (lit "portable JSONB rendering does not infer numeric scale; provide " ++
        lit "payload_jsonb_text read from PostgreSQL"))
  | v => .ok v

def jsonbOrderItems : List (Value F) → Except PyError (List (Value F))
  | [] => .ok []
  | v :: rest => do
      let v ← jsonbOrder v
      return v :: (← jsonbOrderItems rest)

/-- Every item with the bytes of its key and what ordering its value gives. -/
def jsonbOrderEntries :
    Entries F → Except PyError (List (List UInt8 × Key × Except PyError (Value F)))
  | [] => .ok []
  | (name, v) :: rest => do
      let encoded ← jsonbKeyOrder name
      return (encoded, name, jsonbOrder v) :: (← jsonbOrderEntries rest)

end

/-- `postgres_jsonb_text`. -/
def postgresJsonbText (host : Host) (payload : Value F) : Except PyError Str :=
  match payload.asMapping with
  | none => .error (.invalidEvent (lit "payload must be a JSON object"))
  | some entries => do
      let clone ← jsonClone host (.dict entries)
      let ordered ← jsonbOrder clone
      return dumps (lit " ") ordered

/-- `except RestoreVerificationError as exc: raise InvalidEvent(str(exc))`. -/
def asInvalidEvent {α : Type} : Except PyError α → Except PyError α
  | .error (.restoreVerification errors) =>
      .error (.invalidEvent (PyError.restoreVerification errors).text)
  | outcome => outcome

/-- `payload_sha256_from_jsonb_text`. -/
def payloadSha256FromJsonbText (host : Host) (payloadJsonbText : Value F) : Except PyError Str :=
  match payloadJsonbText with
  | .str text => do
      let _ ← asInvalidEvent (loadJsonNoDuplicates host (.str text : Value F))
      sha256Text host text
  | _ => .error (.invalidEvent (lit "payload_jsonb_text must be a string"))

/-! ## Event and request hashes -/

/-- The fields of an event that its hash covers. -/
structure HashFields (F : Type) where
  previousEventHash : Value F
  eventId : Value F
  schemaVersion : Value F
  eventType : Value F
  entityType : Value F
  entityId : Value F
  entityVersion : Value F
  actorDid : Value F
  actorRef : Value F
  payloadSha256 : Value F
  occurredAt : Value F

/-- The actor that an event hash names: the DID, or else the reference. -/
def effectiveActor (actorDid actorRef : Value F) : Except PyError Str := do
  match ← normalizeOptionalHashField actorDid "actor_did" 512 with
  | some did => return did
  | none => return (← normalizeOptionalHashField actorRef "actor_ref" 512).getD []

/-- The predecessor's hash, or the marker of the first event. -/
def previousMarker (previousEventHash : Value F) : Except PyError Str :=
  match previousEventHash with
  | .none => .ok GENESIS_MARKER
  | value => requireHash value "previous_event_hash" false

/-- The texts that an event hash is computed over. -/
structure HashText where
  previous : Str
  eventId : Str
  schemaVersion : Str
  eventType : Str
  entityType : Str
  entityId : Str
  entityVersion : Str
  actor : Str
  payloadSha256 : Str
  occurredAt : Str
  deriving DecidableEq

def HashText.fields (t : HashText) : List Str :=
  [t.previous, t.eventId, t.schemaVersion, t.eventType, t.entityType, t.entityId, t.entityVersion,
    t.actor, t.payloadSha256, t.occurredAt]

/-- The texts joined by the delimiter. -/
def HashText.text (t : HashText) : Str := List.intercalate (lit "|") t.fields

/-- The checks of `production_event_hash`. -/
def eventHashText (host : Host) (now : DateTime) (fields : HashFields F) :
    Except PyError HashText := do
  let previous ← previousMarker fields.previousEventHash
  let eventId ← normalizeHashField fields.eventId "event_id" 128
  let schemaVersion ← normalizeHashField fields.schemaVersion "schema_version" 32
  let eventType ← normalizeHashField fields.eventType "event_type" 128
  let entityType ← normalizeHashField fields.entityType "entity_type" 128
  let entityId ← normalizeHashField fields.entityId "entity_id" 512
  let version ← normalizeOptionalHashField fields.entityVersion "entity_version" 128
  let actor ← effectiveActor fields.actorDid fields.actorRef
  let payloadSha256 ← requireHash fields.payloadSha256 "payload_sha256" false
  let occurredAt ← normalizeTimestamp host now fields.occurredAt
  return { previous, eventId, schemaVersion, eventType, entityType, entityId,
           entityVersion := version.getD [], actor, payloadSha256, occurredAt }

/-- `production_event_hash`. -/
def productionEventHash (host : Host) (now : DateTime) (fields : HashFields F) :
    Except PyError Str := do
  let t ← eventHashText host now fields
  sha256Text host t.text

/-- What a request asks for, by its normalized fields. -/
structure RequestFields where
  eventType : Str
  entityType : Str
  entityId : Str
  entityVersion : Option Str
  actorDid : Option Str
  actorRef : Option Str
  payloadSha256 : Str
  deriving DecidableEq

/-- The items of a request's dictionary. -/
def RequestFields.entries (fields : RequestFields) : Entries F :=
  [(key "event_type", .str fields.eventType), (key "entity_type", .str fields.entityType),
    (key "entity_id", .str fields.entityId), (key "entity_version", optional fields.entityVersion),
    (key "actor_did", optional fields.actorDid), (key "actor_ref", optional fields.actorRef),
    (key "payload_sha256", .str fields.payloadSha256)]

/-- `_request_hash`. -/
def requestHash (F : Type) [FloatFormat F] (host : Host) (fields : RequestFields) :
    Except PyError Str :=
  hashJson host (.dict fields.entries : Value F)

end Chlom.Dail
