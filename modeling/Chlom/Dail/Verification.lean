import Chlom.Dail.Ledger
import Chlom.Library.HashChain
import Chlom.Library.Reports

/-!
# Verifying a list of events

Verification reads the events in order and reports everything that is wrong: fields
that do not normalize, hashes that cannot be recomputed, broken links, identifiers and
keys that come twice, corrections of the wrong shape.  An event that raises an error
is reported and skipped.
-/

namespace Chlom.Dail

open Python Reports

variable {F : Type} [FloatFormat F]

/-! ## One event -/

/-- The errors that verification reports and goes on. -/
def PyError.caught : PyError → Bool
  | .invalidEvent _ | .idempotencyConflict _ | .replayDetected _ | .restoreVerification _
  | .typeError _ => true
  | .valueError _ | .unicodeEncodeError | .overflowError | .indexError | .recursionError => false

/-- What verification reads off the fields that name and describe an event. -/
structure Identity where
  eventId : Str
  eventType : Str
  entityType : Str
  entityId : Str
  entityVersion : Option Str
  actorDid : Option Str
  actorRef : Option Str
  idempotencyKey : Str

/-- `type(value) is int and value == number`. -/
def isNumber (value : Value F) (number : Nat) : Bool :=
  match value with
  | .int i => i == number
  | _ => false

/-- The normalizations behind the event identifier. -/
def readDescription (e : Event F) (eventId : Str) : Except PyError Identity := do
  let eventType ← normalizeText e.eventType "event_type" 128
  let entityType ← normalizeText e.entityType "entity_type" 128
  let entityId ← normalizeText e.entityId "entity_id" 512
  let entityVersion ← normalizeOptionalText e.entityVersion "entity_version" 128
  let actorDid ← normalizeOptionalText e.actorDid "actor_did" 512
  let actorRef ← normalizeOptionalText e.actorRef "actor_ref" 512
  let idempotencyKey ← normalizeText e.idempotencyKey "idempotency_key" 256
  return { eventId, eventType, entityType, entityId, entityVersion, actorDid, actorRef,
           idempotencyKey }

/-- The checks up to the idempotency key. -/
def checkIdentity (label : Str) (position : Nat) (eventIds idempotencyKeys : List Str)
    (e : Event F) : Dispatch (List Str) PyError Identity := do
  Dispatch.ofExcept (validateJsonValue label e.toValue)
  report (¬ e.schemaVersion.pyEq (.str SCHEMA_VERSION) = true)
    (label ++ lit " has unsupported schema_version")
  report (¬ isNumber e.sequence position = true) (label ++ lit " sequence is not contiguous")
  let eventId ← Dispatch.ofExcept (normalizeText e.eventId "event_id" 128)
  report (eventId ∈ eventIds) (label ++ lit " replays event_id " ++ eventId)
  let identity ← Dispatch.ofExcept (readDescription e eventId)
  report (identity.idempotencyKey ∈ idempotencyKeys)
    (label ++ lit " reuses idempotency_key " ++ identity.idempotencyKey)
  return identity

/-- `isinstance(value, dict)`. -/
def isDict : Value F → Bool
  | .dict _ => true
  | _ => false

/-- The checks of the payload, its text and its hash. -/
def checkPayload (host : Host) (label : Str) (e : Event F) : Dispatch (List Str) PyError Str := do
  report (¬ isDict e.payload = true) (label ++ lit " payload must be an object")
  let parsed ← Dispatch.ofExcept (loadJsonNoDuplicates host e.payloadJsonbText)
  let parsedText ← Dispatch.ofExcept (canonicalJson parsed)
  let payloadText ← Dispatch.ofExcept (canonicalJson e.payload)
  report (parsedText ≠ payloadText) (label ++ lit " payload_jsonb_text does not represent payload")
  let payloadHash ← Dispatch.ofExcept (payloadSha256FromJsonbText host e.payloadJsonbText)
  report (¬ e.payloadSha256.pyEq (.str payloadHash) = true)
    (label ++ lit " payload_sha256 mismatch")
  return payloadHash

/-- The fields of the request an event answers. -/
def Identity.requestFields (identity : Identity) (payloadSha256 : Str) : RequestFields where
  eventType := identity.eventType
  entityType := identity.entityType
  entityId := identity.entityId
  entityVersion := identity.entityVersion
  actorDid := identity.actorDid
  actorRef := identity.actorRef
  payloadSha256 := payloadSha256

/-- The fields of an event with the normalized identity in place of the stored one. -/
def Identity.hashFields (identity : Identity) (e : Event F) : HashFields F where
  previousEventHash := e.previousEventHash
  eventId := .str identity.eventId
  schemaVersion := e.schemaVersion
  eventType := .str identity.eventType
  entityType := .str identity.entityType
  entityId := .str identity.entityId
  entityVersion := optional identity.entityVersion
  actorDid := optional identity.actorDid
  actorRef := optional identity.actorRef
  payloadSha256 := e.payloadSha256
  occurredAt := e.occurredAt

/-- The checks of the request hash, the timestamp, the link and the event hash. -/
def checkHashes (host : Host) (now : DateTime) (label : Str) (expectedPreviousHash : Value F)
    (identity : Identity) (payloadHash : Str) (e : Event F) : Dispatch (List Str) PyError Unit := do
  let expectedRequestHash ←
    Dispatch.ofExcept (requestHash F host (identity.requestFields payloadHash))
  report (¬ e.requestSha256.pyEq (.str expectedRequestHash) = true)
    (label ++ lit " request_sha256 mismatch")
  let occurredAt ← Dispatch.ofExcept (normalizeTimestamp host now e.occurredAt)
  report (¬ e.occurredAt.pyEq (.str occurredAt) = true)
    (label ++ lit " occurred_at is not canonical UTC")
  report (¬ e.previousEventHash.pyEq expectedPreviousHash = true)
    (label ++ lit " previous_event_hash mismatch")
  let expectedHash ← Dispatch.ofExcept (productionEventHash host now (identity.hashFields e))
  report (¬ e.eventHash.pyEq (.str expectedHash) = true) (label ++ lit " event_hash mismatch")

/-- `value in strings`, which fails on values that cannot be hashed. -/
def memberOf (value : Value F) (strings : List Str) : Except PyError Bool :=
  match value with
  | .str s => .ok (s ∈ strings)
  | .list _ | .dict _ =>
      .error (.typeError (lit "unhashable type: '" ++ value.typeName ++ lit "'"))
  | _ => .ok false

/-- `isinstance(value, str) and value.strip()`. -/
def isNonblank : Value F → Bool
  | .str s => !(strip s).isEmpty
  | _ => false

/-- The keys of a correction's payload. -/
def CORRECTION_KEYS : List Key :=
  [key "target_event_id", key "reason", key "replacement_payload"]

/-- A dictionary has exactly the given keys. -/
def hasKeys (entries : Entries F) (keys : List Key) : Prop :=
  (∀ name ∈ entries.map Prod.fst, name ∈ keys) ∧ ∀ name ∈ keys, name ∈ entries.map Prod.fst

instance (entries : Entries F) (keys : List Key) : Decidable (hasKeys entries keys) :=
  inferInstanceAs (Decidable (_ ∧ _))

/-- `payload.get(name)`. -/
def getItem (entries : Entries F) (name : String) : Value F :=
  (entries.lookup (key name)).getD .none

/-- `_verify_correction`. -/
def verifyCorrection (payload : Value F) (earlierEventIds : List Str) (label : Str) :
    Dispatch (List Str) PyError Unit :=
  match payload with
  | .dict entries =>
      if hasKeys entries CORRECTION_KEYS then do
        let earlier ←
          Dispatch.ofExcept (memberOf (getItem entries "target_event_id") earlierEventIds)
        report (earlier = false) (label ++ lit " correction target is not an earlier event")
        report (¬ isNonblank (getItem entries "reason") = true)
          (label ++ lit " correction reason is empty")
        report (¬ isDict (getItem entries "replacement_payload") = true)
          (label ++ lit " correction replacement_payload must be an object")
      else report True (label ++ lit " correction payload has invalid fields")
  | _ => report True (label ++ lit " correction payload has invalid fields")

/-- The checks of one event with the keys of an event. -/
def verifyEvent (host : Host) (now : DateTime) (label : Str) (position : Nat)
    (eventIds idempotencyKeys : List Str) (expectedPreviousHash : Value F) (e : Event F) :
    Dispatch (List Str) PyError (Str × Str) := do
  let identity ← checkIdentity label position eventIds idempotencyKeys e
  let payloadHash ← checkPayload host label e
  checkHashes host now label expectedPreviousHash identity payloadHash e
  Dispatch.onlyIf (identity.eventType = CORRECTION_EVENT_TYPE)
    (verifyCorrection e.payload eventIds label)
  return (identity.eventId, identity.idempotencyKey)

/-! ## All events -/

/-- What verification carries from one event to the next. -/
structure Pass (F : Type) where
  errors : List Str
  eventIds : List Str
  idempotencyKeys : List Str
  expectedPreviousHash : Value F

/-- The message about the keys of an event. -/
def invalidFields (host : Host) (label : Str) (entries : Entries F) : Except PyError Str := do
  let missing ← host.sortedText (EVENT_KEYS.filter fun name => name ∉ entries.map Prod.fst)
  let extra ← host.sortedText ((entries.map Prod.fst).filter fun name => name ∉ EVENT_KEYS)
  return label ++ lit " has invalid fields (missing=" ++ missing ++ lit ", extra=" ++ extra ++
    lit ")"

/-- One round of `verify`. -/
def verifyStep (host : Host) (now : DateTime) (position : Nat) (pass : Pass F) (event : Value F) :
    Except PyError (Pass F) :=
  let label := lit "event[" ++ natText position ++ lit "]"
  match event with
  | .dict entries =>
      match Event.ofValue (.dict entries) with
      | none => do
          let message ← invalidFields host label entries
          return { pass with errors := pass.errors ++ [message] }
      | some e =>
          match verifyEvent host now label position pass.eventIds pass.idempotencyKeys
            pass.expectedPreviousHash e pass.errors with
          | .ok (eventId, idempotencyKey) errors =>
              .ok { errors
                    eventIds := setAdd pass.eventIds eventId
                    idempotencyKeys := setAdd pass.idempotencyKeys idempotencyKey
                    expectedPreviousHash := e.eventHash }
          | .error error errors =>
              if error.caught then
                .ok { pass with errors := errors ++ [label ++ lit " is invalid: " ++ error.text] }
              else .error error
  | _ => .ok { pass with errors := pass.errors ++ [label ++ lit " must be an object"] }

def verifyFrom (host : Host) (now : DateTime) :
    Nat → Pass F → List (Value F) → Except PyError (Pass F)
  | _, pass, [] => .ok pass
  | position, pass, event :: rest => do
      let pass ← verifyStep host now position pass event
      verifyFrom host now (position + 1) pass rest

structure VerificationReport (F : Type) where
  ok : Bool
  eventCount : Nat
  headHash : Value F
  errors : List Str

/-- `verify`. -/
def verify (host : Host) (now : DateTime) (events : List (Value F)) :
    Except PyError (VerificationReport F) := do
  let pass ← verifyFrom host now 1 ⟨[], [], [], .none⟩ events
  return {
    ok := pass.errors.isEmpty
    eventCount := events.length
    headHash :=
      if pass.expectedPreviousHash.truthy then pass.expectedPreviousHash else .str ZERO_HASH
    errors := pass.errors }

/-- `verify` of a ledger. -/
def Ledger.verify (host : Host) (now : DateTime) (l : Ledger F) :
    Except PyError (VerificationReport F) :=
  Dail.verify host now (l.events.map Event.toValue)

end Chlom.Dail
