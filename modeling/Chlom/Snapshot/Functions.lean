import Chlom.Dail.ColdExport
import Chlom.Library.Results

/-!
# Lineage snapshots

A lineage snapshot is a file of integrity metadata without payloads: the hashes and times of
every event, the documented corrections and a description of the source.  The verifier
compares the file with an anchor kept elsewhere and checks it from front to back; the first
thing that is wrong ends the verification.
-/

namespace Chlom.Snapshot

open Python Dail

variable {F : Type}

/-! ## Errors -/

inductive Failure where
  /-- `SnapshotError`. -/
  | snapshotError (message : Str)
  /-- Any other exception. -/
  | other (error : PyError)
  deriving DecidableEq

/-- What the verifier takes from the interpreter: next to the runtime's, the text of an
error of decoding UTF-8. -/
structure Interpreter extends Host where
  unicodeErrorText : List UInt8 → Str

/-- An exception that the verifier does not raise itself. -/
def raising {α : Type} (computed : Except PyError α) : Except Failure α :=
  computed.mapError .other

/-- `if not condition: raise SnapshotError(message)`. -/
def ensure (condition : Prop) [Decidable condition] (message : Str) : Except Failure Unit :=
  if condition then .ok () else .error (.snapshotError message)

/-! ## Keys -/

/-- `TOP_LEVEL_KEYS`. -/
def TOP_LEVEL_KEYS : List Key :=
  [key "format", key "classification", key "restore_scope", key "payloads_included",
    key "actor_identifiers_included", key "entity_identifiers_included", key "source",
    key "events", key "corrections", key "limitations"]

/-- `SOURCE_KEYS`. -/
def SOURCE_KEYS : List Key :=
  [key "project_ref", key "captured_at", key "event_count", key "min_sequence_id",
    key "max_sequence_id", key "head_event_hash", key "head_created_at",
    key "payload_bytes_not_exported", key "integrity_state", key "verifier_failure_count",
    key "documented_correction_count"]

/-- `EVENT_KEYS`. -/
def EVENT_KEYS : List Key :=
  [key "sequence_id", key "previous_event_hash", key "event_hash", key "payload_sha256",
    key "created_at"]

/-- `CORRECTION_KEYS`. -/
def CORRECTION_KEYS : List Key :=
  [key "sequence_id", key "original_event_hash", key "expected_event_hash", key "payload_sha256",
    key "previous_event_hash", key "correction_state", key "defect_class", key "created_at"]

/-! ## Checks of one value -/

/-- `_require_exact_keys`. -/
def requireExactKeys (host : Host) (value : Entries F) (expected : List Key) (label : Str) :
    Except Failure Unit :=
  if hasKeys value expected then .ok ()
  else do
    let missing ← raising (host.sortedText (expected.filter fun name => name ∉ value.map Prod.fst))
    let extra ← raising (host.sortedText ((value.map Prod.fst).filter fun name => name ∉ expected))
    .error (.snapshotError (label ++ lit " keys differ; missing=" ++ missing ++ lit ", extra=" ++
      extra))

/-- `_require_hash`. -/
def requireHash (value : Value F) (label : Str) (nullable : Bool) : Except Failure (Value F) :=
  if (nullable && value.isNone) = true then .ok .none
  else if isHashValue value = true then .ok value
  else .error (.snapshotError (label ++ lit " is not a lowercase SHA-256 value"))

/-- `_require_integer`. -/
def requireInteger (value : Value F) (label : Str) (minimum : Int) : Except Failure Int :=
  let refused := Failure.snapshotError
    (label ++ lit " must be an integer greater than or equal to " ++ intText minimum)
  match value with
  | .int i => if minimum ≤ i then .ok i else .error refused
  | _ => .error refused

/-- `_parse_timestamp`. -/
def parseTimestamp (host : Host) (value : Value F) (label : Str) : Except Failure DateTime :=
  let empty := Failure.snapshotError (label ++ lit " must be a non-empty RFC 3339 timestamp")
  match value with
  | .str s =>
      if strip s = [] then .error empty
      else
        match Dail.parseTimestamp host s with
        | none => .error (.snapshotError (label ++ lit " is not a valid RFC 3339 timestamp"))
        | some parsed =>
            match parsed.offset with
            | none => .error (.snapshotError (label ++ lit " must include a UTC offset"))
            | some offset =>
                match parsed.toUtc offset with
                | some utc => .ok utc
                | none => .error (.other .overflowError)
  | _ => .error empty

/-- A value that has to be an object. -/
def requireObject (value : Value F) (message : Str) : Except Failure (Entries F) :=
  match value with
  | .dict entries => .ok entries
  | _ => .error (.snapshotError message)

/-- A value that has to be an array. -/
def requireArray (value : Value F) (message : Str) : Except Failure (List (Value F)) :=
  match value with
  | .list items => .ok items
  | _ => .error (.snapshotError message)

/-- `value is False`. -/
def isFalse : Value F → Bool
  | .bool false => true
  | _ => false

/-- A nonblank string of at most 128 characters, the blanks around it left out. -/
def isProjectRef : Value F → Bool
  | .str s => decide (strip s ≠ [] ∧ (strip s).length ≤ 128)
  | _ => false

/-- A nonempty array of nonblank strings. -/
def isLimitations : Value F → Bool
  | .list items => !items.isEmpty && items.all isNonblank
  | _ => false

/-! ## The file -/

variable [FloatFormat F]

/-- The content of a file, or the text of the error that reading it raises. -/
abbrev File := Except Str (List UInt8)

def readFile (file : File) : Except Failure (List UInt8) :=
  match file with
  | .ok content => .ok content
  | .error text => .error (.snapshotError (lit "cannot read snapshot: " ++ text))

/-- `json.loads` of the file's text. -/
def loadDocument (host : Interpreter) (content : List UInt8) : Except Failure (Value F) :=
  match decodeUtf8 content with
  | none => .error (.snapshotError
      (lit "snapshot is not valid UTF-8 JSON: " ++ host.unicodeErrorText content))
  | some text =>
      let text := universalNewlines text
      match loadsWith (Hooks.strict.limited host.digitLimit) text with
      | .ok document => .ok document
      | .error .decode => .error (.snapshotError
          (lit "snapshot is not valid UTF-8 JSON: " ++ jsonErrorText host.toHost text .decode))
      | .error .digits => .error (.other (.valueError (jsonErrorText host.toHost text .digits)))
      | .error error => .error (.snapshotError (jsonErrorText host.toHost text error))

/-- `_sha256`. -/
def sha256 (host : Host) (content : List UInt8) : Str := hexText (host.sha256 content).toList

/-- The hash of the file, which is its anchor, and the object that the file holds. -/
def readSnapshot (host : Interpreter) (file : File) (expectedSha256 : Value F) :
    Except Failure (Str × Entries F) := do
  let expectedHash ← requireHash expectedSha256 (lit "external snapshot anchor") false
  let content ← readFile file
  let actualSha256 := sha256 host.toHost content
  ensure (expectedHash.pyEq (.str actualSha256) = true)
    (lit "snapshot SHA-256 does not match the external anchor")
  let document ← loadDocument host content
  let entries ← requireObject document (lit "snapshot root must be an object")
  return (actualSha256, entries)

/-! ## The source -/

/-- The checks up to the source's project; the source is handed on. -/
def checkDeclaration (host : Host) (document : Entries F) : Except Failure (Entries F) := do
  requireExactKeys host document TOP_LEVEL_KEYS (lit "snapshot")
  ensure ((getItem document "format").pyEq (.str (lit "ct.chlom.dail-lineage-snapshot.v1")) = true)
    (lit "unsupported snapshot format")
  ensure ((getItem document "classification").pyEq (.str (lit "private_integrity_metadata")) = true)
    (lit "snapshot classification is not private integrity metadata")
  ensure ((getItem document "restore_scope").pyEq (.str (lit "ledger_lineage")) = true)
    (lit "snapshot does not declare ledger-lineage scope")
  ["payloads_included", "actor_identifiers_included", "entity_identifiers_included"].forM
    fun field => ensure (isFalse (getItem document field) = true) (lit field ++ lit " must be false")
  let source ← requireObject (getItem document "source") (lit "source must be an object")
  requireExactKeys host source SOURCE_KEYS (lit "source")
  ensure (isProjectRef (getItem source "project_ref") = true) (lit "source project_ref is invalid")
  return source

/-- What the source says about the events. -/
structure Bounds (F : Type) where
  headHash : Value F
  eventCount : Int
  minSequenceId : Int
  maxSequenceId : Int
  documentedCorrectionCount : Int

omit [FloatFormat F] in
/-- The checks of the source behind its two timestamps and in front of its integrity state. -/
def readBounds (source : Entries F) (capturedAt headCreatedAt : DateTime) :
    Except Failure (Bounds F) := do
  ensure (¬ capturedAt.fields < headCreatedAt.fields) (lit "source capture predates its head event")
  let headHash ← requireHash (getItem source "head_event_hash") (lit "source head") false
  let eventCount ← requireInteger (getItem source "event_count") (lit "source event_count") 1
  let minSequenceId ←
    requireInteger (getItem source "min_sequence_id") (lit "source min_sequence_id") 1
  let maxSequenceId ←
    requireInteger (getItem source "max_sequence_id") (lit "source max_sequence_id") 1
  ensure (minSequenceId ≤ maxSequenceId) (lit "source sequence boundary is inverted")
  ensure (eventCount ≤ maxSequenceId - minSequenceId + 1)
    (lit "source event_count exceeds its sequence boundary")
  let _ ← requireInteger (getItem source "payload_bytes_not_exported")
    (lit "source payload_bytes_not_exported") 0
  let verifierFailureCount ←
    requireInteger (getItem source "verifier_failure_count") (lit "source verifier_failure_count") 0
  let documentedCorrectionCount ← requireInteger (getItem source "documented_correction_count")
    (lit "source documented_correction_count") 0
  ensure (verifierFailureCount = 0) (lit "source verifier recorded failures")
  return { headHash, eventCount, minSequenceId, maxSequenceId, documentedCorrectionCount }

def PASS : Str := lit "pass"
def PASS_WITH_CORRECTION : Str := lit "pass_with_documented_legacy_correction"

/-- The integrity state is a passing one; a state that cannot be hashed raises an error. -/
def checkIntegrityState (state : Value F) : Except Failure Unit := do
  let passing ← raising (memberOf state [PASS, PASS_WITH_CORRECTION])
  ensure (passing = true) (lit "source integrity state is not passing")

/-- The time of the capture, the time of the head and the bounds. -/
def checkSource (host : Host) (source : Entries F) :
    Except Failure (DateTime × DateTime × Bounds F) := do
  let capturedAt ← parseTimestamp host (getItem source "captured_at") (lit "source captured_at")
  let headCreatedAt ←
    parseTimestamp host (getItem source "head_created_at") (lit "source head_created_at")
  let bounds ← readBounds source capturedAt headCreatedAt
  checkIntegrityState (getItem source "integrity_state")
  return (capturedAt, headCreatedAt, bounds)

/-! ## The events -/

/-- An event that was accepted. -/
structure Row (F : Type) where
  sequenceId : Int
  entries : Entries F
  createdAt : DateTime

/-- What the walk over the events carries: the last hash, the last sequence and the events by
their sequence. -/
structure Walk (F : Type) where
  previousHash : Value F
  previousSequence : Int
  rows : List (Row F)

def Walk.start : Walk F := ⟨.none, 0, []⟩

/-- The checks of an event in front of its timestamp. -/
def checkEventRow (host : Host) (index : Nat) (walk : Walk F) (event : Value F) :
    Except Failure (Entries F × Int × Value F) := do
  let label := lit "events[" ++ natText index ++ lit "]"
  let entries ← requireObject event (label ++ lit " must be an object")
  requireExactKeys host entries EVENT_KEYS label
  let sequenceId ←
    requireInteger (getItem entries "sequence_id") (label ++ lit " sequence_id") 1
  ensure (walk.previousSequence < sequenceId ∧ sequenceId ∉ walk.rows.map Row.sequenceId)
    (label ++ lit " has invalid sequence order")
  ensure ((getItem entries "previous_event_hash").pyEq walk.previousHash = true)
    (lit "sequence " ++ intText sequenceId ++ lit " breaks physical chain linkage")
  let _ ← requireHash (getItem entries "payload_sha256")
    (lit "sequence " ++ intText sequenceId ++ lit " payload hash") false
  let eventHash ← requireHash (getItem entries "event_hash")
    (lit "sequence " ++ intText sequenceId ++ lit " event hash") false
  return (entries, sequenceId, eventHash)

/-- One round of the walk over the events. -/
def checkEvent (host : Host) (capturedAt : DateTime) (index : Nat) (walk : Walk F)
    (event : Value F) : Except Failure (Walk F) := do
  let (entries, sequenceId, eventHash) ← checkEventRow host index walk event
  let createdAt ← parseTimestamp host (getItem entries "created_at")
    (lit "sequence " ++ intText sequenceId ++ lit " created_at")
  ensure (¬ capturedAt.fields < createdAt.fields)
    (lit "sequence " ++ intText sequenceId ++ lit " postdates the source capture")
  return ⟨eventHash, sequenceId, walk.rows ++ [⟨sequenceId, entries, createdAt⟩]⟩

/-- The walk over the events. -/
def checkEvents (host : Host) (capturedAt : DateTime) (events : List (Value F)) :
    Except Failure (Walk F) :=
  Results.runFrom (checkEvent host capturedAt) 0 .start events

/-- The events, as many as the source counts. -/
def requireEvents (document : Entries F) (eventCount : Int) : Except Failure (List (Value F)) := do
  let message := lit "event rows do not match source event_count"
  let events ← requireArray (getItem document "events") message
  ensure ((events.length : Int) = eventCount) message
  return events

/-- The accepted event of a sequence. -/
def findRow (rows : List (Row F)) (sequenceId : Int) : Option (Row F) :=
  rows.find? fun row => row.sequenceId = sequenceId

/-- The ends of the chain are the ones that the source names. -/
def checkBoundary (walk : Walk F) (bounds : Bounds F) (headCreatedAt : DateTime) :
    Except Failure Unit := do
  ensure (walk.rows.head?.map Row.sequenceId = some bounds.minSequenceId)
    (lit "minimum sequence does not match source boundary")
  ensure (walk.rows.getLast?.map Row.sequenceId = some bounds.maxSequenceId)
    (lit "maximum sequence does not match source boundary")
  ensure (walk.previousHash.pyEq bounds.headHash = true)
    (lit "restored lineage head does not match source head")
  ensure ((findRow walk.rows bounds.maxSequenceId).map Row.createdAt = some headCreatedAt)
    (lit "head event timestamp does not match source boundary")

/-! ## The corrections -/

/-- The corrections so far: how many, how many of them active, and their sequences. -/
structure Tally where
  accepted : Nat
  active : Nat
  seen : List Int

/-- The event that a correction is about. -/
def requireRow (rows : List (Row F)) (sequenceId : Int) (message : Str) : Except Failure (Row F) :=
  match findRow rows sequenceId with
  | some row => .ok row
  | none => .error (.snapshotError message)

/-- The checks of a correction in front of its timestamp. -/
def checkCorrectionRow (host : Host) (rows : List (Row F)) (index : Nat) (seen : List Int)
    (correction : Value F) : Except Failure (Entries F × Row F) := do
  let label := lit "correction " ++ natText index
  let position := lit "corrections[" ++ natText index ++ lit "]"
  let entries ← requireObject correction (position ++ lit " must be an object")
  requireExactKeys host entries CORRECTION_KEYS position
  let sequenceId ←
    requireInteger (getItem entries "sequence_id") (label ++ lit " sequence_id") 1
  ensure (sequenceId ∉ seen) (label ++ lit " repeats a corrected sequence")
  let row ← requireRow rows sequenceId (label ++ lit " targets a missing sequence")
  ["original_event_hash", "expected_event_hash", "payload_sha256"].forM fun field => do
    let _ ← requireHash (getItem entries field) (label ++ lit " " ++ lit field) false
  let _ ← requireHash (getItem entries "previous_event_hash")
    (label ++ lit " previous_event_hash") true
  ensure ((getItem row.entries "event_hash").pyEq (getItem entries "original_event_hash") = true ∨
      (getItem row.entries "event_hash").pyEq (getItem entries "expected_event_hash") = true)
    (label ++ lit " original/expected hash does not match event")
  ensure ((getItem entries "payload_sha256").pyEq (getItem row.entries "payload_sha256") = true)
    (label ++ lit " payload hash does not match event")
  ensure ((getItem entries "previous_event_hash").pyEq
      (getItem row.entries "previous_event_hash") = true)
    (label ++ lit " previous hash does not match event")
  ensure ((getItem entries "correction_state").pyEq (.str (lit "accepted")) = true)
    (label ++ lit " is not accepted")
  ensure (isNonblank (getItem entries "defect_class") = true) (label ++ lit " has no defect class")
  return (entries, row)

/-- One round of the walk over the corrections. -/
def checkCorrection (host : Host) (capturedAt : DateTime) (rows : List (Row F)) (index : Nat)
    (tally : Tally) (correction : Value F) : Except Failure Tally := do
  let label := lit "correction " ++ natText index
  let (entries, row) ← checkCorrectionRow host rows index tally.seen correction
  let createdAt ←
    parseTimestamp host (getItem entries "created_at") (label ++ lit " created_at")
  ensure (¬ createdAt.fields < row.createdAt.fields) (label ++ lit " predates its event")
  ensure (¬ capturedAt.fields < createdAt.fields) (label ++ lit " postdates the source capture")
  ensure (¬ (getItem entries "original_event_hash").pyEq (getItem entries "expected_event_hash") =
      true)
    (label ++ lit " does not change the expected hash")
  let original := (getItem row.entries "event_hash").pyEq (getItem entries "original_event_hash")
  return ⟨tally.accepted + 1, if original = true then tally.active + 1 else tally.active,
    row.sequenceId :: tally.seen⟩

/-- The walk over the corrections. -/
def checkCorrections (host : Host) (capturedAt : DateTime) (rows : List (Row F))
    (corrections : List (Value F)) : Except Failure Tally :=
  Results.runFrom (checkCorrection host capturedAt rows) 0 ⟨0, 0, []⟩ corrections

/-! ## The whole snapshot -/

/-- The checks behind the corrections. -/
def checkClosing (document source : Entries F) (bounds : Bounds F) (active : Nat) :
    Except Failure Unit := do
  ensure ((active : Int) = bounds.documentedCorrectionCount)
    (lit "active correction rows do not match source documented_correction_count")
  ensure (¬ ((getItem source "integrity_state").pyEq (.str PASS) = true ∧ active ≠ 0))
    (lit "passing source has an active documented correction")
  ensure (¬ ((getItem source "integrity_state").pyEq (.str PASS_WITH_CORRECTION) = true ∧
      active = 0))
    (lit "corrected source has no active documented correction")
  ensure (isLimitations (getItem document "limitations") = true)
    (lit "limitations must be a non-empty string array")

omit [FloatFormat F] in
/-- The receipt of a verification. -/
def receipt (actualSha256 : Str) (bounds : Bounds F) (corrections : Nat) (tally : Tally) :
    Entries F :=
  [(key "ok", .bool true), (key "scope", .str (lit "ledger_lineage")),
    (key "snapshot_sha256", .str actualSha256), (key "event_count", .int bounds.eventCount),
    (key "min_sequence_id", .int bounds.minSequenceId),
    (key "max_sequence_id", .int bounds.maxSequenceId), (key "head_event_hash", bounds.headHash),
    (key "correction_rows", .int corrections),
    (key "accepted_correction_rows", .int tally.accepted),
    (key "active_documented_correction_rows", .int tally.active),
    (key "payloads_restored", .bool false), (key "full_data_restore", .bool false),
    (key "institutional_phase4_activation", .bool false)]

/-- The checks of the events and the corrections. -/
def checkRows (host : Host) (capturedAt headCreatedAt : DateTime) (bounds : Bounds F)
    (document : Entries F) : Except Failure (Nat × Tally) := do
  let events ← requireEvents document bounds.eventCount
  let walk ← checkEvents host capturedAt events
  checkBoundary walk bounds headCreatedAt
  let corrections ←
    requireArray (getItem document "corrections") (lit "corrections must be an array")
  let tally ← checkCorrections host capturedAt walk.rows corrections
  return (corrections.length, tally)

/-- `verify_snapshot`. -/
def verifySnapshot (host : Interpreter) (file : File) (expectedSha256 : Value F) :
    Except Failure (Entries F) := do
  let (actualSha256, document) ← readSnapshot host file expectedSha256
  let source ← checkDeclaration host.toHost document
  let (capturedAt, headCreatedAt, bounds) ← checkSource host.toHost source
  let (corrections, tally) ← checkRows host.toHost capturedAt headCreatedAt bounds document
  checkClosing document source bounds tally.active
  return receipt actualSha256 bounds corrections tally

end Chlom.Snapshot
