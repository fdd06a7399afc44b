import Chlom.Dail.Verification

/-!
# Cold exports

A cold export is a canonical document of receipts: hashes, positions and timestamps, linked
by their own chain, and nothing else of the events.  The verifier reads a document back from
any of its forms and compares it with two anchors kept elsewhere.
-/

namespace Chlom.Dail

open Python Reports

variable {F : Type} [FloatFormat F]

/-! ## Keys -/

/-- `_EXPORT_KEYS`. -/
def EXPORT_KEYS : List Key :=
  [key "format", key "schema_version", key "created_at", key "integrity", key "receipts",
    key "receipts_sha256"]

/-- `_INTEGRITY_KEYS`. -/
def INTEGRITY_KEYS : List Key :=
  [key "source_verification", key "event_count", key "first_sequence", key "last_sequence",
    key "head_hash", key "receipt_head_hash"]

/-- `_RECEIPT_KEYS`. -/
def RECEIPT_KEYS : List Key :=
  [key "sequence", key "event_id_sha256", key "event_type_sha256", key "entity_ref_sha256",
    key "occurred_at", key "payload_sha256", key "previous_event_hash", key "event_hash",
    key "previous_receipt_hash", key "receipt_hash"]

/-! ## Exporting -/

structure ColdExport where
  canonicalJson : Str
  exportSha256 : Str
  deriving DecidableEq

/-- `value or default` of a field. -/
def orDefault (value default : Value F) : Value F := if value.truthy then value else default

/-- The text of a field that has to be a string. -/
def requireText (value : Value F) : Except PyError Str :=
  match value with
  | .str s => .ok s
  | _ => .error (.typeError (lit "sequence item: expected str instance"))

/-- The fields of a receipt but its own hash. -/
def receiptWithoutHash (host : Host) (previousReceiptHash : Str) (e : Event F) :
    Except PyError (Entries F) := do
  let entityType ← requireText e.entityType
  let entityId ← requireText e.entityId
  let entityVersion ← requireText (orDefault e.entityVersion (.str []))
  let entityRef := List.intercalate (lit "|") [entityType, entityId, entityVersion]
  let eventIdSha256 ← sha256Text host (← requireText e.eventId)
  let eventTypeSha256 ← sha256Text host (← requireText e.eventType)
  let entityRefSha256 ← sha256Text host entityRef
  return [(key "sequence", e.sequence), (key "event_id_sha256", .str eventIdSha256),
    (key "event_type_sha256", .str eventTypeSha256),
    (key "entity_ref_sha256", .str entityRefSha256), (key "occurred_at", e.occurredAt),
    (key "payload_sha256", e.payloadSha256),
    (key "previous_event_hash", orDefault e.previousEventHash (.str GENESIS_MARKER)),
    (key "event_hash", e.eventHash), (key "previous_receipt_hash", .str previousReceiptHash)]

/-- The receipts of the events, each naming the one before, and the last receipt's hash. -/
def receiptsFrom (host : Host) : Str → List (Event F) → Except PyError (List (Value F) × Str)
  | previousReceiptHash, [] => .ok ([], previousReceiptHash)
  | previousReceiptHash, e :: rest => do
      let receipt ← receiptWithoutHash host previousReceiptHash e
      let receiptHash ← hashJson host (.dict receipt)
      let (receipts, lastHash) ← receiptsFrom host receiptHash rest
      return (.dict (receipt ++ [(key "receipt_hash", .str receiptHash)]) :: receipts, lastHash)

/-- The document of an export. -/
def exportDocument (createdAt : Str) (eventCount : Nat) (headHash : Value F)
    (receipts : List (Value F)) (receiptHeadHash receiptsSha256 : Str) : Value F :=
  .dict [(key "format", .str COLD_EXPORT_FORMAT), (key "schema_version", .str SCHEMA_VERSION),
    (key "created_at", .str createdAt),
    (key "integrity", .dict [(key "source_verification", .str (lit "pass")),
      (key "event_count", .int eventCount),
      (key "first_sequence", if eventCount = 0 then .none else .int 1),
      (key "last_sequence", if eventCount = 0 then .none else .int eventCount),
      (key "head_hash", headHash), (key "receipt_head_hash", .str receiptHeadHash)]),
    (key "receipts", .list receipts), (key "receipts_sha256", .str receiptsSha256)]

/-- `export_cold`. -/
def Ledger.exportCold (host : Host) (now : DateTime) (l : Ledger F) (createdAt : Value F) :
    Except PyError ColdExport := do
  let verification ← l.verify host now
  if verification.ok = false then
    .error (.restoreVerification verification.errors)
  else do
    let (receipts, receiptHeadHash) ← receiptsFrom host ZERO_HASH l.events
    let createdAt ← normalizeTimestamp host now createdAt
    let receiptsSha256 ← hashJson host (.list receipts)
    let canonical ← Dail.canonicalJson (exportDocument createdAt l.events.length
      verification.headHash receipts receiptHeadHash receiptsSha256)
    let exportSha256 ← sha256Text host canonical
    return ⟨canonical, exportSha256⟩

/-! ## Reading an export -/

/-- The forms in which an export is handed over. -/
inductive ExportForm (F : Type) where
  | coldExport (export_ : ColdExport)
  | bytes (content : List UInt8)
  | value (v : Value F)

/-- The value that a form holds. -/
def readExportForm (host : Host) (form : ExportForm F) : Except PyError (Value F) :=
  match form with
  | .coldExport export_ => loadJsonNoDuplicates host (.str export_.canonicalJson)
  | .bytes content =>
      match decodeUtf8 content with
      | some text => loadJsonNoDuplicates host (.str text)
      | none => .error (.restoreVerification [lit "cold export is not UTF-8"])
  | .value (.str text) => loadJsonNoDuplicates host (.str text)
  | .value v =>
      match v.asMapping with
      | some entries => .ok (.dict entries)
      | none => .error (.restoreVerification [lit "cold export must be JSON or an object"])

/-- `_coerce_export_document`. -/
def coerceExportDocument (host : Host) (form : ExportForm F) : Except PyError (Entries F) := do
  let document ← readExportForm host form
  match document with
  | .dict entries => return entries
  | _ => .error (.restoreVerification [lit "cold export root must be an object"])

/-! ## Verifying an export -/

structure ColdRestoreReport where
  ok : Bool
  eventCount : Int
  headHash : Str
  receiptHeadHash : Str
  exportSha256 : Str
  deriving DecidableEq

/-- The error of a timestamp under a name. -/
def PyError.timestampErrors (label : Str) : PyError → Option (List Str)
  | .invalidEvent message => some [label ++ lit " is invalid: " ++ message]
  | _ => none

/-- A timestamp field is written as it is normalized. -/
def checkTimestamp (host : Host) (now : DateTime) (label : Str) (value : Value F) :
    Dispatch (List Str) PyError Unit := do
  let normalized ← recover (some <$> normalizeTimestamp host now value)
    (PyError.timestampErrors label) none
  report (∃ text ∈ normalized, ¬ value.pyEq (.str text) = true)
    (label ++ lit " is not canonical UTC")

/-- `isinstance(value, str) and _HASH_PATTERN.fullmatch(value)`. -/
def isHashValue : Value F → Bool
  | .str s => decide (IsHash s)
  | _ => false

/-- The fields of a receipt that have to be hashes. -/
def RECEIPT_HASHES : List String :=
  ["event_id_sha256", "event_type_sha256", "entity_ref_sha256", "payload_sha256", "event_hash",
    "previous_receipt_hash", "receipt_hash"]

/-- The hashes that the next receipt has to name. -/
structure Links where
  eventHash : Str
  receiptHash : Str

/-- A hash field, or what it was before if the field is no string. -/
def nextLink (value : Value F) (before : Str) : Str :=
  match value with
  | .str s => s
  | _ => before

/-- The checks of a receipt with the keys of a receipt. -/
def checkReceipt (host : Host) (now : DateTime) (label : Str) (position : Nat) (links : Links)
    (receipt : Entries F) : Dispatch (List Str) PyError Links := do
  report (¬ isNumber (getItem receipt "sequence") position = true)
    (label ++ lit " sequence is not contiguous")
  reportAll ((RECEIPT_HASHES.filter fun field => !isHashValue (getItem receipt field)).map
    fun field => label ++ lit " " ++ lit field ++ lit " is not a SHA-256 hash")
  report (¬ (getItem receipt "previous_event_hash").pyEq (.str GENESIS_MARKER) = true ∧
      isHashValue (getItem receipt "previous_event_hash") = false)
    (label ++ lit " previous_event_hash is invalid")
  checkTimestamp host now (label ++ lit " occurred_at") (getItem receipt "occurred_at")
  report (¬ (getItem receipt "previous_event_hash").pyEq (.str links.eventHash) = true)
    (label ++ lit " previous_event_hash mismatch")
  report (¬ (getItem receipt "previous_receipt_hash").pyEq (.str links.receiptHash) = true)
    (label ++ lit " previous_receipt_hash mismatch")
  let expectedReceiptHash ← Dispatch.ofExcept
    (hashJson host (.dict (receipt.filter fun entry => entry.1 ≠ key "receipt_hash")))
  report (¬ (getItem receipt "receipt_hash").pyEq (.str expectedReceiptHash) = true)
    (label ++ lit " receipt_hash mismatch")
  return ⟨nextLink (getItem receipt "event_hash") links.eventHash,
    nextLink (getItem receipt "receipt_hash") links.receiptHash⟩

/-- The items of a dictionary with the given keys. -/
def entriesWithKeys (v : Value F) (keys : List Key) : Option (Entries F) :=
  match v with
  | .dict entries => if hasKeys entries keys then some entries else none
  | _ => none

def checkReceipts (host : Host) (now : DateTime) :
    Nat → Links → List (Value F) → Dispatch (List Str) PyError Links
  | _, links, [] => return links
  | position, links, receipt :: rest => do
      let label := lit "receipt[" ++ natText position ++ lit "]"
      match entriesWithKeys receipt RECEIPT_KEYS with
      | none => do
          report True (label ++ lit " has fields outside the public allowlist")
          checkReceipts host now (position + 1) links rest
      | some entries => do
          let links ← checkReceipt host now label position links entries
          checkReceipts host now (position + 1) links rest

/-- The integrity block, if its keys are the ones of an integrity block. -/
def integrityOf (document : Entries F) : Option (Entries F) :=
  entriesWithKeys (getItem document "integrity") INTEGRITY_KEYS

/-- The receipts, if they are a list. -/
def receiptsOf (document : Entries F) : Option (List (Value F)) :=
  match getItem document "receipts" with
  | .list items => some items
  | _ => none

/-- The event count, if it is a natural number. -/
def eventCountOf (integrity : Entries F) : Option Nat :=
  match getItem integrity "event_count" with
  | .int i => if 0 ≤ i then some i.toNat else none
  | _ => none

/-- The checks of a document that was read. -/
def checkExport (host : Host) (now : DateTime) (expectedExport expectedHead actualExportHash : Str)
    (document : Entries F) : Dispatch (List Str) PyError ColdRestoreReport := do
  report (actualExportHash ≠ expectedExport)
    (lit "cold export SHA-256 does not match the external anchor")
  report (¬ hasKeys document EXPORT_KEYS) (lit "cold export has fields outside the public allowlist")
  report (¬ (getItem document "format").pyEq (.str COLD_EXPORT_FORMAT) = true)
    (lit "cold export format is unsupported")
  report (¬ (getItem document "schema_version").pyEq (.str SCHEMA_VERSION) = true)
    (lit "cold export schema_version is unsupported")
  checkTimestamp host now (lit "cold export created_at") (getItem document "created_at")
  report ((integrityOf document).isNone = true)
    (lit "cold export integrity block has invalid fields")
  let integrity := (integrityOf document).getD []
  report ((receiptsOf document).isNone = true) (lit "cold export receipts must be an array")
  let receipts := (receiptsOf document).getD []
  report (¬ (getItem integrity "source_verification").pyEq (.str (lit "pass")) = true)
    (lit "source ledger was not verified before export")
  report ((eventCountOf integrity).isNone = true)
    (lit "integrity event_count must be a non-negative integer")
  let eventCount : Int := ((eventCountOf integrity).map Int.ofNat).getD (-1)
  report (eventCount ≠ receipts.length)
    (lit "receipt count does not match integrity event_count")
  let receiptsSha256 ← Dispatch.ofExcept (hashJson host (.list receipts))
  report (¬ (getItem document "receipts_sha256").pyEq (.str receiptsSha256) = true)
    (lit "receipts_sha256 mismatch")
  let links ← checkReceipts host now 1 ⟨GENESIS_MARKER, ZERO_HASH⟩ receipts
  let finalEventHash := if receipts.isEmpty then ZERO_HASH else links.eventHash
  report (¬ (getItem integrity "first_sequence").pyEq (if receipts.isEmpty then .none else .int 1) =
      true)
    (lit "integrity first_sequence mismatch")
  report (¬ (getItem integrity "last_sequence").pyEq
      (if receipts.isEmpty then .none else .int receipts.length) = true)
    (lit "integrity last_sequence mismatch")
  report (¬ (getItem integrity "head_hash").pyEq (.str finalEventHash) = true)
    (lit "integrity head_hash does not match the last receipt")
  report (¬ (getItem integrity "head_hash").pyEq (.str expectedHead) = true)
    (lit "integrity head_hash does not match the external anchor")
  report (¬ (getItem integrity "receipt_head_hash").pyEq (.str links.receiptHash) = true)
    (lit "integrity receipt_head_hash does not match the last receipt")
  return {
    ok := true, eventCount, headHash := finalEventHash, receiptHeadHash := links.receiptHash
    exportSha256 := actualExportHash }

/-- `except InvalidEvent as exc: raise RestoreVerificationError(...)` around a canonical text. -/
def asNotJson (computed : Except PyError Str) : Except PyError Str :=
  match computed with
  | .error (.invalidEvent message) =>
      .error (.restoreVerification [lit "cold export is not JSON data: " ++ message])
  | outcome => outcome

/-- The report on a document, or everything that is wrong with it. -/
def judgeExport (host : Host) (now : DateTime) (expectedExport expectedHead actualExportHash : Str)
    (document : Entries F) : Except PyError ColdRestoreReport :=
  match checkExport host now expectedExport expectedHead actualExportHash document [] with
  | .ok found [] => .ok found
  | .ok _ errors => .error (.restoreVerification errors)
  | .error error _ => .error error

/-- `_verify_cold_export`. -/
def verifyColdExport (host : Host) (now : DateTime) (form : ExportForm F)
    (expectedExportSha256 expectedHeadHash : Value F) :
    Except PyError (Entries F × ColdRestoreReport) := do
  let document ← coerceExportDocument host form
  let expectedExport ← requireHash expectedExportSha256 "expected_export_sha256" true
  let expectedHead ← requireHash expectedHeadHash "expected_head_hash" true
  let canonical ← asNotJson (canonicalJson (.dict document))
  let actualExportHash ← sha256Text host canonical
  let found ← judgeExport host now expectedExport expectedHead actualExportHash document
  return (document, found)

end Chlom.Dail
