import Chlom.Library.Dispatch
import Chlom.Primitives
import Mathlib.Data.List.MinMax
import Mathlib.Data.Prod.Lex

/-!
# The assurance tables: checkpoints of the ledger and their recovery drills

Both tables are append-only.  A row is inserted under its idempotency key, and
the constraints of its table judge it before the key is looked up.
-/

namespace Chlom.Assurance

/-! ## Values -/

/-- A text, as its characters. -/
abbrev Text := List Char

/-- A time in microseconds. -/
abbrev Timestamp := Int

abbrev Uuid := BitVec 128

instance decidableMemTexts (value : Text) (values : List Text) : Decidable (value ∈ values) :=
  List.instDecidableMemOfLawfulBEq value values

/-- The characters of a literal. -/
abbrev text (literal : String) : Text := literal.toList

/-- A text without the spaces at its ends. -/
def btrim (value : Text) : Text :=
  ((value.dropWhile (· = ' ')).reverse.dropWhile (· = ' ')).reverse

def lower (value : Text) : Text :=
  value.map Char.toLower

/-- The length of a text lies between two bounds. -/
def LengthBetween (value : Text) (least most : Nat) : Prop :=
  least ≤ value.length ∧ value.length ≤ most

instance (value : Text) (least most : Nat) : Decidable (LengthBetween value least most) :=
  inferInstanceAs (Decidable (_ ∧ _))

/-- The pattern of a digest in lowercase hexadecimal. -/
def Sha256Text (value : Text) : Prop :=
  value.length = 64 ∧ ∀ letter ∈ value, letter ∈ text "0123456789abcdef"

-- the letters of the text are looked at, not all characters
instance (value : Text) : Decidable (Sha256Text value) :=
  @instDecidableAnd _ _ _ (List.decidableBAll _ value)

/-- A time span in whole seconds, rounded up. -/
def ceilSeconds (span : Int) : Int :=
  -(-span / 1000000)

/-- What verifying the hot ledger answers, and the text of the answer. -/
structure Verification where
  ok : Option Bool
  failureCount : Option Int
  integrityState : Option Text
  checkedEvents : Option Int
  headHash : Option Text
  checkedAt : Option Timestamp
  correctedEventCount : Option Int
  output : List UInt8
  deriving DecidableEq

/-- What the functions read of a ledger event. -/
structure DailEvent where
  sequenceId : Int
  eventHash : Text
  createdAt : Timestamp
  deriving DecidableEq

/-- What a checkpoint receipt commits to.  The first receipt of all stands after
the genesis marker. -/
structure ReceiptObject where
  previousCheckpointReceiptSha256 : Option Id32
  checkpointId : Uuid
  idempotencyKey : Text
  sourceEventCount : Int
  sourceMaxSequenceId : Int
  sourceHeadEventHash : Text
  snapshotCreatedAt : Timestamp
  snapshotManifestSha256 : Text
  snapshotPackageSha256 : Text
  snapshotObjectRef : Text
  snapshotBytes : Int
  storageProvider : Text
  encryptionState : Text
  verifierOutputSha256 : Id32
  hotHeadEventHashAtRecording : Option Text
  recordedBy : Text
  authorityBasis : Text
  recordedAt : Timestamp
  deriving DecidableEq

/-- What the database itself provides: the digest, and the text of a receipt. -/
structure Database where
  sha256 : List UInt8 → Id32
  receiptText : ReceiptObject → List UInt8

/-! ## Rows -/

structure Checkpoint where
  checkpointId : Uuid
  idempotencyKey : Text
  sourceEventCount : Int
  sourceMinSequenceId : Int
  sourceMaxSequenceId : Int
  sourceHeadEventHash : Text
  sourceHeadCreatedAt : Timestamp
  snapshotCreatedAt : Timestamp
  snapshotRpoSeconds : Int
  hotEventCountAtRecording : Int
  hotMaxSequenceIdAtRecording : Int
  hotHeadEventHashAtRecording : Text
  hotIntegrityState : Text
  verificationCheckedAt : Timestamp
  verificationFailureCount : Int
  documentedCorrectionCount : Int
  verifierOutput : Verification
  verifierOutputSha256 : Id32
  snapshotManifestSha256 : Text
  snapshotPackageSha256 : Text
  snapshotObjectRef : Text
  snapshotBytes : Int
  storageProvider : Text
  encryptionState : Text
  custodyVerified : Bool
  readbackVerified : Bool
  restorePathVerified : Bool
  receiptDailEventId : Option Uuid
  recordedBy : Text
  authorityBasis : Text
  recordedAt : Timestamp
  previousCheckpointReceiptSha256 : Option Id32
  checkpointReceiptSha256 : Id32
  deriving DecidableEq

/-- The check flags of a drill that its caller reports. -/
structure DrillChecks where
  manifestHashVerified : Bool
  packageHashVerified : Bool
  componentHashesVerified : Bool
  structuredDataParseVerified : Bool
  restorePathVerified : Bool
  coldRouteExercised : Bool
  hotRouteUnchanged : Bool
  faultInjectionVerified : Bool
  providerExitPathVerified : Bool
  rollbackAndFailbackVerified : Bool
  deriving DecidableEq

def DrillChecks.All (checks : DrillChecks) : Prop :=
  checks.manifestHashVerified ∧ checks.packageHashVerified ∧ checks.componentHashesVerified ∧
    checks.structuredDataParseVerified ∧ checks.restorePathVerified ∧
    checks.coldRouteExercised ∧ checks.hotRouteUnchanged ∧ checks.faultInjectionVerified ∧
    checks.providerExitPathVerified ∧ checks.rollbackAndFailbackVerified

instance (checks : DrillChecks) : Decidable checks.All := by
  unfold DrillChecks.All
  infer_instance

structure Drill extends DrillChecks where
  drillId : Uuid
  idempotencyKey : Text
  checkpointId : Uuid
  testScope : Text
  restoreTargetClass : Text
  restoreEnvironmentRef : Text
  drillStartedAt : Timestamp
  drillCompletedAt : Timestamp
  observedRpoSeconds : Int
  observedRtoSeconds : Int
  restoredEventCount : Option Int
  restoredMaxSequenceId : Option Int
  restoredHeadEventHash : Option Text
  sourceHeadMatch : Bool
  result : Text
  receiptDailEventId : Option Uuid
  recordedBy : Text
  authorityBasis : Text
  recordedAt : Timestamp
  deriving DecidableEq

/-- The rows of both tables in the order of their insertion. -/
structure Tables where
  checkpoints : List Checkpoint
  drills : List Drill

def Tables.empty : Tables := ⟨[], []⟩

/-! ## Constraints -/

inductive SqlError where
  | raised (message : String) (errcode : String)
  | notNullViolation (column : String)
  | checkViolation (constraint : String)
  | uniqueViolation (column : String)
  | foreignKeyViolation (column : String)
  | noDataFound
  deriving DecidableEq

/-- A step of one of the functions. -/
abbrev Sql (α : Type) := Dispatch Tables SqlError α

/-- Raise an exception unless a condition holds. -/
def require (condition : Prop) [Decidable condition] (message errcode : String) : Sql Unit :=
  Dispatch.ensure condition (.raised message errcode)

/-- Raise an exception unless a value is there and meets a condition. -/
def demand {α : Type} (value : Option α) (condition : α → Prop) [DecidablePred condition]
    (message errcode : String) : Sql α :=
  Dispatch.okOr (value.filter fun found => condition found) (.raised message errcode)

/-- A column that must not be null. -/
def notNull {α : Type} (value : Option α) (column : String) : Sql α :=
  Dispatch.okOr value (.notNullViolation column)

/-- A condition on the columns of a row. -/
def check (condition : Prop) [Decidable condition] (constraint : String) : Sql Unit :=
  Dispatch.ensure condition (.checkViolation constraint)

def storageProviders : List Text :=
  [text "google_drive", text "s3", text "gcs", text "azure_blob", text "other_provider_managed"]

def encryptionStates : List Text :=
  [text "provider_managed_at_rest", text "client_managed", text "provider_and_client_managed"]

def integrityStates : List Text :=
  [text "pass", text "pass_with_documented_legacy_correction"]

def testScopes : List Text :=
  [text "metadata_manifest", text "ledger_lineage", text "full_data_restore"]

/-- The constraints of the checkpoint table.  The patterns of the computed digests
hold by their type. -/
def checkCheckpoint (row : Checkpoint) : Sql Unit := do
  check (LengthBetween (btrim row.recordedBy) 1 255 ∧
    LengthBetween (btrim row.authorityBasis) 1 1024) "dail_cold_checkpoint_actor_v1_check"
  check (row.custodyVerified ∧ row.readbackVerified ∧ row.restorePathVerified)
    "dail_cold_checkpoint_certified_readback_v1_check"
  check (row.encryptionState ∈ encryptionStates) "dail_cold_checkpoint_encryption_v1_check"
  check (Sha256Text row.hotHeadEventHashAtRecording)
    "dail_cold_checkpoint_hot_head_hash_v1_check"
  check (row.hotIntegrityState ∈ integrityStates ∧ row.verificationFailureCount = 0 ∧
    0 ≤ row.documentedCorrectionCount) "dail_cold_checkpoint_hot_integrity_v1_check"
  check (LengthBetween (btrim row.idempotencyKey) 8 200)
    "dail_cold_checkpoint_idempotency_key_v1_check"
  check (LengthBetween (btrim row.snapshotObjectRef) 1 1024)
    "dail_cold_checkpoint_object_ref_v1_check"
  check (0 ≤ row.snapshotRpoSeconds) "dail_cold_checkpoint_rpo_v1_check"
  check (0 < row.snapshotBytes) "dail_cold_checkpoint_snapshot_bytes_v1_check"
  check (Sha256Text row.snapshotManifestSha256)
    "dail_cold_checkpoint_snapshot_manifest_hash_v1_check"
  check (Sha256Text row.snapshotPackageSha256)
    "dail_cold_checkpoint_snapshot_package_hash_v1_check"
  check (Sha256Text row.sourceHeadEventHash) "dail_cold_checkpoint_source_head_hash_v1_check"
  check (0 < row.sourceEventCount ∧ 0 < row.sourceMinSequenceId ∧
    row.sourceMinSequenceId ≤ row.sourceMaxSequenceId ∧
    row.sourceEventCount ≤ row.sourceMaxSequenceId ∧
    row.sourceEventCount ≤ row.hotEventCountAtRecording ∧
    row.sourceMaxSequenceId ≤ row.hotMaxSequenceIdAtRecording)
    "dail_cold_checkpoint_source_range_v1_check"
  check (row.storageProvider ∈ storageProviders)
    "dail_cold_checkpoint_storage_provider_v1_check"
  check (row.sourceHeadCreatedAt ≤ row.snapshotCreatedAt)
    "dail_cold_checkpoint_time_order_v1_check"

/-- The constraints of the drill table. -/
def checkDrill (row : Drill) : Sql Unit := do
  check (LengthBetween (btrim row.recordedBy) 1 255 ∧
    LengthBetween (btrim row.authorityBasis) 1 1024) "dail_recovery_drill_actor_v1_check"
  check (LengthBetween (btrim row.restoreEnvironmentRef) 1 1024)
    "dail_recovery_drill_environment_ref_v1_check"
  check (LengthBetween (btrim row.idempotencyKey) 8 200)
    "dail_recovery_drill_idempotency_key_v1_check"
  check (row.restoreTargetClass = text "isolated_non_production")
    "dail_recovery_drill_nonproduction_v1_check"
  check (0 ≤ row.observedRpoSeconds ∧ 0 ≤ row.observedRtoSeconds)
    "dail_recovery_drill_objectives_v1_check"
  check ((∀ count, row.restoredEventCount = some count → 0 ≤ count) ∧
    (∀ sequence, row.restoredMaxSequenceId = some sequence → 0 ≤ sequence) ∧
    ∀ hash, row.restoredHeadEventHash = some hash → Sha256Text hash)
    "dail_recovery_drill_restored_values_v1_check"
  check ((row.result = text "PASS" ∨ row.result = text "FAIL") ∧
    (row.result = text "PASS" ↔ row.sourceHeadMatch ∧ row.All))
    "dail_recovery_drill_result_v1_check"
  check (row.testScope ∈ testScopes) "dail_recovery_drill_scope_v1_check"
  check (row.drillStartedAt ≤ row.drillCompletedAt) "dail_recovery_drill_time_order_v1_check"

end Chlom.Assurance
