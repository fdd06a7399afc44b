import Chlom.Assurance.Tables

/-!
# The functions that record and read the assurance of the ledger

A checkpoint call validates its arguments, waits for the lock of the ledger, and
only then verifies the ledger, chooses the receipt it follows and inserts its row.
What the ledger answers and what the clock and the generator of identifiers
produce are inputs of a call.
-/

namespace Chlom.Assurance

def invalidParameterValue : String := "22023"
def objectNotInPrerequisiteState : String := "55000"
def uniqueViolationCode : String := "23505"

/-- Rows are compared by the computable order of the integers. -/
local instance timePreorder : Preorder Timestamp :=
  Int.instLinearOrder.toPreorder

/-- Five minutes in microseconds. -/
def clockTolerance : Int := 300000000

/-! ## Recording a checkpoint -/

/-- The arguments of a checkpoint call, any of which may be null. -/
structure CheckpointArgs where
  idempotencyKey : Option Text
  sourceEventCount : Option Int
  sourceMaxSequenceId : Option Int
  sourceHeadEventHash : Option Text
  snapshotCreatedAt : Option Timestamp
  snapshotManifestSha256 : Option Text
  snapshotPackageSha256 : Option Text
  snapshotObjectRef : Option Text
  snapshotBytes : Option Int
  storageProvider : Option Text
  encryptionState : Option Text
  custodyVerified : Option Bool
  readbackVerified : Option Bool
  restorePathVerified : Option Bool
  recordedBy : Option Text
  authorityBasis : Option Text
  receiptDailEventId : Option Uuid
  deriving DecidableEq

/-- The arguments as normalised and validated. -/
structure Submission where
  idempotencyKey : Text
  sourceEventCount : Int
  sourceMaxSequenceId : Int
  sourceHeadHash : Text
  snapshotCreatedAt : Timestamp
  manifestHash : Text
  packageHash : Text
  snapshotObjectRef : Text
  snapshotBytes : Int
  storageProvider : Text
  encryptionState : Text
  recordedBy : Text
  authorityBasis : Text
  receiptDailEventId : Option Uuid
  deriving DecidableEq

/-- What a checkpoint call takes from its surroundings: the clock at its
declarations and at its check of the snapshot, a new identifier, and the ledger
and its verification under the lock. -/
structure CheckpointEnv where
  recordedAt : Timestamp
  now : Timestamp
  candidateCheckpointId : Uuid
  verification : Verification
  dailEvents : List DailEvent

/-- Everything before the lock. -/
def validateCheckpoint (now : Timestamp) (args : CheckpointArgs) : Sql Submission := do
  let idempotencyKey ← demand (args.idempotencyKey.map btrim) (LengthBetween · 8 200)
    "invalid idempotency key" invalidParameterValue
  let sourceEventCount ← demand args.sourceEventCount (0 < ·)
    "source event count and max sequence must be positive" invalidParameterValue
  let sourceMaxSequenceId ← demand args.sourceMaxSequenceId (0 < ·)
    "source event count and max sequence must be positive" invalidParameterValue
  let sourceHeadHash ← demand (args.sourceHeadEventHash.map (lower ∘ btrim)) Sha256Text
    "source, manifest, and package hashes must be lowercase SHA-256 values" invalidParameterValue
  let manifestHash ← demand (args.snapshotManifestSha256.map (lower ∘ btrim)) Sha256Text
    "source, manifest, and package hashes must be lowercase SHA-256 values" invalidParameterValue
  let packageHash ← demand (args.snapshotPackageSha256.map (lower ∘ btrim)) Sha256Text
    "source, manifest, and package hashes must be lowercase SHA-256 values" invalidParameterValue
  let snapshotCreatedAt ← demand args.snapshotCreatedAt (· ≤ now + clockTolerance)
    "snapshot creation time is invalid" invalidParameterValue
  let snapshotBytes ← demand args.snapshotBytes (0 < ·)
    "snapshot byte count must be positive" invalidParameterValue
  let storageProvider ← demand args.storageProvider (· ∈ storageProviders)
    "unsupported storage provider" invalidParameterValue
  let encryptionState ← demand args.encryptionState (· ∈ encryptionStates)
    "unsupported encryption state" invalidParameterValue
  require (args.custodyVerified = some true ∧ args.readbackVerified = some true ∧
    args.restorePathVerified = some true)
    "cold checkpoint requires custody, readback, and restore-path verification"
    invalidParameterValue
  let snapshotObjectRef ← demand (args.snapshotObjectRef.map btrim) (LengthBetween · 1 1024)
    "object reference, recorder, or authority basis is invalid" invalidParameterValue
  let recordedBy ← demand (args.recordedBy.map btrim) (LengthBetween · 1 255)
    "object reference, recorder, or authority basis is invalid" invalidParameterValue
  let authorityBasis ← demand (args.authorityBasis.map btrim) (LengthBetween · 1 1024)
    "object reference, recorder, or authority basis is invalid" invalidParameterValue
  pure { idempotencyKey, sourceEventCount, sourceMaxSequenceId, sourceHeadHash,
         snapshotCreatedAt, manifestHash, packageHash, snapshotObjectRef, snapshotBytes,
         storageProvider, encryptionState, recordedBy, authorityBasis,
         receiptDailEventId := args.receiptDailEventId }

/-- The event that ends the hot ledger. -/
def hotHead (events : List DailEvent) : Option DailEvent :=
  events.argmax DailEvent.sequenceId

/-- The checkpoint that the next receipt follows: the one recorded last. -/
def lastRecorded (rows : List Checkpoint) : Option Checkpoint :=
  rows.argmax fun row => toLex (row.recordedAt, row.checkpointId)

/-- The row that a call proposes under the lock. -/
def composeCheckpoint (db : Database) (env : CheckpointEnv) (submission : Submission) :
    Sql Checkpoint := do
  let verification := env.verification
  require (verification.ok.getD false = true ∧ verification.failureCount.getD (-1) = 0)
    "hot DAIL integrity verification did not pass" objectNotInPrerequisiteState
  let sourceHead ← demand (env.dailEvents.find? fun event =>
      event.sequenceId = submission.sourceMaxSequenceId ∧
        event.eventHash = submission.sourceHeadHash) (fun _ => True)
    "snapshot source head is not present in the immutable DAIL chain" invalidParameterValue
  let source := env.dailEvents.filter fun event =>
    event.sequenceId ≤ submission.sourceMaxSequenceId
  require ((source.length : Int) = submission.sourceEventCount)
    "snapshot event count does not match its DAIL source prefix" invalidParameterValue
  let hotHeadEventHash := (hotHead env.dailEvents).map DailEvent.eventHash
  require (verification.checkedEvents.getD (-1) = env.dailEvents.length ∧
    verification.headHash = hotHeadEventHash)
    "hot DAIL readback is internally inconsistent" objectNotInPrerequisiteState
  require (sourceHead.createdAt ≤ submission.snapshotCreatedAt)
    "snapshot predates its declared source head" invalidParameterValue
  let verifierOutputSha256 := db.sha256 verification.output
  let previous ← Dispatch.read fun t =>
    (lastRecorded t.checkpoints).map Checkpoint.checkpointReceiptSha256
  let checkpointReceiptSha256 := db.sha256 (db.receiptText
    { previousCheckpointReceiptSha256 := previous
      checkpointId := env.candidateCheckpointId
      idempotencyKey := submission.idempotencyKey
      sourceEventCount := submission.sourceEventCount
      sourceMaxSequenceId := submission.sourceMaxSequenceId
      sourceHeadEventHash := submission.sourceHeadHash
      snapshotCreatedAt := submission.snapshotCreatedAt
      snapshotManifestSha256 := submission.manifestHash
      snapshotPackageSha256 := submission.packageHash
      snapshotObjectRef := submission.snapshotObjectRef
      snapshotBytes := submission.snapshotBytes
      storageProvider := submission.storageProvider
      encryptionState := submission.encryptionState
      verifierOutputSha256
      hotHeadEventHashAtRecording := hotHeadEventHash
      recordedBy := submission.recordedBy
      authorityBasis := submission.authorityBasis
      recordedAt := env.recordedAt })
  let sourceMin ← notNull (source.map DailEvent.sequenceId).min? "source_min_sequence_id"
  let hotMax ← notNull ((hotHead env.dailEvents).map DailEvent.sequenceId)
    "hot_max_sequence_id_at_recording"
  let hotHash ← notNull hotHeadEventHash "hot_head_event_hash_at_recording"
  let integrityState ← notNull verification.integrityState "hot_integrity_state"
  let checkedAt ← notNull verification.checkedAt "verification_checked_at"
  let failureCount ← notNull verification.failureCount "verification_failure_count"
  pure { checkpointId := env.candidateCheckpointId
         idempotencyKey := submission.idempotencyKey
         sourceEventCount := submission.sourceEventCount
         sourceMinSequenceId := sourceMin
         sourceMaxSequenceId := submission.sourceMaxSequenceId
         sourceHeadEventHash := submission.sourceHeadHash
         sourceHeadCreatedAt := sourceHead.createdAt
         snapshotCreatedAt := submission.snapshotCreatedAt
         snapshotRpoSeconds := ceilSeconds (submission.snapshotCreatedAt - sourceHead.createdAt)
         hotEventCountAtRecording := env.dailEvents.length
         hotMaxSequenceIdAtRecording := hotMax
         hotHeadEventHashAtRecording := hotHash
         hotIntegrityState := integrityState
         verificationCheckedAt := checkedAt
         verificationFailureCount := failureCount
         documentedCorrectionCount := verification.correctedEventCount.getD 0
         verifierOutput := verification
         verifierOutputSha256
         snapshotManifestSha256 := submission.manifestHash
         snapshotPackageSha256 := submission.packageHash
         snapshotObjectRef := submission.snapshotObjectRef
         snapshotBytes := submission.snapshotBytes
         storageProvider := submission.storageProvider
         encryptionState := submission.encryptionState
         custodyVerified := true
         readbackVerified := true
         restorePathVerified := true
         receiptDailEventId := submission.receiptDailEventId
         recordedBy := submission.recordedBy
         authorityBasis := submission.authorityBasis
         recordedAt := env.recordedAt
         previousCheckpointReceiptSha256 := previous
         checkpointReceiptSha256 }

/-- Insert a row unless its key is taken, and tell whether it was inserted. -/
def insertCheckpoint (row : Checkpoint) : Sql Bool := do
  checkCheckpoint row
  let rows ← Dispatch.read Tables.checkpoints
  if ∃ other ∈ rows, other.idempotencyKey = row.idempotencyKey then
    pure false
  else do
    Dispatch.ensure (∀ other ∈ rows, other.checkpointId ≠ row.checkpointId)
      (.uniqueViolation "checkpoint_id")
    Dispatch.ensure (∀ other ∈ rows, other.checkpointReceiptSha256 ≠ row.checkpointReceiptSha256)
      (.uniqueViolation "checkpoint_receipt_sha256")
    Dispatch.ensure (∀ receipt, row.previousCheckpointReceiptSha256 = some receipt →
      ∃ other ∈ rows ++ [row], other.checkpointReceiptSha256 = receipt)
      (.foreignKeyViolation "previous_checkpoint_receipt_sha256")
    Dispatch.write fun t => { t with checkpoints := t.checkpoints ++ [row] }
    pure true

/-- A stored checkpoint holds what was submitted. -/
def Checkpoint.Matches (existing : Checkpoint) (submission : Submission) : Prop :=
  existing.sourceEventCount = submission.sourceEventCount ∧
    existing.sourceMaxSequenceId = submission.sourceMaxSequenceId ∧
    existing.sourceHeadEventHash = submission.sourceHeadHash ∧
    existing.snapshotCreatedAt = submission.snapshotCreatedAt ∧
    existing.snapshotManifestSha256 = submission.manifestHash ∧
    existing.snapshotPackageSha256 = submission.packageHash ∧
    existing.snapshotObjectRef = submission.snapshotObjectRef ∧
    existing.snapshotBytes = submission.snapshotBytes ∧
    existing.storageProvider = submission.storageProvider ∧
    existing.encryptionState = submission.encryptionState ∧
    existing.receiptDailEventId = submission.receiptDailEventId ∧
    existing.recordedBy = submission.recordedBy ∧
    existing.authorityBasis = submission.authorityBasis

instance (existing : Checkpoint) (submission : Submission) :
    Decidable (existing.Matches submission) := by
  unfold Checkpoint.Matches
  infer_instance

structure CheckpointReply where
  checkpointId : Uuid
  route : String := "cold_recovery"
  state : String := "CHECKPOINT_CUSTODY_VERIFIED"
  sourceEventCount : Int
  sourceMaxSequenceId : Int
  sourceHeadEventHash : Text
  hotIntegrityState : Option Text
  snapshotRpoSeconds : Int
  verifierOutputSha256 : Id32
  previousCheckpointReceiptSha256 : Option Id32
  checkpointReceiptSha256 : Id32
  phase4Activation : Bool := false
  deriving DecidableEq

/-- The row of the call: the one it inserted, or the one stored under its key. -/
def storedCheckpoint (submission : Submission) (row : Checkpoint) : Sql Checkpoint := do
  if ← insertCheckpoint row then
    pure row
  else do
    let existing ← Dispatch.okOr (← Dispatch.read fun t => t.checkpoints.find? fun other =>
      other.idempotencyKey = submission.idempotencyKey) .noDataFound
    require (existing.Matches submission) "idempotency key collision for DAIL cold checkpoint"
      uniqueViolationCode
    pure existing

/-- The answer of a call whose row is stored.  The state of the hot ledger is the
present one. -/
def checkpointReply (env : CheckpointEnv) (submission : Submission) (stored : Checkpoint) :
    CheckpointReply where
  checkpointId := stored.checkpointId
  sourceEventCount := submission.sourceEventCount
  sourceMaxSequenceId := submission.sourceMaxSequenceId
  sourceHeadEventHash := submission.sourceHeadHash
  hotIntegrityState := env.verification.integrityState
  snapshotRpoSeconds := stored.snapshotRpoSeconds
  verifierOutputSha256 := stored.verifierOutputSha256
  previousCheckpointReceiptSha256 := stored.previousCheckpointReceiptSha256
  checkpointReceiptSha256 := stored.checkpointReceiptSha256

def recordDailColdCheckpointV1 (db : Database) (env : CheckpointEnv) (args : CheckpointArgs) :
    Sql CheckpointReply := do
  let submission ← validateCheckpoint env.now args
  let row ← composeCheckpoint db env submission
  let stored ← storedCheckpoint submission row
  pure (checkpointReply env submission stored)

/-! ## Recording a drill -/

/-- The arguments of a drill call, any of which may be null. -/
structure DrillArgs where
  idempotencyKey : Option Text
  checkpointId : Option Uuid
  testScope : Option Text
  restoreTargetClass : Option Text
  restoreEnvironmentRef : Option Text
  drillStartedAt : Option Timestamp
  drillCompletedAt : Option Timestamp
  restoredEventCount : Option Int
  restoredMaxSequenceId : Option Int
  restoredHeadEventHash : Option Text
  manifestHashVerified : Option Bool
  packageHashVerified : Option Bool
  componentHashesVerified : Option Bool
  structuredDataParseVerified : Option Bool
  restorePathVerified : Option Bool
  coldRouteExercised : Option Bool
  hotRouteUnchanged : Option Bool
  faultInjectionVerified : Option Bool
  providerExitPathVerified : Option Bool
  rollbackAndFailbackVerified : Option Bool
  recordedBy : Option Text
  authorityBasis : Option Text
  receiptDailEventId : Option Uuid
  deriving DecidableEq

/-- The check flags, of which an absent one counts as not verified. -/
def DrillArgs.checks (args : DrillArgs) : DrillChecks where
  manifestHashVerified := args.manifestHashVerified.getD false
  packageHashVerified := args.packageHashVerified.getD false
  componentHashesVerified := args.componentHashesVerified.getD false
  structuredDataParseVerified := args.structuredDataParseVerified.getD false
  restorePathVerified := args.restorePathVerified.getD false
  coldRouteExercised := args.coldRouteExercised.getD false
  hotRouteUnchanged := args.hotRouteUnchanged.getD false
  faultInjectionVerified := args.faultInjectionVerified.getD false
  providerExitPathVerified := args.providerExitPathVerified.getD false
  rollbackAndFailbackVerified := args.rollbackAndFailbackVerified.getD false

/-- The clock at the check of the times, a new identifier, and the clock at the insertion. -/
structure DrillEnv where
  now : Timestamp
  drillId : Uuid
  recordedAt : Timestamp

/-- The row that a drill call proposes. -/
def composeDrill (env : DrillEnv) (args : DrillArgs) : Sql Drill := do
  let idempotencyKey ← demand (args.idempotencyKey.map btrim) (LengthBetween · 8 200)
    "invalid idempotency key" invalidParameterValue
  let checkpointId ← demand args.checkpointId (fun _ => True)
    "checkpoint id is required" invalidParameterValue
  -- an absent scope passes here and is refused by its column
  require (∀ scope, args.testScope = some scope → scope ∈ testScopes)
    "unsupported recovery test scope" invalidParameterValue
  let restoreTargetClass ← demand args.restoreTargetClass (· = text "isolated_non_production")
    "recovery drills must use an isolated non-production target" invalidParameterValue
  let restoreEnvironmentRef ← demand (args.restoreEnvironmentRef.map btrim)
    (LengthBetween · 1 1024) "restore environment reference is invalid" invalidParameterValue
  let drillStartedAt ← demand args.drillStartedAt (fun _ => True)
    "recovery drill timestamps are invalid" invalidParameterValue
  let drillCompletedAt ← demand args.drillCompletedAt
    (fun completed => drillStartedAt ≤ completed ∧ completed ≤ env.now + clockTolerance)
    "recovery drill timestamps are invalid" invalidParameterValue
  require ((∀ count, args.restoredEventCount = some count → 0 ≤ count) ∧
    ∀ sequence, args.restoredMaxSequenceId = some sequence → 0 ≤ sequence)
    "restored counts cannot be negative" invalidParameterValue
  let restoredHeadEventHash := args.restoredHeadEventHash.map (lower ∘ btrim)
  require (∀ hash, restoredHeadEventHash = some hash → Sha256Text hash)
    "restored head hash must be a lowercase SHA-256 value" invalidParameterValue
  let recordedBy ← demand (args.recordedBy.map btrim) (LengthBetween · 1 255)
    "recorder or authority basis is invalid" invalidParameterValue
  let authorityBasis ← demand (args.authorityBasis.map btrim) (LengthBetween · 1 1024)
    "recorder or authority basis is invalid" invalidParameterValue
  let checkpoint ← Dispatch.okOr (← Dispatch.read fun t => t.checkpoints.find? fun row =>
    row.checkpointId = checkpointId) .noDataFound
  require (checkpoint.snapshotCreatedAt ≤ drillStartedAt)
    "recovery drill cannot predate the checkpoint snapshot" invalidParameterValue
  let sourceHeadMatch := decide (args.restoredEventCount = some checkpoint.sourceEventCount ∧
    args.restoredMaxSequenceId = some checkpoint.sourceMaxSequenceId ∧
    restoredHeadEventHash = some checkpoint.sourceHeadEventHash)
  let testScope ← notNull args.testScope "test_scope"
  pure { args.checks with
         drillId := env.drillId
         idempotencyKey
         checkpointId
         testScope
         restoreTargetClass
         restoreEnvironmentRef
         drillStartedAt
         drillCompletedAt
         observedRpoSeconds := ceilSeconds (drillStartedAt - checkpoint.sourceHeadCreatedAt)
         observedRtoSeconds := ceilSeconds (drillCompletedAt - drillStartedAt)
         restoredEventCount := args.restoredEventCount
         restoredMaxSequenceId := args.restoredMaxSequenceId
         restoredHeadEventHash
         sourceHeadMatch
         result := if sourceHeadMatch ∧ args.checks.All then text "PASS" else text "FAIL"
         receiptDailEventId := args.receiptDailEventId
         recordedBy
         authorityBasis
         recordedAt := env.recordedAt }

/-- Insert a row unless its key is taken, and tell whether it was inserted. -/
def insertDrill (row : Drill) : Sql Bool := do
  checkDrill row
  let rows ← Dispatch.read Tables.drills
  if ∃ other ∈ rows, other.idempotencyKey = row.idempotencyKey then
    pure false
  else do
    Dispatch.ensure (∀ other ∈ rows, other.drillId ≠ row.drillId) (.uniqueViolation "drill_id")
    Dispatch.write fun t => { t with drills := t.drills ++ [row] }
    pure true

/-- A stored drill holds what another row of its key proposes. -/
def Drill.Matches (existing row : Drill) : Prop :=
  existing.checkpointId = row.checkpointId ∧ existing.testScope = row.testScope ∧
    existing.restoreEnvironmentRef = row.restoreEnvironmentRef ∧
    existing.drillStartedAt = row.drillStartedAt ∧
    existing.drillCompletedAt = row.drillCompletedAt ∧
    existing.restoredEventCount = row.restoredEventCount ∧
    existing.restoredMaxSequenceId = row.restoredMaxSequenceId ∧
    existing.restoredHeadEventHash = row.restoredHeadEventHash ∧
    existing.toDrillChecks = row.toDrillChecks ∧
    existing.receiptDailEventId = row.receiptDailEventId ∧
    existing.recordedBy = row.recordedBy ∧ existing.authorityBasis = row.authorityBasis ∧
    existing.result = row.result

instance (existing row : Drill) : Decidable (existing.Matches row) := by
  unfold Drill.Matches
  infer_instance

structure DrillReply where
  drillId : Uuid
  checkpointId : Uuid
  route : String := "cold_recovery"
  testScope : Text
  result : Text
  observedRpoSeconds : Int
  observedRtoSeconds : Int
  sourceHeadMatch : Bool
  phase4Activation : Bool := false
  deriving DecidableEq

/-- The row of the call: the one it inserted, or the one stored under its key. -/
def storedDrill (row : Drill) : Sql Drill := do
  if ← insertDrill row then
    pure row
  else do
    let existing ← Dispatch.okOr (← Dispatch.read fun t => t.drills.find? fun other =>
      other.idempotencyKey = row.idempotencyKey) .noDataFound
    require (existing.Matches row) "idempotency key collision for DAIL recovery drill"
      uniqueViolationCode
    pure existing

/-- The answer of a call whose row is stored. -/
def drillReply (row stored : Drill) : DrillReply where
  drillId := stored.drillId
  checkpointId := row.checkpointId
  testScope := row.testScope
  result := stored.result
  observedRpoSeconds := stored.observedRpoSeconds
  observedRtoSeconds := stored.observedRtoSeconds
  sourceHeadMatch := stored.sourceHeadMatch

def recordDailRecoveryDrillV1 (env : DrillEnv) (args : DrillArgs) : Sql DrillReply := do
  let row ← composeDrill env args
  let stored ← storedDrill row
  pure (drillReply row stored)

/-! ## Reading the assurance status -/

inductive ColdState where
  | holdNoCheckpoint | holdStaleCheckpoint | holdLatestCheckpointUntested
  | fullDataRecoveryVerified | ledgerLineageRecoveryVerified | metadataRecoveryVerified
  deriving DecidableEq, Repr

inductive AssuranceState where
  | hold | holdHotRoute | boundedColdAssuranceOnly | readyForIndependentPhase4Readback
  deriving DecidableEq, Repr

structure HotRoute where
  pass : Bool
  integrityState : Option Text
  checkedEvents : Option Int
  headHash : Option Text
  checkedAt : Option Timestamp
  deriving DecidableEq

structure ColdRoute where
  state : ColdState
  checkpointId : Uuid
  sourceEventCount : Int
  sourceMaxSequenceId : Int
  sourceHeadEventHash : Text
  checkpointReceiptSha256 : Id32
  snapshotCreatedAt : Timestamp
  checkpointAgeSeconds : Int
  snapshotRpoSeconds : Int
  lastPassingDrillId : Option Uuid
  lastPassingTestScope : Option Text
  lastPassingDrillCompletedAt : Option Timestamp
  lastPassingDrillRpoSeconds : Option Int
  lastPassingDrillRtoSeconds : Option Int
  deriving DecidableEq

/-- The status; its cold route has no details without a checkpoint. -/
structure AssuranceStatus where
  hotRoute : HotRoute
  coldState : ColdState
  coldRoute : Option ColdRoute
  componentPhase4AssuranceState : AssuranceState
  institutionalPhase4Activation : Bool := false
  deriving DecidableEq

/-- The checkpoint of the latest snapshot. -/
def latestSnapshot (rows : List Checkpoint) : Option Checkpoint :=
  rows.argmax fun row => toLex (row.snapshotCreatedAt, row.recordedAt)

/-- The passing drill of a checkpoint that was completed last. -/
def lastPassingDrill (rows : List Drill) (checkpointId : Uuid) : Option Drill :=
  (rows.filter fun row => row.checkpointId = checkpointId ∧ row.result = text "PASS").argmax
    Drill.drillCompletedAt

def testedState (testScope : Text) : ColdState :=
  if testScope = text "full_data_restore" then .fullDataRecoveryVerified
  else if testScope = text "ledger_lineage" then .ledgerLineageRecoveryVerified
  else .metadataRecoveryVerified

def assuranceState (hotPass : Bool) (coldState : ColdState) : AssuranceState :=
  if ¬ hotPass then .holdHotRoute
  else match coldState with
    | .fullDataRecoveryVerified => .readyForIndependentPhase4Readback
    | .ledgerLineageRecoveryVerified | .metadataRecoveryVerified => .boundedColdAssuranceOnly
    | _ => .hold

/-- The verification and the clock are those of the call. -/
def readDailPhase4AssuranceStatusV1 (verification : Verification) (now : Timestamp)
    (maxCheckpointAgeSeconds : Option Int) : Sql AssuranceStatus := do
  let threshold ← demand maxCheckpointAgeSeconds (fun age => 0 < age ∧ age ≤ 604800)
    "checkpoint age threshold must be between 1 and 604800 seconds" invalidParameterValue
  let hotPass := decide (verification.ok.getD false = true ∧
    verification.failureCount.getD (-1) = 0)
  let hotRoute : HotRoute :=
    { pass := hotPass
      integrityState := verification.integrityState
      checkedEvents := verification.checkedEvents
      headHash := verification.headHash
      checkedAt := verification.checkedAt }
  match ← Dispatch.read fun t => latestSnapshot t.checkpoints with
  | none =>
      pure { hotRoute
             coldState := .holdNoCheckpoint
             coldRoute := none
             componentPhase4AssuranceState := .hold }
  | some checkpoint => do
      let age := max 0 (ceilSeconds (now - checkpoint.snapshotCreatedAt))
      let drill ← Dispatch.read fun t => lastPassingDrill t.drills checkpoint.checkpointId
      let coldState :=
        if threshold < age then .holdStaleCheckpoint
        else match drill with
          | none => .holdLatestCheckpointUntested
          | some found => testedState found.testScope
      pure { hotRoute
             coldState
             coldRoute := some
               { state := coldState
                 checkpointId := checkpoint.checkpointId
                 sourceEventCount := checkpoint.sourceEventCount
                 sourceMaxSequenceId := checkpoint.sourceMaxSequenceId
                 sourceHeadEventHash := checkpoint.sourceHeadEventHash
                 checkpointReceiptSha256 := checkpoint.checkpointReceiptSha256
                 snapshotCreatedAt := checkpoint.snapshotCreatedAt
                 checkpointAgeSeconds := age
                 snapshotRpoSeconds := checkpoint.snapshotRpoSeconds
                 lastPassingDrillId := drill.map Drill.drillId
                 lastPassingTestScope := drill.map Drill.testScope
                 lastPassingDrillCompletedAt := drill.map Drill.drillCompletedAt
                 lastPassingDrillRpoSeconds := drill.map Drill.observedRpoSeconds
                 lastPassingDrillRtoSeconds := drill.map Drill.observedRtoSeconds }
             componentPhase4AssuranceState := assuranceState hotPass coldState }

/-! ## Sample values -/

namespace Sample

def hash (letter : Char) : Text := List.replicate 64 letter

def verification : Verification where
  ok := some true
  failureCount := some 0
  integrityState := some (text "pass")
  checkedEvents := some 1
  headHash := some (hash 'a')
  checkedAt := some 0
  correctedEventCount := some 0
  output := []

def dailEvents : List DailEvent := [⟨1, hash 'a', 0⟩]

def args (idempotencyKey : String) : CheckpointArgs where
  idempotencyKey := some (text idempotencyKey)
  sourceEventCount := some 1
  sourceMaxSequenceId := some 1
  sourceHeadEventHash := some (hash 'a')
  snapshotCreatedAt := some 0
  snapshotManifestSha256 := some (hash 'b')
  snapshotPackageSha256 := some (hash 'c')
  snapshotObjectRef := some (text "ref")
  snapshotBytes := some 1
  storageProvider := some (text "s3")
  encryptionState := some (text "client_managed")
  custodyVerified := some true
  readbackVerified := some true
  restorePathVerified := some true
  recordedBy := some (text "operator")
  authorityBasis := some (text "policy")
  receiptDailEventId := none

/-- Receipts that differ as the clock readings do. -/
def database : Database where
  sha256 bytes := Id32.repeated (bytes.headD 0)
  receiptText object := [UInt8.ofNat object.recordedAt.toNat]

end Sample

end Chlom.Assurance
