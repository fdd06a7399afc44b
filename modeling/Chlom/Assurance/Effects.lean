import Chlom.Assurance.Functions

/-!
# What a successful call of the assurance functions does

A recording call changes nothing before its insertion, and an insertion appends one
row or finds its key taken.  Each lemma says what the success of one step of a
function establishes.
-/

namespace Chlom.Assurance

section Sql

variable {α β : Type} {t t' : Tables} {result : β}

@[simp]
theorem demand_bind_ok {value : Option α} {condition : α → Prop} [DecidablePred condition]
    {message errcode : String} {next : α → Sql β} :
    (demand value condition message errcode >>= next) t = .ok result t' ↔
      ∃ found, value = some found ∧ condition found ∧ next found t = .ok result t' := by
  rw [demand, Dispatch.okOr_bind_ok]
  simp only [Option.filter_eq_some_iff, decide_eq_true_eq, and_assoc]

@[simp]
theorem require_bind_ok {condition : Prop} [Decidable condition] {message errcode : String}
    {next : Unit → Sql β} :
    (require condition message errcode >>= next) t = .ok result t' ↔
      condition ∧ next () t = .ok result t' :=
  Dispatch.ensure_bind_ok

@[simp]
theorem notNull_bind_ok {value : Option α} {column : String} {next : α → Sql β} :
    (notNull value column >>= next) t = .ok result t' ↔
      ∃ found, value = some found ∧ next found t = .ok result t' :=
  Dispatch.okOr_bind_ok

@[simp]
theorem check_bind_ok {condition : Prop} [Decidable condition] {constraint : String}
    {next : Unit → Sql β} :
    (check condition constraint >>= next) t = .ok result t' ↔
      condition ∧ next () t = .ok result t' :=
  Dispatch.ensure_bind_ok

theorem check_readOnly (condition : Prop) [Decidable condition] (constraint : String) :
    Dispatch.ReadOnly (check condition constraint) :=
  .ensure _ _

end Sql

variable {t t' : Tables}

/-! ## Checkpoints -/

/-- The arguments of a call normalise to a submission. -/
structure Submits (args : CheckpointArgs) (submission : Submission) : Prop where
  idempotencyKey : args.idempotencyKey.map btrim = some submission.idempotencyKey
  sourceEventCount : args.sourceEventCount = some submission.sourceEventCount
  sourceMaxSequenceId : args.sourceMaxSequenceId = some submission.sourceMaxSequenceId
  sourceHeadHash : args.sourceHeadEventHash.map (lower ∘ btrim) = some submission.sourceHeadHash
  snapshotCreatedAt : args.snapshotCreatedAt = some submission.snapshotCreatedAt
  manifestHash : args.snapshotManifestSha256.map (lower ∘ btrim) = some submission.manifestHash
  packageHash : args.snapshotPackageSha256.map (lower ∘ btrim) = some submission.packageHash
  snapshotObjectRef : args.snapshotObjectRef.map btrim = some submission.snapshotObjectRef
  snapshotBytes : args.snapshotBytes = some submission.snapshotBytes
  storageProvider : args.storageProvider = some submission.storageProvider
  encryptionState : args.encryptionState = some submission.encryptionState
  verified : args.custodyVerified = some true ∧ args.readbackVerified = some true ∧
    args.restorePathVerified = some true
  recordedBy : args.recordedBy.map btrim = some submission.recordedBy
  authorityBasis : args.authorityBasis.map btrim = some submission.authorityBasis
  receiptDailEventId : args.receiptDailEventId = submission.receiptDailEventId

theorem validateCheckpoint_ok {now : Timestamp} {args : CheckpointArgs} {submission : Submission}
    (done : validateCheckpoint now args t = .ok submission t') :
    t' = t ∧ Submits args submission := by
  simp only [validateCheckpoint, demand_bind_ok, require_bind_ok, Dispatch.pure_apply] at done
  obtain ⟨key, keyEq, _, count, countEq, _, sequence, sequenceEq, _, head, headEq, _, manifest,
    manifestEq, _, package, packageEq, _, created, createdEq, _, bytes, bytesEq, _, provider,
    providerEq, _, encryption, encryptionEq, _, verified, object, objectEq, _, recorder,
    recorderEq, _, basis, basisEq, _, done⟩ := done
  obtain ⟨rfl, rfl⟩ := EStateM.Result.ok.inj done
  exact ⟨rfl, keyEq, countEq, sequenceEq, headEq, createdEq, manifestEq, packageEq, objectEq,
    bytesEq, providerEq, encryptionEq, verified, recorderEq, basisEq, rfl⟩

/-- What is known of a proposed row. -/
structure Proposed (rows : List Checkpoint) (env : CheckpointEnv) (submission : Submission)
    (row : Checkpoint) : Prop where
  checkpointId : row.checkpointId = env.candidateCheckpointId
  idempotencyKey : row.idempotencyKey = submission.idempotencyKey
  holds : row.Matches submission
  recordedAt : row.recordedAt = env.recordedAt
  integrityState : env.verification.integrityState = some row.hotIntegrityState
  previous : row.previousCheckpointReceiptSha256 =
    (lastRecorded rows).map Checkpoint.checkpointReceiptSha256

theorem composeCheckpoint_ok {db : Database} {env : CheckpointEnv} {submission : Submission}
    {row : Checkpoint} (done : composeCheckpoint db env submission t = .ok row t') :
    t' = t ∧ Proposed t.checkpoints env submission row := by
  simp only [composeCheckpoint, demand_bind_ok, require_bind_ok, notNull_bind_ok,
    Dispatch.read_bind, Dispatch.pure_apply] at done
  obtain ⟨_, head, _, _, _, _, _, sourceMin, _, hotMax, _, hotHash, _, state, stateEq, checkedAt,
    _, failures, _, done⟩ := done
  obtain ⟨rfl, rfl⟩ := EStateM.Result.ok.inj done
  exact ⟨rfl, rfl, rfl, by simp [Checkpoint.Matches], rfl, stateEq, rfl⟩

/-- What an insertion does: it appends a row that is new in every respect, or finds
its key taken. -/
inductive Inserts (t : Tables) (row : Checkpoint) : Bool → Tables → Prop
  | new (key : ∀ other ∈ t.checkpoints, other.idempotencyKey ≠ row.idempotencyKey)
      (id : ∀ other ∈ t.checkpoints, other.checkpointId ≠ row.checkpointId)
      (receipt : ∀ other ∈ t.checkpoints,
        other.checkpointReceiptSha256 ≠ row.checkpointReceiptSha256) :
      Inserts t row true { t with checkpoints := t.checkpoints ++ [row] }
  | taken (other : Checkpoint) (present : other ∈ t.checkpoints)
      (key : other.idempotencyKey = row.idempotencyKey) : Inserts t row false t

theorem checkCheckpoint_readOnly (row : Checkpoint) :
    Dispatch.ReadOnly (checkCheckpoint row) := by
  unfold checkCheckpoint
  repeat refine @Dispatch.ReadOnly.bind _ _ _ _ _ _ (check_readOnly _ _) fun _ => ?_
  exact check_readOnly _ _

theorem insertCheckpoint_ok {row : Checkpoint} {inserted : Bool}
    (done : insertCheckpoint row t = .ok inserted t') : Inserts t row inserted t' := by
  have readOnly := checkCheckpoint_readOnly row
  rw [insertCheckpoint, Dispatch.ReadOnly.bind_ok, Dispatch.read_bind] at done
  obtain ⟨_, done⟩ := done
  split at done
  · next taken =>
      obtain ⟨rfl, rfl⟩ := EStateM.Result.ok.inj done
      obtain ⟨other, present, key⟩ := taken
      exact .taken other present key
  · next free =>
      simp only [Dispatch.ensure_bind_ok, Dispatch.write_bind, Dispatch.pure_apply] at done
      obtain ⟨id, receipt, _, done⟩ := done
      obtain ⟨rfl, rfl⟩ := EStateM.Result.ok.inj done
      exact .new (fun other present key => free ⟨other, present, key⟩) id receipt

/-- The row of a successful call: a new one that was appended, or the one stored
under the key, which holds what was submitted. -/
inductive Stores (t : Tables) (submission : Submission) (row : Checkpoint) :
    Checkpoint → Tables → Prop
  | new (key : ∀ other ∈ t.checkpoints, other.idempotencyKey ≠ row.idempotencyKey)
      (id : ∀ other ∈ t.checkpoints, other.checkpointId ≠ row.checkpointId)
      (receipt : ∀ other ∈ t.checkpoints,
        other.checkpointReceiptSha256 ≠ row.checkpointReceiptSha256) :
      Stores t submission row row { t with checkpoints := t.checkpoints ++ [row] }
  | replay (existing : Checkpoint)
      (found : t.checkpoints.find? (fun other => other.idempotencyKey =
        submission.idempotencyKey) = some existing)
      (holds : existing.Matches submission) : Stores t submission row existing t

theorem storedCheckpoint_ok {submission : Submission} {row stored : Checkpoint}
    (done : storedCheckpoint submission row t = .ok stored t') :
    Stores t submission row stored t' := by
  rw [storedCheckpoint, Dispatch.bind_ok] at done
  obtain ⟨inserted, middle, inserting, done⟩ := done
  cases insertCheckpoint_ok inserting with
  | new key id receipt =>
      obtain ⟨rfl, rfl⟩ := EStateM.Result.ok.inj done
      exact .new key id receipt
  | taken other present key =>
      simp only [Bool.false_eq_true, if_false, Dispatch.read_bind, Dispatch.okOr_bind_ok,
        require_bind_ok, Dispatch.pure_apply] at done
      obtain ⟨existing, found, holds, done⟩ := done
      obtain ⟨rfl, rfl⟩ := EStateM.Result.ok.inj done
      exact .replay existing found holds

/-- What a successful checkpoint call has validated, proposed, stored and answered. -/
theorem recordDailColdCheckpointV1_ok {db : Database} {env : CheckpointEnv}
    {args : CheckpointArgs} {reply : CheckpointReply}
    (done : recordDailColdCheckpointV1 db env args t = .ok reply t') :
    ∃ submission row stored, Submits args submission ∧
      Proposed t.checkpoints env submission row ∧ Stores t submission row stored t' ∧
      reply = checkpointReply env submission stored := by
  simp only [recordDailColdCheckpointV1, Dispatch.bind_ok, Dispatch.pure_apply] at done
  obtain ⟨submission, _, validated, row, _, composed, stored, _, storing, done⟩ := done
  obtain ⟨rfl, submits⟩ := validateCheckpoint_ok validated
  obtain ⟨rfl, proposed⟩ := composeCheckpoint_ok composed
  obtain ⟨rfl, rfl⟩ := EStateM.Result.ok.inj done
  exact ⟨submission, row, stored, submits, proposed, storedCheckpoint_ok storing, rfl⟩

/-! ## Drills -/

/-- The arguments of a call normalise to what a row reports. -/
structure Reports (args : DrillArgs) (row : Drill) : Prop where
  idempotencyKey : args.idempotencyKey.map btrim = some row.idempotencyKey
  checkpointId : args.checkpointId = some row.checkpointId
  testScope : args.testScope = some row.testScope
  restoreTargetClass : args.restoreTargetClass = some row.restoreTargetClass
  restoreEnvironmentRef : args.restoreEnvironmentRef.map btrim = some row.restoreEnvironmentRef
  drillStartedAt : args.drillStartedAt = some row.drillStartedAt
  drillCompletedAt : args.drillCompletedAt = some row.drillCompletedAt
  restoredEventCount : args.restoredEventCount = row.restoredEventCount
  restoredMaxSequenceId : args.restoredMaxSequenceId = row.restoredMaxSequenceId
  restoredHeadEventHash : args.restoredHeadEventHash.map (lower ∘ btrim) =
    row.restoredHeadEventHash
  checks : args.checks = row.toDrillChecks
  recordedBy : args.recordedBy.map btrim = some row.recordedBy
  authorityBasis : args.authorityBasis.map btrim = some row.authorityBasis
  receiptDailEventId : args.receiptDailEventId = row.receiptDailEventId

/-- A drill is of a stored checkpoint, and passed only if it restored exactly what
the checkpoint holds and every check was made. -/
def Backed (rows : List Checkpoint) (drill : Drill) : Prop :=
  ∃ checkpoint ∈ rows, checkpoint.checkpointId = drill.checkpointId ∧
    (drill.result = text "PASS" → drill.sourceHeadMatch = true ∧ drill.All ∧
      drill.restoredEventCount = some checkpoint.sourceEventCount ∧
      drill.restoredMaxSequenceId = some checkpoint.sourceMaxSequenceId ∧
      drill.restoredHeadEventHash = some checkpoint.sourceHeadEventHash)

theorem composeDrill_ok {env : DrillEnv} {args : DrillArgs} {row : Drill}
    (done : composeDrill env args t = .ok row t') :
    t' = t ∧ Reports args row ∧ Backed t.checkpoints row := by
  simp only [composeDrill, demand_bind_ok, require_bind_ok, notNull_bind_ok, Dispatch.read_bind,
    Dispatch.okOr_bind_ok, Dispatch.pure_apply] at done
  obtain ⟨key, keyEq, _, checkpointId, checkpointEq, _, _, target, targetEq, _, environment,
    environmentEq, _, started, startedEq, _, completed, completedEq, _, _, _, recorder,
    recorderEq, _, basis, basisEq, _, checkpoint, found, _, scope, scopeEq, done⟩ := done
  obtain ⟨rfl, rfl⟩ := EStateM.Result.ok.inj done
  have named : checkpoint.checkpointId = checkpointId := by simpa using List.find?_some found
  refine ⟨rfl, ⟨keyEq, checkpointEq, scopeEq, targetEq, environmentEq, startedEq, completedEq,
    rfl, rfl, rfl, rfl, recorderEq, basisEq, rfl⟩, checkpoint, List.mem_of_find?_eq_some found,
    named, fun passed => ?_⟩
  have differ : text "FAIL" ≠ text "PASS" := by decide
  by_cases all : decide (args.restoredEventCount = some checkpoint.sourceEventCount ∧
      args.restoredMaxSequenceId = some checkpoint.sourceMaxSequenceId ∧
      args.restoredHeadEventHash.map (lower ∘ btrim) = some checkpoint.sourceHeadEventHash) =
      true ∧ args.checks.All
  · obtain ⟨matched, checks⟩ := all
    exact ⟨matched, checks, of_decide_eq_true matched⟩
  · exact absurd ((if_neg all).symm.trans passed) differ

theorem checkDrill_readOnly (row : Drill) : Dispatch.ReadOnly (checkDrill row) := by
  unfold checkDrill
  repeat refine @Dispatch.ReadOnly.bind _ _ _ _ _ _ (check_readOnly _ _) fun _ => ?_
  exact check_readOnly _ _

/-- The row of a successful call: a new one that was appended, or the one stored
under the key, which reports the same. -/
inductive StoresDrill (t : Tables) (row : Drill) : Drill → Tables → Prop
  | new (key : ∀ other ∈ t.drills, other.idempotencyKey ≠ row.idempotencyKey) :
      StoresDrill t row row { t with drills := t.drills ++ [row] }
  | replay (existing : Drill)
      (found : t.drills.find? (fun other => other.idempotencyKey = row.idempotencyKey) =
        some existing)
      (holds : existing.Matches row) : StoresDrill t row existing t

theorem storedDrill_ok {row stored : Drill} (done : storedDrill row t = .ok stored t') :
    StoresDrill t row stored t' := by
  have readOnly := checkDrill_readOnly row
  rw [storedDrill, insertDrill, bind_assoc, Dispatch.ReadOnly.bind_ok, bind_assoc,
    Dispatch.read_bind] at done
  obtain ⟨_, done⟩ := done
  split at done
  · simp only [pure_bind, Bool.false_eq_true, if_false, Dispatch.read_bind, Dispatch.okOr_bind_ok,
      require_bind_ok, Dispatch.pure_apply] at done
    obtain ⟨existing, found, holds, done⟩ := done
    obtain ⟨rfl, rfl⟩ := EStateM.Result.ok.inj done
    exact .replay existing found holds
  · next free =>
      simp only [bind_assoc, Dispatch.ensure_bind_ok, Dispatch.write_bind, pure_bind, if_true,
        Dispatch.pure_apply] at done
      obtain ⟨_, done⟩ := done
      obtain ⟨rfl, rfl⟩ := EStateM.Result.ok.inj done
      exact .new fun other present key => free ⟨other, present, key⟩

/-- What a successful drill call has proposed, stored and answered. -/
theorem recordDailRecoveryDrillV1_ok {env : DrillEnv} {args : DrillArgs} {reply : DrillReply}
    (done : recordDailRecoveryDrillV1 env args t = .ok reply t') :
    ∃ row stored, Reports args row ∧ Backed t.checkpoints row ∧ StoresDrill t row stored t' ∧
      reply = drillReply row stored := by
  simp only [recordDailRecoveryDrillV1, Dispatch.bind_ok, Dispatch.pure_apply] at done
  obtain ⟨row, _, composed, stored, _, storing, done⟩ := done
  obtain ⟨rfl, reports, backed⟩ := composeDrill_ok composed
  obtain ⟨rfl, rfl⟩ := EStateM.Result.ok.inj done
  exact ⟨row, stored, reports, backed, storedDrill_ok storing, rfl⟩

end Chlom.Assurance
