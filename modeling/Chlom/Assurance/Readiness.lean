import Chlom.Assurance.Effects
import Chlom.Library.Lineage
import Chlom.Library.Runs

/-!
# What the assurance of the ledger rests on

Calls come one after the other, and a call that raises an exception leaves the
tables as they were.  Stored rows never change, a passing drill restored exactly
what its checkpoint holds, and readiness is reported exactly when it is proved.  A
replayed call answers what was stored first, apart from the state of the hot
ledger, which a replayed checkpoint call reads anew.
-/

namespace Chlom.Assurance

/-! ## Calls -/

inductive Call where
  | checkpoint (env : CheckpointEnv) (args : CheckpointArgs)
  | drill (env : DrillEnv) (args : DrillArgs)

inductive Reply where
  | checkpoint (reply : CheckpointReply)
  | drill (reply : DrillReply)

def perform (db : Database) : Call → Sql Reply
  | .checkpoint env args => return .checkpoint (← recordDailColdCheckpointV1 db env args)
  | .drill env args => return .drill (← recordDailRecoveryDrillV1 env args)

/-- Make one call, whose exception undoes it. -/
def call (db : Database) (t : Tables) (call : Call) : Tables × Except SqlError Reply :=
  let ran := Dispatch.withStorageLayer (perform db call) t
  (Dispatch.finalState ran, Dispatch.outcome ran)

/-- The tables after a list of calls. -/
abbrev record (db : Database) (calls : List Call) : Tables :=
  Runs.run (call db) .empty calls

/-! ## The properties -/

/-- The hot verification passes with zero failures. -/
def HotPass (verification : Verification) : Prop :=
  verification.ok = some true ∧ verification.failureCount = some 0

/-- A drill is the passing one of a checkpoint that was completed last. -/
structure LastPassing (t : Tables) (checkpoint : Checkpoint) (drill : Drill) : Prop where
  member : drill ∈ t.drills
  passed : drill.checkpointId = checkpoint.checkpointId ∧ drill.result = text "PASS"
  last : ∀ other ∈ t.drills, other.checkpointId = checkpoint.checkpointId →
    other.result = text "PASS" → other.drillCompletedAt ≤ drill.drillCompletedAt

/-- A checkpoint has the latest snapshot, and among those was recorded last. -/
structure Latest (t : Tables) (checkpoint : Checkpoint) : Prop where
  member : checkpoint ∈ t.checkpoints
  last : ∀ other ∈ t.checkpoints, other.snapshotCreatedAt < checkpoint.snapshotCreatedAt ∨
    other.snapshotCreatedAt = checkpoint.snapshotCreatedAt ∧
      other.recordedAt ≤ checkpoint.recordedAt

/-- What readiness asks for: a passing hot ledger, and a latest checkpoint that is
not too old and whose last passing drill restored all data. -/
def Ready (t : Tables) (verification : Verification) (now threshold : Int) : Prop :=
  HotPass verification ∧ ∃ checkpoint, Latest t checkpoint ∧
    now - checkpoint.snapshotCreatedAt ≤ threshold * 1000000 ∧
    ∃ drill, LastPassing t checkpoint drill ∧ drill.testScope = text "full_data_restore"

/-- No two checkpoints are ordered alike, and no two passing drills were completed
at the same time. -/
structure Distinct (t : Tables) : Prop where
  checkpoints :
    (t.checkpoints.map fun row => (row.snapshotCreatedAt, row.recordedAt)).Nodup
  drills : ((t.drills.filter fun row => row.result = text "PASS").map
    Drill.drillCompletedAt).Nodup

/-- What the tables guarantee to a reader. -/
structure Assured (t : Tables) : Prop where
  /-- Readiness is reported exactly when it is proved. -/
  ready : Distinct t → ∀ verification now threshold, 0 < threshold → threshold ≤ 604800 →
    ∃ status, readDailPhase4AssuranceStatusV1 verification now (some threshold) t =
        .ok status t ∧
      (status.componentPhase4AssuranceState = .readyForIndependentPhase4Readback ↔
        Ready t verification now threshold)
  /-- Every passing drill made all checks and restored what its checkpoint holds. -/
  drills : ∀ drill ∈ t.drills, drill.result = text "PASS" →
    drill.sourceHeadMatch = true ∧ drill.All ∧
    (∃ checkpoint ∈ t.checkpoints, checkpoint.checkpointId = drill.checkpointId) ∧
    ∀ checkpoint ∈ t.checkpoints, checkpoint.checkpointId = drill.checkpointId →
      drill.restoredEventCount = some checkpoint.sourceEventCount ∧
      drill.restoredMaxSequenceId = some checkpoint.sourceMaxSequenceId ∧
      drill.restoredHeadEventHash = some checkpoint.sourceHeadEventHash

/-- The answer to the call that stored a checkpoint. -/
def Checkpoint.firstReply (row : Checkpoint) : CheckpointReply where
  checkpointId := row.checkpointId
  sourceEventCount := row.sourceEventCount
  sourceMaxSequenceId := row.sourceMaxSequenceId
  sourceHeadEventHash := row.sourceHeadEventHash
  hotIntegrityState := some row.hotIntegrityState
  snapshotRpoSeconds := row.snapshotRpoSeconds
  verifierOutputSha256 := row.verifierOutputSha256
  previousCheckpointReceiptSha256 := row.previousCheckpointReceiptSha256
  checkpointReceiptSha256 := row.checkpointReceiptSha256

/-- The answer to the call that stored a drill. -/
def Drill.firstReply (row : Drill) : DrillReply :=
  drillReply row row

/-- What a successful checkpoint call owes to the row under its key: the row holds
what the arguments say, was there before or is new, and is what the answer tells. -/
structure CheckpointAnswer (t t' : Tables) (args : CheckpointArgs) (reply : CheckpointReply)
    (stored : Checkpoint) : Prop where
  key : args.idempotencyKey.map btrim = some stored.idempotencyKey
  submits : ∃ submission, Submits args submission ∧ stored.Matches submission
  member : stored ∈ t'.checkpoints
  replay : ∀ existing ∈ t.checkpoints, existing.idempotencyKey = stored.idempotencyKey →
    existing = stored ∧ t' = t
  answer : reply = stored.firstReply

/-- What a successful drill call owes to the row under its key. -/
structure DrillAnswer (t t' : Tables) (args : DrillArgs) (reply : DrillReply) (stored : Drill) :
    Prop where
  key : args.idempotencyKey.map btrim = some stored.idempotencyKey
  reports : ∃ row, Reports args row ∧ stored.Matches row
  member : stored ∈ t'.drills
  replay : ∀ existing ∈ t.drills, existing.idempotencyKey = stored.idempotencyKey →
    existing = stored ∧ t' = t
  answer : reply = stored.firstReply

/-- What a call guarantees: nothing stored changes, an exception changes nothing at
all, and an answer is the one first given under its key. -/
def Accountable (t : Tables) (made : Call) (t' : Tables) (outcome : Except SqlError Reply) :
    Prop :=
  t.checkpoints <+: t'.checkpoints ∧ t.drills <+: t'.drills ∧
    match outcome with
    | .error _ => t' = t
    | .ok (.checkpoint reply) => ∃ env args stored, made = .checkpoint env args ∧
        CheckpointAnswer t t' args reply stored
    | .ok (.drill reply) => ∃ env args stored, made = .drill env args ∧
        DrillAnswer t t' args reply stored

/-- A replayed checkpoint call that is not refused finds the hot ledger in the state
that was stored first. -/
def SameIntegrity (db : Database) (t : Tables) : Call → Prop
  | .checkpoint env args => ∀ existing ∈ t.checkpoints,
      args.idempotencyKey.map btrim = some existing.idempotencyKey →
        (∃ reply t', recordDailColdCheckpointV1 db env args t = .ok reply t') →
          env.verification.integrityState = some existing.hotIntegrityState
  | .drill _ _ => True

/-! ## Reading the status -/

variable {t t' : Tables}

theorem max_ceilSeconds_le {span threshold : Int} (positive : 0 < threshold) :
    max 0 (ceilSeconds span) ≤ threshold ↔ span ≤ threshold * 1000000 := by
  unfold ceilSeconds
  omega

theorem testedState_full {testScope : Text} :
    testedState testScope = .fullDataRecoveryVerified ↔ testScope = text "full_data_restore" := by
  unfold testedState
  split
  · simp_all
  · split <;> simp_all

theorem assuranceState_ready {hotPass : Bool} {coldState : ColdState} :
    assuranceState hotPass coldState = .readyForIndependentPhase4Readback ↔
      hotPass = true ∧ coldState = .fullDataRecoveryVerified := by
  cases hotPass <;> cases coldState <;> simp [assuranceState]

theorem hotPass_iff {verification : Verification} :
    (verification.ok.getD false = true ∧ verification.failureCount.getD (-1) = 0) ↔
      HotPass verification := by
  unfold HotPass
  cases verification.ok <;> cases verification.failureCount <;> simp

/-- The reading succeeds, and its cascade of cases ends in readiness on one path. -/
theorem readDailPhase4AssuranceStatusV1_ready {verification : Verification} {now : Timestamp}
    {threshold : Int} (positive : 0 < threshold) (bounded : threshold ≤ 604800) :
    ∃ status, readDailPhase4AssuranceStatusV1 verification now (some threshold) t =
        .ok status t ∧
      (status.componentPhase4AssuranceState = .readyForIndependentPhase4Readback ↔
        HotPass verification ∧ ∃ checkpoint, latestSnapshot t.checkpoints = some checkpoint ∧
          now - checkpoint.snapshotCreatedAt ≤ threshold * 1000000 ∧
          ∃ drill, lastPassingDrill t.drills checkpoint.checkpointId = some drill ∧
            drill.testScope = text "full_data_restore") := by
  have passes : (some threshold).filter (fun age => decide (0 < age ∧ age ≤ 604800)) =
      some threshold := by simp [positive, bounded]
  rw [readDailPhase4AssuranceStatusV1, demand, Dispatch.okOr_bind_some passes, Dispatch.read_bind]
  cases latest : latestSnapshot t.checkpoints with
  | none => exact ⟨_, rfl, by simp⟩
  | some checkpoint =>
      refine ⟨_, rfl, ?_⟩
      have within : max 0 (ceilSeconds (now - checkpoint.snapshotCreatedAt)) ≤ threshold ↔ _ :=
        max_ceilSeconds_le positive
      simp only [assuranceState_ready, decide_eq_true_eq, hotPass_iff, Option.some.injEq,
        exists_eq_left']
      refine and_congr_right fun _ => ?_
      split
      · next stale =>
          refine iff_of_false (by simp) ?_
          rintro ⟨near, _⟩
          exact absurd (within.mpr near) (not_le.mpr stale)
      · next fresh =>
          rw [and_iff_right (within.mp (not_lt.mp fresh))]
          cases lastPassingDrill t.drills checkpoint.checkpointId with
          | none => simp
          | some drill => simp [testedState_full]

theorem Distinct.latestSnapshot_iff (distinct : Distinct t) {checkpoint : Checkpoint} :
    latestSnapshot t.checkpoints = some checkpoint ↔ Latest t checkpoint := by
  rw [latestSnapshot, Lineage.argmax_eq_some_iff]
  · simp only [Prod.Lex.toLex_le_toLex]
    exact ⟨fun ⟨member, last⟩ => ⟨member, last⟩, fun latest => ⟨latest.member, latest.last⟩⟩
  · refine .of_map ofLex ?_
    rw [List.map_map]
    exact distinct.checkpoints

theorem Distinct.lastPassingDrill_iff (distinct : Distinct t) {checkpoint : Checkpoint}
    {drill : Drill} :
    lastPassingDrill t.drills checkpoint.checkpointId = some drill ↔
      LastPassing t checkpoint drill := by
  have apart : ((t.drills.filter fun row => row.checkpointId = checkpoint.checkpointId ∧
      row.result = text "PASS").map Drill.drillCompletedAt).Nodup := by
    refine distinct.drills.sublist (List.Sublist.map _ (List.monotone_filter_right _ ?_))
    intro row both
    simp only [decide_eq_true_eq] at both ⊢
    exact both.2
  rw [lastPassingDrill, Lineage.argmax_eq_some_iff apart]
  simp only [List.mem_filter, decide_eq_true_eq]
  constructor
  · rintro ⟨⟨member, passed⟩, last⟩
    exact ⟨member, passed, fun other otherMem named result => last other ⟨otherMem, named, result⟩⟩
  · intro lastPassing
    exact ⟨⟨lastPassing.member, lastPassing.passed⟩,
      fun other other' => lastPassing.last other other'.1 other'.2.1 other'.2.2⟩

/-! ## What holds after every list of calls -/

structure Consistent (t : Tables) : Prop where
  ids : (t.checkpoints.map Checkpoint.checkpointId).Nodup
  keys : (t.checkpoints.map Checkpoint.idempotencyKey).Nodup
  drillKeys : (t.drills.map Drill.idempotencyKey).Nodup
  drills : ∀ drill ∈ t.drills, Backed t.checkpoints drill

theorem Consistent.empty : Consistent .empty where
  ids := List.nodup_nil
  keys := List.nodup_nil
  drillKeys := List.nodup_nil
  drills _ member := by cases member

theorem nodup_map_append {Row Key : Type} {key : Row → Key} {rows : List Row} {row : Row}
    (distinct : (rows.map key).Nodup) (fresh : ∀ other ∈ rows, key other ≠ key row) :
    ((rows ++ [row]).map key).Nodup := by
  rw [List.map_append, List.nodup_append]
  refine ⟨distinct, by simp, ?_⟩
  rintro name present other last rfl
  obtain ⟨earlier, member, rfl⟩ := List.mem_map.mp present
  exact fresh earlier member (by simpa using last)

theorem Backed.mono {rows rows' : List Checkpoint} {drill : Drill} (backed : Backed rows drill)
    (subset : ∀ row ∈ rows, row ∈ rows') : Backed rows' drill := by
  obtain ⟨checkpoint, member, rest⟩ := backed
  exact ⟨checkpoint, subset checkpoint member, rest⟩

theorem Consistent.checkpoint {submission : Submission} {row stored : Checkpoint} (inv : Consistent t)
    (stores : Stores t submission row stored t') : Consistent t' := by
  cases stores with
  | new key id receipt =>
      refine ⟨nodup_map_append inv.ids id, nodup_map_append inv.keys key, inv.drillKeys, ?_⟩
      exact fun drill member => (inv.drills drill member).mono fun _ earlier =>
        List.mem_append_left _ earlier
  | replay existing found holds => exact inv

theorem Consistent.drill {row stored : Drill} (inv : Consistent t) (backed : Backed t.checkpoints row)
    (stores : StoresDrill t row stored t') : Consistent t' := by
  cases stores with
  | new key =>
      refine ⟨inv.ids, inv.keys, nodup_map_append inv.drillKeys key, ?_⟩
      intro drill member
      rcases List.mem_append.mp member with earlier | last
      · exact inv.drills drill earlier
      · rw [List.mem_singleton.mp last]
        exact backed
  | replay existing found holds => exact inv

theorem perform_checkpoint {db : Database} {env : CheckpointEnv} {args : CheckpointArgs}
    {reply : Reply} :
    perform db (.checkpoint env args) t = .ok reply t' ↔
      ∃ answer, recordDailColdCheckpointV1 db env args t = .ok answer t' ∧
        reply = .checkpoint answer := by
  rw [perform, Dispatch.bind_ok]
  constructor
  · rintro ⟨answer, middle, ran, done⟩
    obtain ⟨rfl, rfl⟩ := EStateM.Result.ok.inj done
    exact ⟨answer, ran, rfl⟩
  · rintro ⟨answer, ran, rfl⟩
    exact ⟨answer, t', ran, rfl⟩

theorem perform_drill {db : Database} {env : DrillEnv} {args : DrillArgs} {reply : Reply} :
    perform db (.drill env args) t = .ok reply t' ↔
      ∃ answer, recordDailRecoveryDrillV1 env args t = .ok answer t' ∧ reply = .drill answer := by
  rw [perform, Dispatch.bind_ok]
  constructor
  · rintro ⟨answer, middle, ran, done⟩
    obtain ⟨rfl, rfl⟩ := EStateM.Result.ok.inj done
    exact ⟨answer, ran, rfl⟩
  · rintro ⟨answer, ran, rfl⟩
    exact ⟨answer, t', ran, rfl⟩

theorem call_of_ok {db : Database} {made : Call} {reply : Reply}
    (ran : perform db made t = .ok reply t') : call db t made = (t', .ok reply) := by
  simp [call, Dispatch.withStorageLayer, ran, Dispatch.finalState, Dispatch.outcome]

theorem call_of_error {db : Database} {made : Call} {failure : SqlError}
    (ran : perform db made t = .error failure t') : call db t made = (t, .error failure) := by
  simp [call, Dispatch.withStorageLayer, ran, Dispatch.finalState, Dispatch.outcome]

theorem Consistent.call (inv : Consistent t) (db : Database) (made : Call) :
    Consistent (Assurance.call db t made).1 := by
  cases ran : perform db made t with
  | error failure t' =>
      rw [call_of_error ran]
      exact inv
  | ok reply t' =>
      rw [call_of_ok ran]
      cases made with
      | checkpoint env args =>
          obtain ⟨answer, done, _⟩ := perform_checkpoint.mp ran
          obtain ⟨submission, row, stored, _, _, stores, _⟩ := recordDailColdCheckpointV1_ok done
          exact inv.checkpoint stores
      | drill env args =>
          obtain ⟨answer, done, _⟩ := perform_drill.mp ran
          obtain ⟨row, stored, _, backed, stores, _⟩ := recordDailRecoveryDrillV1_ok done
          exact inv.drill backed stores

theorem consistent_record (db : Database) (calls : List Call) : Consistent (record db calls) :=
  Runs.invariant_run Consistent (fun _ made inv => inv.call db made) .empty calls

theorem Consistent.assured (inv : Consistent t) : Assured t where
  ready distinct verification now threshold positive bounded := by
    obtain ⟨status, ran, reported⟩ := readDailPhase4AssuranceStatusV1_ready positive bounded
    refine ⟨status, ran, reported.trans ?_⟩
    simp only [Ready, distinct.latestSnapshot_iff, distinct.lastPassingDrill_iff]
  drills drill member passed := by
    obtain ⟨checkpoint, present, named, backed⟩ := inv.drills drill member
    obtain ⟨matched, all, restored⟩ := backed passed
    refine ⟨matched, all, ⟨checkpoint, present, named⟩, fun other otherMem otherNamed => ?_⟩
    rw [List.inj_on_of_nodup_map inv.ids otherMem present (otherNamed.trans named.symm)]
    exact restored

/-! ## Replays -/

/-- A successful checkpoint call answers what was stored first exactly when it finds
the hot ledger in the state that was stored first. -/
theorem Consistent.checkpoint_accountable_iff (inv : Consistent t) {db : Database} {env : CheckpointEnv}
    {args : CheckpointArgs} {reply : CheckpointReply}
    (done : recordDailColdCheckpointV1 db env args t = .ok reply t') :
    (∃ stored, CheckpointAnswer t t' args reply stored) ↔
      ∀ existing ∈ t.checkpoints, args.idempotencyKey.map btrim = some existing.idempotencyKey →
        env.verification.integrityState = some existing.hotIntegrityState := by
  obtain ⟨submission, row, stored, submits, proposed, stores, rfl⟩ :=
    recordDailColdCheckpointV1_ok done
  cases stores with
  | new key id receipt =>
      have keyed : args.idempotencyKey.map btrim = some row.idempotencyKey := by
        rw [submits.idempotencyKey, proposed.idempotencyKey]
      refine iff_of_true ⟨row, keyed, ⟨submission, submits, proposed.holds⟩, by simp, ?_, ?_⟩ ?_
      · exact fun existing member same => absurd same (key existing member)
      · obtain ⟨count, sequence, head, _⟩ := proposed.holds
        simp [checkpointReply, Checkpoint.firstReply, count, sequence, head,
          proposed.integrityState]
      · intro existing member same
        exact absurd (Option.some.inj (same.symm.trans keyed)) (key existing member)
  | replay _ found holds =>
      have member := List.mem_of_find?_eq_some found
      have named : stored.idempotencyKey = submission.idempotencyKey := by
        simpa using List.find?_some found
      have keyed : args.idempotencyKey.map btrim = some stored.idempotencyKey := by
        rw [submits.idempotencyKey, named]
      have same_row {other : Checkpoint} (otherMem : other ∈ t.checkpoints)
          (same : args.idempotencyKey.map btrim = some other.idempotencyKey) :
          other = stored :=
        List.inj_on_of_nodup_map inv.keys otherMem member
          (Option.some.inj (same.symm.trans keyed))
      constructor
      · rintro ⟨answered, answer⟩ other otherMem same
        obtain rfl := same_row answer.member answer.key
        obtain rfl := same_row otherMem same
        exact congrArg CheckpointReply.hotIntegrityState answer.answer
      · intro same
        refine ⟨stored, keyed, ⟨submission, submits, holds⟩, member, ?_, ?_⟩
        · intro other otherMem otherKey
          exact ⟨same_row otherMem (by rw [keyed, otherKey]), rfl⟩
        · obtain ⟨count, sequence, head, _⟩ := holds
          simp [checkpointReply, Checkpoint.firstReply, count, sequence, head,
            same stored member keyed]

theorem Consistent.drill_accountable (inv : Consistent t) {env : DrillEnv} {args : DrillArgs}
    {reply : DrillReply} (done : recordDailRecoveryDrillV1 env args t = .ok reply t') :
    ∃ stored, DrillAnswer t t' args reply stored := by
  obtain ⟨row, stored, reports, backed, stores, rfl⟩ := recordDailRecoveryDrillV1_ok done
  cases stores with
  | new key =>
      refine ⟨row, reports.idempotencyKey, ⟨row, reports, ?_⟩, by simp, ?_, rfl⟩
      · simp [Drill.Matches]
      · exact fun existing member same => absurd same (key existing member)
  | replay _ found holds =>
      have member := List.mem_of_find?_eq_some found
      have named : stored.idempotencyKey = row.idempotencyKey := by
        simpa using List.find?_some found
      refine ⟨stored, ?_, ⟨row, reports, holds⟩, member, ?_, ?_⟩
      · rw [reports.idempotencyKey, named]
      · intro other otherMem same
        exact ⟨List.inj_on_of_nodup_map inv.drillKeys otherMem member same, rfl⟩
      · obtain ⟨checkpoint, scope, _⟩ := holds
        simp [drillReply, Drill.firstReply, checkpoint, scope]

theorem Consistent.accountable_iff (consistent : Consistent t) (db : Database) (made : Call) :
    Accountable t made (Assurance.call db t made).1 (Assurance.call db t made).2 ↔
      SameIntegrity db t made := by
  cases ran : perform db made t with
  | error failure t' =>
      rw [call_of_error ran]
      refine iff_of_true ⟨List.prefix_rfl, List.prefix_rfl, rfl⟩ ?_
      cases made with
      | checkpoint env args =>
          rintro existing _ _ ⟨reply, after, done⟩
          cases ran.symm.trans (perform_checkpoint.mpr ⟨reply, done, rfl⟩)
      | drill env args => trivial
  | ok reply t' =>
      rw [call_of_ok ran]
      cases made with
      | checkpoint env args =>
          obtain ⟨answer, done, rfl⟩ := perform_checkpoint.mp ran
          have kept : t.checkpoints <+: t'.checkpoints ∧ t.drills <+: t'.drills := by
            obtain ⟨submission, row, stored, _, _, stores, _⟩ := recordDailColdCheckpointV1_ok done
            cases stores with
            | new => exact ⟨List.prefix_append _ _, List.prefix_rfl⟩
            | replay => exact ⟨List.prefix_rfl, List.prefix_rfl⟩
          have answered := consistent.checkpoint_accountable_iff done
          constructor
          · rintro ⟨_, _, env', args', stored, made, answer⟩ existing member key _
            cases made
            exact answered.mp ⟨stored, answer⟩ existing member key
          · intro same
            obtain ⟨stored, answer⟩ := answered.mpr fun existing member key =>
              same existing member key ⟨_, _, done⟩
            exact ⟨kept.1, kept.2, env, args, stored, rfl, answer⟩
      | drill env args =>
          obtain ⟨answer, done, rfl⟩ := perform_drill.mp ran
          have kept : t.checkpoints <+: t'.checkpoints ∧ t.drills <+: t'.drills := by
            obtain ⟨row, stored, _, _, stores, _⟩ := recordDailRecoveryDrillV1_ok done
            cases stores with
            | new => exact ⟨List.prefix_rfl, List.prefix_append _ _⟩
            | replay => exact ⟨List.prefix_rfl, List.prefix_rfl⟩
          obtain ⟨stored, answer⟩ := consistent.drill_accountable done
          exact iff_of_true ⟨kept.1, kept.2, env, args, stored, rfl, answer⟩ trivial

/-- The states of a run assure their readers, and its calls are accountable, exactly
when every replayed checkpoint call finds the hot ledger in the state stored first. -/
theorem assured_and_accountable_iff (db : Database) (calls : List Call) :
    ((∀ before rest, calls = before ++ rest → Assured (record db before)) ∧
      ∀ before made rest, calls = before ++ made :: rest →
        Accountable (record db before) made (call db (record db before) made).1
          (call db (record db before) made).2) ↔
    ∀ before made rest, calls = before ++ made :: rest →
      SameIntegrity db (record db before) made := by
  constructor
  · rintro ⟨_, accountable⟩ before made rest whole
    exact ((consistent_record db before).accountable_iff db made).mp
      (accountable before made rest whole)
  · intro same
    refine ⟨fun before _ _ => (consistent_record db before).assured, ?_⟩
    intro before made rest whole
    exact ((consistent_record db before).accountable_iff db made).mpr
      (same before made rest whole)

/-! ## A replay that answers something else -/

namespace Sample

/-- The sample ledger after a legacy event of it was corrected. -/
def corrected : Verification :=
  { verification with integrityState := some (text "pass_with_documented_legacy_correction") }

/-- A call before the correction, and its replay after it. -/
def before : Call := .checkpoint ⟨1, 2, 1, verification, dailEvents⟩ (args "some key")

def replayEnv : CheckpointEnv := ⟨3, 4, 2, corrected, dailEvents⟩

end Sample

/-- The replay answers a state of the hot ledger that is not the stored one. -/
theorem replay_not_accountable :
    ¬ ∀ (db : Database) (calls : List Call) before made rest, calls = before ++ made :: rest →
      Accountable (record db before) made (call db (record db before) made).1
        (call db (record db before) made).2 := by
  intro every
  have accountable := every Sample.database _ [Sample.before]
    (.checkpoint Sample.replayEnv (Sample.args "some key")) [] rfl
  have same := ((consistent_record _ _).accountable_iff _ _).mp accountable
  have rows : (record Sample.database [Sample.before]).checkpoints.map
      (fun row => (row.idempotencyKey, row.hotIntegrityState)) =
      [(text "some key", text "pass")] := by
    decide +kernel
  have answered : (Dispatch.outcome (recordDailColdCheckpointV1 Sample.database Sample.replayEnv
      (Sample.args "some key") (record Sample.database [Sample.before]))).isOk = true := by
    decide +kernel
  obtain ⟨existing, rest, whole, stored, _⟩ := List.map_eq_cons_iff.mp rows
  obtain ⟨key, state⟩ := Prod.mk.inj stored
  have member : existing ∈ (record Sample.database [Sample.before]).checkpoints := by
    rw [whole]
    exact List.mem_cons_self
  have accepted : ∃ reply t', recordDailColdCheckpointV1 Sample.database Sample.replayEnv
      (Sample.args "some key") (record Sample.database [Sample.before]) = .ok reply t' := by
    cases ran : recordDailColdCheckpointV1 Sample.database Sample.replayEnv
        (Sample.args "some key") (record Sample.database [Sample.before]) with
    | ok reply t' => exact ⟨reply, t', rfl⟩
    | error failure t' =>
        rw [ran] at answered
        cases answered
  have changed := same existing member (by rw [key]; rfl) accepted
  rw [state] at changed
  exact absurd (Option.some.inj changed) (by decide)

end Chlom.Assurance
