import Chlom.Assurance.Effects
import Chlom.Library.Lineage
import Chlom.Library.Runs

/-!
# Checkpoint receipts under concurrent transactions

Each transaction makes one checkpoint call.  It reads the clock and validates its
arguments, waits for the lock of the ledger, and holds the lock until it commits or
aborts.  Every statement sees the rows committed before it.  A receipt follows the
checkpoint with the latest clock reading, which need not be the one committed last:
the receipts form one line exactly when every commit finds that it is.
-/

namespace Chlom.Assurance

/-- How checkpoints refer to each other. -/
def receiptLink : Lineage.Link Checkpoint Id32 where
  name := Checkpoint.checkpointReceiptSha256
  previous := Checkpoint.previousCheckpointReceiptSha256

/-! ## Transactions -/

/-- A call as it stands after its declarations and checks. -/
structure Started where
  submission : Submission
  recordedAt : Timestamp
  now : Timestamp
  candidateCheckpointId : Uuid

/-- Where a transaction stands.  Between its two statements under the lock it
knows the row it will insert, and after them the row it will commit, if any. -/
inductive Phase where
  | idle
  | waiting (call : Started)
  | holding (call : Started)
  | composed (call : Started) (row : Checkpoint)
  | executed (call : Started) (pending : Option Checkpoint)
  | closed

def Phase.call? : Phase → Option Started
  | .waiting call | .holding call | .composed call _ | .executed call _ => some call
  | .idle | .closed => none

/-- The transaction holds the lock. -/
def Phase.Holds : Phase → Prop
  | .holding _ | .composed _ _ | .executed _ _ => True
  | .idle | .waiting _ | .closed => False

/-- The committed rows, the last reading of the clock, the keys in use, the holder
of the lock and the transactions. -/
structure System (Tx : Type) where
  committed : List Checkpoint
  clock : Timestamp
  keys : List Text
  lock : Option Tx
  phase : Tx → Phase

/-- What happens next.  What a transaction reads of the clock, of the generator of
identifiers and of the ledger comes with the action. -/
inductive Action (Tx : Type) where
  | start (tx : Tx) (args : CheckpointArgs) (recordedAt now : Timestamp)
      (candidateCheckpointId : Uuid)
  | acquire (tx : Tx)
  | compose (tx : Tx) (verification : Verification) (dailEvents : List DailEvent)
  | insert (tx : Tx)
  | commit (tx : Tx)
  | abort (tx : Tx)

section System

variable {Tx : Type} [DecidableEq Tx]

def System.initial (clock : Timestamp) : System Tx where
  committed := []
  clock
  keys := []
  lock := none
  phase _ := .idle

/-- Move one transaction on. -/
def System.enter (s : System Tx) (tx : Tx) (phase : Phase) : System Tx :=
  { s with phase := Function.update s.phase tx phase }

/-- End one transaction, which gives up its lock. -/
def System.leave (s : System Tx) (tx : Tx) : System Tx :=
  { s.enter tx .closed with lock := if s.lock = some tx then none else s.lock }

/-- What an outcome of a statement makes of the system; an exception ends the
transaction. -/
def System.proceed {α : Type} (s : System Tx) (tx : Tx) (next : α → Phase) :
    EStateM.Result SqlError Tables α → System Tx
  | .ok value _ => s.enter tx (next value)
  | .error _ _ => s.leave tx

/-- The tables that a statement sees. -/
def System.tables (s : System Tx) : Tables :=
  { Tables.empty with checkpoints := s.committed }

/-- The clock strictly increases, and no two transactions use one key. -/
def System.start (s : System Tx) (tx : Tx) (args : CheckpointArgs) (recordedAt now : Timestamp)
    (candidateCheckpointId : Uuid) : System Tx :=
  if s.clock < recordedAt ∧ recordedAt < now then
    match s.phase tx, validateCheckpoint now args s.tables with
    | .idle, .ok submission _ =>
        if submission.idempotencyKey ∈ s.keys then s
        else { s.enter tx (.waiting ⟨submission, recordedAt, now, candidateCheckpointId⟩) with
          clock := now
          keys := submission.idempotencyKey :: s.keys }
    | .idle, .error _ _ => s.leave tx
    | _, _ => s
  else s

/-- Take one action, unless the transaction is not ready for it. -/
def step (db : Database) (s : System Tx) : Action Tx → System Tx × Unit
  | .start tx args recordedAt now candidate => (s.start tx args recordedAt now candidate, ())
  | .acquire tx =>
      match s.phase tx, s.lock with
      | .waiting call, none => ({ s.enter tx (.holding call) with lock := some tx }, ())
      | _, _ => (s, ())
  | .compose tx verification dailEvents =>
      match s.phase tx with
      | .holding call =>
          let env : CheckpointEnv := ⟨call.recordedAt, call.now, call.candidateCheckpointId,
            verification, dailEvents⟩
          (s.proceed tx (.composed call) (composeCheckpoint db env call.submission s.tables), ())
      | _ => (s, ())
  | .insert tx =>
      match s.phase tx with
      | .composed call row =>
          (s.proceed tx (fun inserted => .executed call (if inserted then some row else none))
            (insertCheckpoint row s.tables), ())
      | _ => (s, ())
  | .commit tx =>
      match s.phase tx with
      | .executed _ pending =>
          ({ s.leave tx with committed := s.committed ++ pending.toList }, ())
      | _ => (s, ())
  | .abort tx => (s.leave tx, ())

/-- The system after a schedule. -/
abbrev run (db : Database) (clock : Timestamp) (schedule : List (Action Tx)) : System Tx :=
  Runs.run (step db) (System.initial clock) schedule

/-- The statements of a whole call of one transaction. -/
def statements (tx : Tx) (args : CheckpointArgs) (env : CheckpointEnv) : List (Action Tx) :=
  [.start tx args env.recordedAt env.now env.candidateCheckpointId, .acquire tx,
    .compose tx env.verification env.dailEvents, .insert tx, .commit tx]

/-- A transaction that nothing interrupts does what the function does. -/
theorem run_statements (db : Database) {s : System Tx} {tx : Tx} {args : CheckpointArgs}
    {env : CheckpointEnv} (idle : s.phase tx = .idle) (free : s.lock = none)
    (ticks : s.clock < env.recordedAt ∧ env.recordedAt < env.now)
    (unused : ∀ submission, Submits args submission → submission.idempotencyKey ∉ s.keys) :
    (Runs.run (step db) s (statements tx args env)).committed =
      (Dispatch.finalState (Dispatch.withStorageLayer (recordDailColdCheckpointV1 db env args)
        s.tables)).checkpoints := by
  change _ = (Dispatch.finalState (Dispatch.withStorageLayer (recordDailColdCheckpointV1 db env
    args) ⟨s.committed, []⟩)).checkpoints
  cases validated : validateCheckpoint env.now args ⟨s.committed, []⟩ with
  | error failure t =>
      have failed : recordDailColdCheckpointV1 db env args ⟨s.committed, []⟩ = .error failure t :=
        Dispatch.bind_of_error validated
      simp [statements, step, System.start, System.tables, Tables.empty, ticks, idle, validated,
        System.leave, System.enter, Dispatch.withStorageLayer, failed, Dispatch.finalState]
  | ok submission t =>
      obtain ⟨rfl, submits⟩ := validateCheckpoint_ok validated
      have fresh := unused submission submits
      cases composed : composeCheckpoint db env submission ⟨s.committed, []⟩ with
      | error failure t =>
          have failed : recordDailColdCheckpointV1 db env args ⟨s.committed, []⟩ =
              .error failure t := by
            rw [recordDailColdCheckpointV1, Dispatch.bind_of_ok validated]
            exact Dispatch.bind_of_error composed
          simp [statements, step, System.start, System.tables, Tables.empty, ticks, idle, free,
            validated, fresh, composed, System.proceed, System.leave, System.enter,
            Dispatch.withStorageLayer, failed, Dispatch.finalState]
      | ok row t =>
          obtain ⟨rfl, _⟩ := composeCheckpoint_ok composed
          have body : recordDailColdCheckpointV1 db env args ⟨s.committed, []⟩ =
              (storedCheckpoint submission row >>= fun stored =>
                pure (checkpointReply env submission stored)) ⟨s.committed, []⟩ := by
            rw [recordDailColdCheckpointV1, Dispatch.bind_of_ok validated,
              Dispatch.bind_of_ok composed]
          cases inserting : insertCheckpoint row ⟨s.committed, []⟩ with
          | error failure t =>
              have failed : recordDailColdCheckpointV1 db env args ⟨s.committed, []⟩ =
                  .error failure t := by
                rw [body, storedCheckpoint, bind_assoc]
                exact Dispatch.bind_of_error inserting
              simp [statements, step, System.start, System.tables, Tables.empty, ticks, idle, free,
                validated, fresh, composed, inserting, System.proceed, System.leave, System.enter,
                Dispatch.withStorageLayer, failed, Dispatch.finalState]
          | ok inserted t =>
              cases insertCheckpoint_ok inserting with
              | new key id receipt =>
                  have ran : recordDailColdCheckpointV1 db env args ⟨s.committed, []⟩ =
                      .ok (checkpointReply env submission row) ⟨s.committed ++ [row], []⟩ := by
                    rw [body, storedCheckpoint, bind_assoc, Dispatch.bind_of_ok inserting]
                    rfl
                  simp [statements, step, System.start, System.tables, Tables.empty, ticks, idle,
                    free, validated, fresh, composed, inserting, System.proceed, System.leave,
                    System.enter, Dispatch.withStorageLayer, ran, Dispatch.finalState]
              | taken other present key =>
                  have kept : Dispatch.finalState (Dispatch.withStorageLayer
                      (recordDailColdCheckpointV1 db env args) ⟨s.committed, []⟩) =
                      ⟨s.committed, []⟩ := by
                    refine Dispatch.finalState_withStorageLayer
                      (P := fun final : Tables => final = ⟨s.committed, []⟩) rfl ?_
                    intro reply t' ran
                    rw [body, Dispatch.bind_ok] at ran
                    obtain ⟨stored, middle, storing, answered⟩ := ran
                    obtain rfl := (EStateM.Result.ok.inj answered).2
                    cases storedCheckpoint_ok storing with
                    | new free => exact absurd key (free other present)
                    | replay => rfl
                  rw [kept]
                  simp [statements, step, System.start, System.tables, Tables.empty, ticks, idle,
                    free, validated, fresh, composed, inserting, System.proceed, System.leave,
                    System.enter]
/-! ## What holds in every interleaving -/

/-- A row carries the clock reading of its call and follows the checkpoint recorded
last among the committed rows. -/
structure Names (rows : List Checkpoint) (call : Started) (row : Checkpoint) : Prop where
  recordedAt : row.recordedAt = call.recordedAt
  previous : row.previousCheckpointReceiptSha256 =
    (lastRecorded rows).map Checkpoint.checkpointReceiptSha256

/-- What a transaction knows under the lock is true of the committed rows. -/
def Phase.Sound (rows : List Checkpoint) : Phase → Prop
  | .composed call row => Names rows call row
  | .executed call (some row) => Names rows call row ∧
      row.checkpointReceiptSha256 ∉ rows.map Checkpoint.checkpointReceiptSha256
  | _ => True

omit [DecidableEq Tx] in
theorem Phase.sound_of_not_holds {rows : List Checkpoint} {phase : Phase}
    (free : ¬ phase.Holds) : phase.Sound rows := by
  cases phase with
  | idle | waiting _ | holding _ | closed => trivial
  | composed _ _ | executed _ _ => exact absurd trivial free

structure Inv (s : System Tx) : Prop where
  grown : Lineage.Grown receiptLink lastRecorded s.committed
  distinct : (s.committed.map Checkpoint.recordedAt).Nodup
  past : ∀ row ∈ s.committed, row.recordedAt ≤ s.clock
  started : ∀ tx call, (s.phase tx).call? = some call →
    call.recordedAt ≤ s.clock ∧ call.recordedAt ∉ s.committed.map Checkpoint.recordedAt
  apart : ∀ tx other call otherCall, (s.phase tx).call? = some call →
    (s.phase other).call? = some otherCall → call.recordedAt = otherCall.recordedAt → tx = other
  lock : ∀ tx, (s.phase tx).Holds → s.lock = some tx
  sound : ∀ tx, (s.phase tx).Sound s.committed

omit [DecidableEq Tx] in
theorem Inv.initial (clock : Timestamp) : Inv (System.initial clock : System Tx) where
  grown := .nil
  distinct := List.nodup_nil
  past _ member := by cases member
  started _ _ started := by cases started
  apart _ _ _ _ started := by cases started
  lock _ holds := by cases holds
  sound _ := trivial

/-- A transaction may move on with the call it has or without one. -/
theorem Inv.enter {s : System Tx} (inv : Inv s) {tx : Tx} {phase : Phase}
    (call : ∀ call, phase.call? = some call → (s.phase tx).call? = some call)
    (lock : phase.Holds → s.lock = some tx) (sound : phase.Sound s.committed) :
    Inv (s.enter tx phase) := by
  have called (other : Tx) (found : Started)
      (started : ((s.enter tx phase).phase other).call? = some found) :
      (s.phase other).call? = some found := by
    by_cases same : other = tx
    · subst same
      exact call found (by simpa [System.enter] using started)
    · simpa [System.enter, same] using started
  refine ⟨inv.grown, inv.distinct, inv.past, ?_, ?_, ?_, ?_⟩
  · exact fun other found started => inv.started other found (called other found started)
  · exact fun first second _ _ firstCall secondCall => inv.apart first second _ _
      (called first _ firstCall) (called second _ secondCall)
  · intro other holds
    by_cases same : other = tx
    · subst same
      exact lock (by simpa [System.enter] using holds)
    · exact inv.lock other (by simpa [System.enter, same] using holds)
  · intro other
    by_cases same : other = tx
    · subst same
      simpa [System.enter] using sound
    · simpa [System.enter, same] using inv.sound other

theorem Inv.leave {s : System Tx} (inv : Inv s) (tx : Tx) : Inv (s.leave tx) := by
  have closed : Inv (s.enter tx .closed) :=
    inv.enter (fun _ started => by cases started) False.elim trivial
  refine ⟨closed.grown, closed.distinct, closed.past, closed.started, closed.apart, ?_,
    closed.sound⟩
  intro other holds
  have held : s.lock = some other := closed.lock other holds
  have ne : other ≠ tx := by
    rintro rfl
    simp [System.leave, System.enter, Phase.Holds] at holds
  change (if s.lock = some tx then none else s.lock) = some other
  rw [if_neg (fun mine => ne (Option.some.inj (held.symm.trans mine)))]
  exact held

theorem Inv.proceed {α : Type} {s : System Tx} (inv : Inv s) {tx : Tx} {next : α → Phase}
    {ran : EStateM.Result SqlError Tables α} (holds : s.lock = some tx)
    (call : ∀ value call, (next value).call? = some call → (s.phase tx).call? = some call)
    (sound : ∀ value t, ran = .ok value t → (next value).Sound s.committed) :
    Inv (s.proceed tx next ran) := by
  cases ran with
  | ok value t => exact inv.enter (call value) (fun _ => holds) (sound value t rfl)
  | error failure t => exact inv.leave tx

/-- A call that starts has a later clock reading than everything before it. -/
theorem Inv.waiting {s : System Tx} (inv : Inv s) {tx : Tx} {call : Started} {keys : List Text}
    (idle : s.phase tx = .idle) (later : s.clock < call.recordedAt)
    (ticks : call.recordedAt < call.now) :
    Inv { s.enter tx (.waiting call) with clock := call.now, keys } := by
  have cases_call (other : Tx) (found : Started)
      (started : ((s.enter tx (.waiting call)).phase other).call? = some found) :
      (other = tx ∧ found = call) ∨ (other ≠ tx ∧ (s.phase other).call? = some found) := by
    by_cases same : other = tx
    · subst same
      left
      simpa [System.enter, Phase.call?, eq_comm] using started
    · right
      exact ⟨same, by simpa [System.enter, same] using started⟩
  refine ⟨inv.grown, inv.distinct, ?_, ?_, ?_, ?_, ?_⟩
  · intro row member
    exact (inv.past row member).trans (later.le.trans ticks.le)
  · intro other found started
    change found.recordedAt ≤ call.now ∧ _
    rcases cases_call other found started with ⟨rfl, rfl⟩ | ⟨_, before⟩
    · refine ⟨ticks.le, fun present => ?_⟩
      obtain ⟨row, member, same⟩ := List.mem_map.mp present
      exact absurd (same ▸ inv.past row member) (not_le.mpr later)
    · obtain ⟨earlier, absent⟩ := inv.started other found before
      exact ⟨earlier.trans (later.le.trans ticks.le), absent⟩
  · intro first second firstCall secondCall firstStarted secondStarted same
    rcases cases_call first firstCall firstStarted with ⟨rfl, rfl⟩ | ⟨_, firstBefore⟩ <;>
      rcases cases_call second secondCall secondStarted with ⟨rfl, rfl⟩ | ⟨_, secondBefore⟩
    · rfl
    · have earlier := (inv.started second secondCall secondBefore).1
      exact absurd (same.trans_le earlier) (not_le.mpr later)
    · have earlier := (inv.started first firstCall firstBefore).1
      exact absurd (same.symm.trans_le earlier) (not_le.mpr later)
    · exact inv.apart first second firstCall secondCall firstBefore secondBefore same
  · intro other holds
    by_cases same : other = tx
    · subst same
      simp [System.enter, Phase.Holds] at holds
    · exact inv.lock other (by simpa [System.enter, same] using holds)
  · intro other
    by_cases same : other = tx
    · subst same
      simp [System.enter, Phase.Sound]
    · simpa [System.enter, same] using inv.sound other

theorem Inv.start {s : System Tx} (inv : Inv s) (tx : Tx) (args : CheckpointArgs)
    (recordedAt now : Timestamp) (candidate : Uuid) :
    Inv (s.start tx args recordedAt now candidate) := by
  unfold System.start
  split
  · next ticks =>
      split
      · next idle validated =>
          split
          · exact inv
          · exact inv.waiting idle ticks.1 ticks.2
      · exact inv.leave tx
      · exact inv
  · exact inv

theorem Inv.acquire {s : System Tx} (inv : Inv s) {tx : Tx} {call : Started}
    (waiting : s.phase tx = .waiting call) (free : s.lock = none) :
    Inv { s.enter tx (.holding call) with lock := some tx } := by
  have nobody (other : Tx) : ¬ (s.phase other).Holds := fun holds => by
    simp [inv.lock other holds] at free
  have locked : Inv { s with lock := some tx } :=
    ⟨inv.grown, inv.distinct, inv.past, inv.started, inv.apart,
      fun other holds => absurd holds (nobody other), inv.sound⟩
  exact locked.enter (fun found started => by simpa [waiting, Phase.call?] using started)
    (fun _ => rfl) trivial

/-- A committed row joins the log under its own clock reading. -/
theorem Inv.commit {s : System Tx} (inv : Inv s) {tx : Tx} {call : Started} {row : Checkpoint}
    (executed : s.phase tx = .executed call (some row)) :
    Inv { s.leave tx with committed := s.committed ++ [row] } := by
  have held : s.lock = some tx := inv.lock tx (by rw [executed]; trivial)
  have sound := inv.sound tx
  rw [executed] at sound
  obtain ⟨names, fresh⟩ := sound
  obtain ⟨earlier, absent⟩ := inv.started tx call (by rw [executed]; rfl)
  have left := inv.leave tx
  have closed : (s.leave tx).phase tx = .closed := by simp [System.leave, System.enter]
  have others {other : Tx} (ne : other ≠ tx) : (s.leave tx).phase other = s.phase other := by
    simp [System.leave, System.enter, ne]
  refine ⟨left.grown.snoc fresh names.previous, ?_, ?_, ?_, left.apart, left.lock, ?_⟩
  · rw [List.map_append, List.nodup_append]
    refine ⟨inv.distinct, by simp, ?_⟩
    rintro time present other last rfl
    obtain rfl : time = row.recordedAt := by simpa using last
    exact absent (names.recordedAt ▸ present)
  · intro other member
    rcases List.mem_append.mp member with before | last
    · exact left.past other before
    · rw [List.mem_singleton.mp last, names.recordedAt]
      exact earlier
  · intro other found started
    obtain ⟨before, apart⟩ := left.started other found started
    refine ⟨before, ?_⟩
    have ne : other ≠ tx := by
      rintro rfl
      simp [closed, Phase.call?] at started
    rw [List.map_append, List.mem_append, not_or]
    refine ⟨apart, fun last => ne ?_⟩
    have same : found.recordedAt = call.recordedAt := by
      rw [← names.recordedAt]
      simpa using last
    exact inv.apart other tx found call (by rwa [others ne] at started)
      (by rw [executed]; rfl) same
  · intro other
    by_cases same : other = tx
    · subst same
      rw [closed]
      trivial
    · refine Phase.sound_of_not_holds fun holds => same ?_
      rw [others same] at holds
      exact Option.some.inj ((inv.lock other holds).symm.trans held)

theorem Inv.step {s : System Tx} (inv : Inv s) (db : Database) (action : Action Tx) :
    Inv (step db s action).1 := by
  cases action with
  | start tx args recordedAt now candidate => exact inv.start tx args recordedAt now candidate
  | acquire tx =>
      simp only [Assurance.step]
      split
      · next waiting free => exact inv.acquire waiting free
      · exact inv
  | compose tx verification dailEvents =>
      simp only [Assurance.step]
      split
      · next call holding =>
          refine inv.proceed (inv.lock tx (by rw [holding]; trivial)) ?_ ?_
          · intro row found started
            rw [holding]
            exact started
          · intro row t composed
            obtain ⟨_, proposed⟩ := composeCheckpoint_ok composed
            exact ⟨proposed.recordedAt, proposed.previous⟩
      · exact inv
  | insert tx =>
      simp only [Assurance.step]
      split
      · next call row composed =>
          have sound := inv.sound tx
          rw [composed] at sound
          refine inv.proceed (inv.lock tx (by rw [composed]; trivial)) ?_ ?_
          · intro inserted found started
            rw [composed]
            exact started
          · intro inserted t inserting
            cases insertCheckpoint_ok inserting with
            | new key id receipt =>
                refine ⟨sound, fun present => ?_⟩
                obtain ⟨other, member, same⟩ := List.mem_map.mp present
                exact receipt other member same
            | taken other present key => trivial
      · exact inv
  | commit tx =>
      simp only [Assurance.step]
      split
      · next call pending executed =>
          cases pending with
          | none =>
              simp only [Option.toList_none, List.append_nil]
              exact inv.leave tx
          | some row => exact inv.commit executed
      · exact inv
  | abort tx => exact inv.leave tx

theorem inv_run (db : Database) (clock : Timestamp) (schedule : List (Action Tx)) :
    Inv (run db clock schedule) :=
  Runs.invariant_run Inv (fun _ action inv => inv.step db action) (Inv.initial clock) schedule

/-! ## When the receipts form one line -/

/-- A row that is committed finds the row committed last to carry the latest clock
reading, so that the transactions took the lock in the order of their readings. -/
def InOrder (s : System Tx) : Action Tx → Prop
  | .commit tx => ∀ call row, s.phase tx = .executed call (some row) →
      ∀ last, s.committed.getLast? = some last →
        ∀ other ∈ s.committed, other.recordedAt ≤ last.recordedAt
  | _ => True

theorem lastRecorded_mem {rows : List Checkpoint} {row : Checkpoint}
    (found : lastRecorded rows = some row) : row ∈ rows :=
  List.argmax_mem found

theorem lastRecorded_eq_none {rows : List Checkpoint} (absent : lastRecorded rows = none) :
    rows = [] :=
  List.argmax_eq_none.mp absent

theorem lastRecorded_eq_getLast?_iff {rows : List Checkpoint}
    (distinct : (rows.map Checkpoint.recordedAt).Nodup) :
    lastRecorded rows = rows.getLast? ↔ ∀ last, rows.getLast? = some last →
      ∀ other ∈ rows, other.recordedAt ≤ last.recordedAt := by
  have apart : (rows.map fun row => toLex (row.recordedAt, row.checkpointId)).Nodup := by
    refine .of_map (fun key => (ofLex key).1) ?_
    rwa [List.map_map]
  cases lastEq : rows.getLast? with
  | none =>
      rw [List.getLast?_eq_none_iff.mp lastEq]
      simp [lastRecorded]
  | some last =>
      have lastMem := List.mem_of_getLast? lastEq
      rw [lastRecorded, Lineage.argmax_eq_some_iff apart]
      simp only [lastMem, true_and, Option.some.injEq, forall_eq']
      refine forall₂_congr fun other member => ?_
      rw [Prod.Lex.toLex_le_toLex]
      constructor
      · rintro (less | ⟨same, _⟩)
        · exact less.le
        · exact same.le
      · intro le
        rcases le.lt_or_eq with less | same
        · exact .inl less
        · rw [List.inj_on_of_nodup_map distinct member lastMem same]
          exact .inr ⟨rfl, le_rfl⟩

/-- An action commits the row of one transaction or no row. -/
theorem step_committed (db : Database) (s : System Tx) (action : Action Tx) :
    ((step db s action).1.committed = s.committed ∧ InOrder s action) ∨
      ∃ tx call row, action = .commit tx ∧ s.phase tx = .executed call (some row) ∧
        (step db s action).1.committed = s.committed ++ [row] := by
  cases action with
  | start tx args recordedAt now candidate =>
      refine .inl ⟨?_, trivial⟩
      simp only [step, System.start]
      repeat' split
      all_goals rfl
  | acquire tx =>
      refine .inl ⟨?_, trivial⟩
      simp only [step]
      split <;> rfl
  | compose tx verification dailEvents =>
      refine .inl ⟨?_, trivial⟩
      simp only [step, System.proceed]
      repeat' split
      all_goals rfl
  | insert tx =>
      refine .inl ⟨?_, trivial⟩
      simp only [step, System.proceed]
      repeat' split
      all_goals rfl
  | commit tx =>
      cases phase : s.phase tx with
      | executed call pending =>
          cases pending with
          | none =>
              refine .inl ⟨by simp [step, phase], fun call row executed => ?_⟩
              simp [phase] at executed
          | some row => exact .inr ⟨tx, call, row, rfl, phase, by simp [step, phase]⟩
      | idle | waiting _ | holding _ | composed _ _ | closed =>
          refine .inl ⟨by simp [step, phase], fun call row executed => ?_⟩
          simp [phase] at executed
  | abort tx => exact .inl ⟨rfl, trivial⟩

theorem Inv.linear_step_iff {s : System Tx} (inv : Inv s) (db : Database) (action : Action Tx)
    (line : Lineage.Linear receiptLink s.committed) :
    Lineage.Linear receiptLink (Assurance.step db s action).1.committed ↔ InOrder s action := by
  rcases step_committed db s action with ⟨same, ordered⟩ | ⟨tx, call, row, rfl, executed, added⟩
  · rw [same]
    exact iff_of_true line ordered
  · have sound := inv.sound tx
    rw [executed] at sound
    obtain ⟨names, fresh⟩ := sound
    rw [added, inv.grown.linear_snoc_iff fresh names.previous lastRecorded_mem
      lastRecorded_eq_none line, lastRecorded_eq_getLast?_iff inv.distinct]
    exact ⟨fun latest _ _ _ => latest, fun ordered => ordered call row executed⟩

/-- In every interleaving the receipts of every state reached form one line exactly
when every commit finds the row committed last to carry the latest clock reading. -/
theorem receipts_linear_iff (db : Database) (clock : Timestamp) (schedule : List (Action Tx)) :
    (∀ before rest, schedule = before ++ rest →
      Lineage.Linear receiptLink (run db clock before).committed) ↔
    ∀ before action rest, schedule = before ++ action :: rest →
      InOrder (run db clock before) action := by
  induction schedule using List.reverseRecOn with
  | nil =>
      refine iff_of_true (fun before rest whole => ?_) (fun before action rest whole => ?_)
      · obtain ⟨rfl, _⟩ := List.append_eq_nil_iff.mp whole.symm
        exact Lineage.linear_of_follows List.nodup_nil .nil
      · simp at whole
  | append_singleton schedule last ih =>
      have after : run db clock (schedule ++ [last]) =
          (step db (run db clock schedule) last).1 := by
        rw [run, Runs.run_append]
        rfl
      have inv := inv_run db clock schedule
      constructor
      · intro lines
        have earlier : ∀ before rest, schedule = before ++ rest →
            Lineage.Linear receiptLink (run db clock before).committed :=
          fun before rest whole => lines before (rest ++ [last]) (by rw [whole, List.append_assoc])
        intro before action rest whole
        cases rest using List.reverseRecOn with
        | nil =>
            obtain ⟨rfl, same⟩ := List.append_inj' whole rfl
            obtain rfl := List.singleton_inj.mp same
            have line := lines (schedule ++ [last]) [] (by simp)
            rw [after] at line
            exact (inv.linear_step_iff db last (earlier schedule [] (by simp))).mp line
        | append_singleton rest final =>
            rw [← List.cons_append, ← List.append_assoc] at whole
            exact ih.mp earlier before action rest (List.append_inj' whole rfl).1
      · intro ordered
        have earlier := ih.mpr fun before action rest whole =>
          ordered before action (rest ++ [last]) (by rw [whole, List.append_assoc]; rfl)
        intro before rest whole
        cases rest using List.reverseRecOn with
        | nil =>
            obtain rfl : schedule ++ [last] = before := by simpa using whole
            rw [after]
            exact (inv.linear_step_iff db last (earlier schedule [] (by simp))).mpr
              (ordered schedule last [] rfl)
        | append_singleton rest final =>
            rw [← List.append_assoc] at whole
            exact earlier before rest (List.append_inj' whole rfl).1

end System

/-! ## A fork -/

namespace Sample

/-- The statements of one transaction from the lock to its commit. -/
def finish (tx : Nat) : List (Action Nat) :=
  [.acquire tx, .compose tx verification dailEvents, .insert tx, .commit tx]

/-- The first transaction reads the clock before the second one and takes the lock
after it; the third one comes last. -/
def schedule : List (Action Nat) :=
  [.start 1 (args "first key") 1 2 1, .start 2 (args "second key") 3 4 2] ++ finish 2 ++
    finish 1 ++ .start 3 (args "third key") 5 6 3 :: finish 3

end Sample

/-- Two checkpoints follow the same one, which was committed first and has the
latest clock reading of the two before the third. -/
theorem receipts_fork :
    ¬ ∀ (db : Database) (clock : Timestamp) (schedule : List (Action Nat)),
      Lineage.Linear receiptLink (run db clock schedule).committed := by
  intro every
  have line := every Sample.database 0 Sample.schedule
  have links : (run Sample.database 0 Sample.schedule).committed.map
      (fun row => (row.recordedAt, row.previousCheckpointReceiptSha256)) =
      [(3, none), (1, some (Id32.repeated 3)), (5, some (Id32.repeated 3))] := by
    decide +kernel
  obtain ⟨first, rest, whole, _, links⟩ := List.map_eq_cons_iff.mp links
  obtain ⟨second, rest, rfl, secondEq, links⟩ := List.map_eq_cons_iff.mp links
  obtain ⟨third, rest, rfl, thirdEq, _⟩ := List.map_eq_cons_iff.mp links
  simp only [Prod.mk.injEq] at secondEq thirdEq
  rw [whole] at line
  have same : second = third := line.fork second (by simp) third (by simp)
    (by simp [receiptLink, secondEq.2]) (by simp [receiptLink, secondEq.2, thirdEq.2])
  have times : (1 : Timestamp) = 5 := secondEq.1.symm.trans ((congrArg _ same).trans thirdEq.1)
  exact absurd times (by decide)

end Chlom.Assurance
