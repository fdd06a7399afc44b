import Chlom.Library.Json
import Chlom.Sql

/-!
# The supervision cycle of the route agent

A cycle opens a run record, checks the scheduler of six jobs and recovers them, reads
the status of the project and closes its record.  The scheduler, the recovery
functions and the status reads belong to other components; each of their calls returns
or raises.  `OTHERS` matches every error but a cancelled query and a failed assertion.
-/

namespace Chlom.Autonomy

open Assurance (Text text Timestamp Uuid)

/-! ## Rows -/

/-- A job of the scheduler. -/
structure CronJob where
  jobid : Nat
  jobname : Text
  schedule : Text
  command : Text
  active : Bool
  deriving DecidableEq

inductive RunState where
  | running | operational | degraded | error
  deriving DecidableEq

structure AutonomyRun where
  runId : Uuid
  startedAt : Timestamp
  completedAt : Option Timestamp
  state : RunState
  healedJobs : List Text
  staleJobs : List Text
  checks : Json
  phase3Snapshot : Option Json
  pentarouteSnapshot : Option Json
  factorySnapshot : Option Json
  error : Option Text
  metadata : Json

/-- The jobs of the scheduler, the run records, and the rest of the database. -/
structure Database (Rest : Type) where
  jobs : Table CronJob.jobid
  runs : Table AutonomyRun.runId
  rest : Rest

variable {Rest α : Type}

/-- The first job of a name. -/
def Database.findJob (db : Database Rest) (jobname : Text) : Option CronJob :=
  db.jobs.rows.find? fun job => job.jobname = jobname

/-- Change the run record of an identifier. -/
def Database.updateRun (db : Database Rest) (runId : Uuid) (update : AutonomyRun → AutonomyRun) :
    Database Rest :=
  match db.runs.find runId with
  | none => db
  | some run => { db with runs := db.runs.put { update run with runId := run.runId } }

/-! ## Calls of other components -/

/-- The conditions of an error that a handler of `OTHERS` tells apart. -/
inductive Condition where
  | queryCanceled | assertFailure | other
  deriving DecidableEq

structure SqlError where
  condition : Condition
  sqlerrm : Text

/-- `OTHERS` matches the error. -/
def SqlError.others (error : SqlError) : Bool := error.condition = .other

abbrev Step (Rest α : Type) := Dispatch (Database Rest) SqlError α

/-- A call of another component: what it answers or raises, and what it does to the rest
of the database. -/
structure Call (Rest α : Type) where
  outcome : Except SqlError α
  effect : Rest → Rest

def Database.after (db : Database Rest) (call : Call Rest α) : Database Rest :=
  { db with rest := call.effect db.rest }

def Call.perform (call : Call Rest α) : Step Rest α := do
  Dispatch.write fun db => db.after call
  Dispatch.ofExcept call.outcome

inductive RecoveryFunction where
  | factoryDispatchTick | factoryContinuityCycle | factoryTick | phase3SelfDiscoveryTick
  | phase3ConvergeAllBoundedWrites | pentarouteStatus
  deriving DecidableEq

/-- The calls of one cycle, those about a job by its name. -/
structure Calls (Rest : Type) where
  /-- Reading `cron.job`. -/
  cronJob : Text → Call Rest Unit
  /-- `cron.schedule`. -/
  schedule : Text → Call Rest Unit
  /-- Reading `cron.job` once more. -/
  cronJobAgain : Text → Call Rest Unit
  /-- `cron.alter_job`. -/
  alterJob : Text → Call Rest Unit
  /-- The last end of a successful run in `cron.job_run_details`. -/
  lastSuccess : Text → Call Rest (Option Timestamp)
  /-- The status of the run that started last in `cron.job_run_details`. -/
  latestStatus : Text → Call Rest (Option Text)
  recovery : RecoveryFunction → Call Rest (Option Json)
  /-- `ct_phase3_project_status_v3`. -/
  phase3Status : Call Rest (Option Json)
  /-- `pentaroute_status_v3`. -/
  pentarouteStatus : Call Rest (Option Json)
  /-- The certification queue by state. -/
  certificationQueue : Call Rest Json
  /-- The text of a time in a document. -/
  timeText : Timestamp → Text

/-! ## The scheduler -/

/-- An identifier that no job has. -/
def nextJobId (jobs : Table CronJob.jobid) : Nat :=
  (jobs.rows.map CronJob.jobid).foldr max 0 + 1

structure JobSpec where
  jobname : Text
  schedule : Text
  command : Text
  staleAfter : Timestamp
  recovery : RecoveryFunction

def minutes (n : Int) : Timestamp := n * 60000000

def JOBS : List JobSpec :=
  [⟨text "ct-software-factory-dispatch-v3", text "* * * * *",
      text "select public.ct_factory_dispatch_tick();", minutes 4, .factoryDispatchTick⟩,
    ⟨text "ct-software-factory-continuity-v5", text "*/2 * * * *",
      text "select public.ct_factory_continuity_cycle(1);", minutes 7, .factoryContinuityCycle⟩,
    ⟨text "ct-software-factory-tick-v2", text "*/5 * * * *",
      text "select public.ct_factory_tick();", minutes 12, .factoryTick⟩,
    ⟨text "ct-phase3-self-discovery-v3", text "*/5 * * * *",
      text "select public.ct_phase3_self_discovery_tick_v3();", minutes 12,
      .phase3SelfDiscoveryTick⟩,
    ⟨text "ct-phase3-bounded-write-convergence-v3", text "*/5 * * * *",
      text "select integration_control.phase3_converge_all_bounded_writes_v3();", minutes 12,
      .phase3ConvergeAllBoundedWrites⟩,
    ⟨text "pentabeata-heartbeat-v3", text "*/5 * * * *",
      text "select public.pentaroute_status_v3();", minutes 12, .pentarouteStatus⟩]

/-- The active job that is created for a specification. -/
def JobSpec.job (spec : JobSpec) (jobid : Nat) : CronJob :=
  ⟨jobid, spec.jobname, spec.schedule, spec.command, true⟩

def Database.create (db : Database Rest) (spec : JobSpec) : Database Rest :=
  { db with jobs := db.jobs.put (spec.job (nextJobId db.jobs)) }

def Database.activate (db : Database Rest) (job : CronJob) : Database Rest :=
  { db with jobs := db.jobs.put { job with active := true } }

variable (calls : Calls Rest) (now : Timestamp)

def cronSchedule (spec : JobSpec) : Step Rest Unit := do
  (calls.schedule spec.jobname).perform
  Dispatch.write fun db => db.create spec

def cronActivate (job : CronJob) : Step Rest Unit := do
  (calls.alterJob job.jobname).perform
  Dispatch.write fun db => db.activate job

/-- Create a missing job or activate one that is not active, and tell the record of the
job and the reason to recover. -/
def healScheduler (spec : JobSpec) : Option CronJob → Step Rest (Option CronJob × Option Text)
  | none => do
      cronSchedule calls spec
      (calls.cronJobAgain spec.jobname).perform
      let created ← Dispatch.read fun db => db.findJob spec.jobname
      pure (created, some (text "scheduler_recreated"))
  | some job =>
      if job.active = false then do
        cronActivate calls job
        -- the record of the job is not read again
        pure (some job, some (text "scheduler_reactivated"))
      else pure (some job, none)

def checkScheduler (spec : JobSpec) : Step Rest (Option CronJob × Option Text) := do
  (calls.cronJob spec.jobname).perform
  let existing ← Dispatch.read fun db => db.findJob spec.jobname
  healScheduler calls spec existing

/-! ## One job -/

/-- The variables of the cycle. -/
structure Locals where
  healed : List Text
  stale : List Text
  checks : Json
  state : RunState

def Locals.start : Locals :=
  ⟨[], [], .object [], .operational⟩

def isStale (lastSuccess : Option Timestamp) (latestStatus : Option Text) (spec : JobSpec) : Bool :=
  match lastSuccess with
  | none => true
  | some time => time < now - spec.staleAfter || latestStatus = some (text "failed")

/-- Call the recovery function of a job in a block of its own, whose handler degrades the
cycle. -/
def recover (state : RunState) (spec : JobSpec) : Step Rest (RunState × Option Json) :=
  Dispatch.rescue SqlError.others
    (do
      let result ← (calls.recovery spec.recovery).perform
      pure (state, result))
    fun error =>
      pure (.degraded,
        some (.object [(text "ok", .bool false), (text "error", .string error.sqlerrm)]))

/-- Recover a job if there is a reason to. -/
def recoverFor (reason : Option Text) (state : RunState) (spec : JobSpec) :
    Step Rest (RunState × Option Json) :=
  if reason.isSome then recover calls state spec else pure (state, none)

def nullable (document : Option Json) : Json := document.getD .null

/-- What a cycle notes about a job. -/
def checkDocument (existing : Option CronJob) (lastSuccess : Option Timestamp)
    (latestStatus reason : Option Text) (recovery : Option Json) : Json :=
  .object [(text "active", .bool ((existing.map CronJob.active).getD true)),
    (text "last_success", nullable (lastSuccess.map fun time => .string (calls.timeText time))),
    (text "latest_status", nullable (latestStatus.map .string)),
    (text "recovery_reason", nullable (reason.map .string)),
    (text "recovery_result", nullable recovery)]

/-- One turn of the loop. -/
def superviseJob (v : Locals) (spec : JobSpec) : Step Rest Locals := do
  let (existing, healing) ← checkScheduler calls spec
  let lastSuccess ← (calls.lastSuccess spec.jobname).perform
  let latestStatus ← (calls.latestStatus spec.jobname).perform
  let stale := isStale now lastSuccess latestStatus spec
  let reason := healing.or (if stale then some (text "stale_or_failed") else none)
  let (state, recovery) ← recoverFor calls reason v.state spec
  let check := checkDocument calls existing lastSuccess latestStatus reason recovery
  pure {
    healed := if healing.isSome then v.healed ++ [spec.jobname] else v.healed
    stale := if stale then v.stale ++ [spec.jobname] else v.stale
    checks := v.checks.concat (.object [(spec.jobname, check)])
    state := state }

/-! ## The cycle -/

/-- The document a cycle returns. -/
inductive Answer where
  | finished (runId : Uuid) (v : Locals) (phase3 pentaroute : Option Json) (factory : Json)
  | failed (runId : Uuid) (error : Text)

def Answer.runId : Answer → Uuid
  | .finished runId _ _ _ _ => runId
  | .failed runId _ => runId

def Answer.state : Answer → RunState
  | .finished _ v _ _ _ => v.state
  | .failed _ _ => .error

def Answer.error : Answer → Option Text
  | .finished _ _ _ _ _ => none
  | .failed _ error => some error

/-- `ok` in the document. -/
def Answer.ok (answer : Answer) : Bool := answer.state = .operational

def openRun (runId : Uuid) : AutonomyRun where
  runId := runId
  startedAt := now
  completedAt := none
  state := .running
  healedJobs := []
  staleJobs := []
  checks := .object []
  phase3Snapshot := none
  pentarouteSnapshot := none
  factorySnapshot := none
  error := none
  metadata := .object [(text "contract", .string (text "ct.penta.route.autonomy.v3")),
    (text "phase", .number (text "3"))]

def Database.opened (db : Database Rest) (runId : Uuid) : Database Rest :=
  { db with runs := db.runs.put (openRun now runId) }

def insertRun (runId : Uuid) : Step Rest Unit := do
  let runs ← Dispatch.read Database.runs
  Dispatch.ensure (runs.find runId = none)
    ⟨.other, text "duplicate key value violates unique constraint"⟩
  Dispatch.write fun db => db.opened now runId

/-- The block of the cycle before its exception handler. -/
def cycleBlock (runId : Uuid) : Step Rest Answer := do
  insertRun now runId
  let v ← JOBS.foldlM (superviseJob calls now) .start
  let phase3 ← calls.phase3Status.perform
  let pentaroute ← calls.pentarouteStatus.perform
  let factory ← calls.certificationQueue.perform
  Dispatch.write fun db => db.updateRun runId fun run => { run with
    completedAt := some now
    state := v.state
    healedJobs := v.healed
    staleJobs := v.stale
    checks := v.checks
    phase3Snapshot := phase3
    pentarouteSnapshot := pentaroute
    factorySnapshot := some factory
    metadata := run.metadata.concat (.object [(text "d3_human_governance", .bool true),
      (text "universal_delete", .bool false), (text "provider_authority_manufacture", .bool false),
      (text "uncertified_mutations", .bool false)]) }
  pure (.finished runId v phase3 pentaroute factory)

/-- The cycle.  Its handler runs after every change of the block was undone. -/
def pentarouteAutonomyCycleV3 (runId : Uuid) : Step Rest Answer :=
  Dispatch.rescue SqlError.others (cycleBlock calls now runId) fun error => do
    Dispatch.write fun db => db.updateRun runId fun run => { run with
      completedAt := some now
      state := .error
      error := some error.sqlerrm
      metadata := run.metadata.concat (.object [(text "d3_human_governance", .bool true),
        (text "universal_delete", .bool false)]) }
    pure (.failed runId error.sqlerrm)

end Chlom.Autonomy
