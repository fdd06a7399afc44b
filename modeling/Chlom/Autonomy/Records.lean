import Chlom.Autonomy.Cycle

/-!
# What a supervision cycle leaves on record

A recovery function that raises is undone by its own block, and the cycle goes on.  An
exception of any other call ends in the outer handler, which runs after the whole block
was undone, the insert of the run record included.  An error that `OTHERS` does not match
passes both handlers, and the cycle itself raises.
-/

namespace Chlom.Autonomy

open Assurance (Text text Timestamp Uuid)

variable {Rest α : Type} {calls : Calls Rest} {now : Timestamp} {db db' : Database Rest}
  {spec : JobSpec} {runId : Uuid} {v v' : Locals}

/-! ## The property and its condition -/

/-- The first job of a name is active. -/
def Database.Active (db : Database Rest) (jobname : Text) : Prop :=
  ∃ job, db.findJob jobname = some job ∧ job.active = true

/-- The scheduler of a job was created or activated between two states. -/
def Healed (before after : Database Rest) (jobname : Text) : Prop :=
  after.Active jobname ∧ ¬ before.Active jobname

/-- The run of an answer is on record as the answer says, with the jobs that were healed. -/
def Recorded (before after : Database Rest) (answer : Answer) : Prop :=
  ∃ run, after.runs.find answer.runId = some run ∧ run.completedAt.isSome ∧
    run.state = answer.state ∧ answer.state ≠ .running ∧ (answer.state = .error → run.error = answer.error) ∧
    ∀ jobname, jobname ∈ run.healedJobs ↔ Healed before after jobname

def Call.Returns (call : Call Rest α) : Prop :=
  ∃ value, call.outcome = .ok value

/-- The scheduler calls that a job needs return. -/
def SchedulerReturns (calls : Calls Rest) (db : Database Rest) (jobname : Text) : Prop :=
  (calls.cronJob jobname).Returns ∧
    (db.findJob jobname = none →
      (calls.schedule jobname).Returns ∧ (calls.cronJobAgain jobname).Returns) ∧
    ∀ job, db.findJob jobname = some job → job.active = false → (calls.alterJob jobname).Returns

/-- A recovery is needed: the scheduler of the job is missing or not active, or its runs
are read as stale or failed. -/
def NeedsRecovery (calls : Calls Rest) (now : Timestamp) (db : Database Rest) (spec : JobSpec) :
    Prop :=
  ¬ db.Active spec.jobname ∨ ∃ lastSuccess latestStatus,
    (calls.lastSuccess spec.jobname).outcome = .ok lastSuccess ∧
      (calls.latestStatus spec.jobname).outcome = .ok latestStatus ∧
      isStale now lastSuccess latestStatus spec = true

/-- The call raises nothing but what `OTHERS` matches. -/
def Call.RaisesOthers (call : Call Rest α) : Prop :=
  ∀ error, call.outcome = .error error → error.others = true

/-- The calls about a job that are made outside its recovery block return, and so does the
block if it is entered. -/
structure JobReturns (calls : Calls Rest) (now : Timestamp) (db : Database Rest)
    (spec : JobSpec) : Prop where
  scheduler : SchedulerReturns calls db spec.jobname
  lastSuccess : (calls.lastSuccess spec.jobname).Returns
  latestStatus : (calls.latestStatus spec.jobname).Returns
  recovery : NeedsRecovery calls now db spec → (calls.recovery spec.recovery).RaisesOthers

/-- Every call outside the recovery blocks returns, and nothing leaves these blocks. -/
structure NothingEscapes (calls : Calls Rest) (now : Timestamp) (db : Database Rest) : Prop where
  jobs : ∀ spec ∈ JOBS, JobReturns calls now db spec
  phase3 : calls.phase3Status.Returns
  pentaroute : calls.pentarouteStatus.Returns
  factory : calls.certificationQueue.Returns

/-! ## Calls -/

theorem perform_ok {call : Call Rest α} {value : α} : call.perform db = .ok value db' ↔
    call.outcome = .ok value ∧ db' = db.after call := by
  rw [Call.perform, Dispatch.write_bind, Dispatch.ofExcept_ok]

theorem perform_of_ok {call : Call Rest α} {value : α} (returned : call.outcome = .ok value) :
    call.perform db = .ok value (db.after call) :=
  perform_ok.mpr ⟨returned, rfl⟩

theorem perform_of_error {call : Call Rest α} {error : SqlError}
    (raised : call.outcome = .error error) :
    call.perform db = .error error (db.after call) := by
  rw [Call.perform, Dispatch.write_bind, raised]
  rfl

@[simp]
theorem findJob_after {call : Call Rest α} (jobname : Text) :
    (db.after call).findJob jobname = db.findJob jobname :=
  rfl

/-! ## The jobs of a name -/

theorem lt_nextJobId {jobs : Table CronJob.jobid} {job : CronJob} (member : job ∈ jobs) :
    job.jobid < nextJobId jobs := by
  have bound : ∀ ids : List Nat, ∀ n ∈ ids, n ≤ ids.foldr max 0 := by
    intro ids
    induction ids with
    | nil => simp
    | cons first rest ih =>
        intro n listed
        rcases List.mem_cons.mp listed with rfl | later
        · exact le_max_left n _
        · exact (ih n later).trans (le_max_right first _)
  exact Nat.lt_succ_of_le (bound _ _ (List.mem_map_of_mem member))

theorem nextJobId_fresh (jobs : Table CronJob.jobid) : jobs.find (nextJobId jobs) = none := by
  apply Table.find_eq_none.mpr
  intro job member same
  exact absurd (lt_nextJobId member) (by omega)

theorem findJob_create (absent : db.findJob spec.jobname = none) (jobname : Text) :
    (db.create spec).findJob jobname =
      if spec.jobname = jobname then some (spec.job (nextJobId db.jobs))
      else db.findJob jobname := by
  have rows : (db.create spec).jobs.rows = db.jobs.rows ++ [spec.job (nextJobId db.jobs)] :=
    Table.rows_put_of_fresh (nextJobId_fresh db.jobs)
  rw [Database.findJob, rows, List.find?_append, ← Database.findJob]
  by_cases same : spec.jobname = jobname
  · rw [if_pos same, ← same, absent]
    simp [JobSpec.job]
  · simp [JobSpec.job, same]

theorem jobname_of_findJob {jobname : Text} {job : CronJob} (found : db.findJob jobname = some job) :
    job.jobname = jobname := by
  simpa using List.find?_some found

theorem findJob_activate {jobname : Text} {job : CronJob} (found : db.findJob jobname = some job)
    (other : Text) : (db.activate job).findJob other =
      if jobname = other then some { job with active := true } else db.findJob other := by
  have member : job ∈ db.jobs.rows := List.mem_of_find?_eq_some found
  have named := jobname_of_findJob found
  have written : (db.activate job).findJob other = (db.findJob other).map fun stored =>
      if stored.jobid = job.jobid then { job with active := true } else stored :=
    Table.find?_putRow_of_mem db.jobs.distinct member rfl rfl
  by_cases same : jobname = other
  · rw [written, if_pos same, ← same, found]
    simp
  · rw [written, if_neg same]
    cases present : db.findJob other with
    | none => rfl
    | some later =>
        have apart : later.jobid ≠ job.jobid := by
          intro equal
          have one : later = job :=
            Table.eq_of_key_eq (List.mem_of_find?_eq_some present) member equal
          exact same (named.symm.trans (one ▸ jobname_of_findJob present))
        simp [apart]

/-! ## The scheduler check -/

/-- What the scheduler check of a job leaves. -/
structure Scheduled (before after : Database Rest) (jobname : Text) : Prop where
  runs : after.runs = before.runs
  active : after.Active jobname
  others : ∀ other, other ≠ jobname → after.findJob other = before.findJob other

theorem cronSchedule_ok : cronSchedule calls spec db = .ok () db' ↔
    (calls.schedule spec.jobname).outcome = .ok () ∧
      db' = (db.after (calls.schedule spec.jobname)).create spec := by
  rw [cronSchedule, Dispatch.bind_unit_ok]
  simp only [perform_ok]
  constructor
  · rintro ⟨middle, ⟨returned, rfl⟩, written⟩
    cases written
    exact ⟨returned, rfl⟩
  · rintro ⟨returned, rfl⟩
    exact ⟨_, ⟨returned, rfl⟩, rfl⟩

theorem cronActivate_ok {job : CronJob} : cronActivate calls job db = .ok () db' ↔
    (calls.alterJob job.jobname).outcome = .ok () ∧
      db' = (db.after (calls.alterJob job.jobname)).activate job := by
  rw [cronActivate, Dispatch.bind_unit_ok]
  simp only [perform_ok]
  constructor
  · rintro ⟨middle, ⟨returned, rfl⟩, written⟩
    cases written
    exact ⟨returned, rfl⟩
  · rintro ⟨returned, rfl⟩
    exact ⟨_, ⟨returned, rfl⟩, rfl⟩

theorem scheduled_create (absent : db.findJob spec.jobname = none) (first call : Call Rest α)
    (later : Call Rest α) :
    Scheduled db ((((db.after first).after call).create spec).after later) spec.jobname := by
  have found := @findJob_create _ ((db.after first).after call) spec absent
  refine ⟨rfl, ⟨spec.job (nextJobId db.jobs), ?_, rfl⟩, fun other apart => ?_⟩
  · rw [findJob_after, found, if_pos rfl]
    rfl
  · rw [findJob_after, found, if_neg apart.symm, findJob_after, findJob_after]

theorem scheduled_activate {jobname : Text} {job : CronJob} (first call : Call Rest α)
    (found : db.findJob jobname = some job) :
    Scheduled db (((db.after first).after call).activate job) jobname := by
  have written := @findJob_activate _ ((db.after first).after call) _ _ found
  refine ⟨rfl, ⟨{ job with active := true }, ?_, rfl⟩, fun other apart => ?_⟩
  · rw [written, if_pos rfl]
  · rw [written, if_neg apart.symm, findJob_after, findJob_after]

theorem scheduled_after {jobname : Text} (active : db.Active jobname) (call : Call Rest α) :
    Scheduled db (db.after call) jobname :=
  ⟨rfl, active, fun _ _ => rfl⟩

theorem checkScheduler_ok {found : Option CronJob × Option Text}
    (ran : checkScheduler calls spec db = .ok found db') :
    SchedulerReturns calls db spec.jobname ∧ Scheduled db db' spec.jobname ∧
      (found.2.isSome ↔ ¬ db.Active spec.jobname) := by
  rw [checkScheduler, Dispatch.bind_unit_ok] at ran
  obtain ⟨read, first, rest⟩ := ran
  obtain ⟨returned, rfl⟩ := perform_ok.mp first
  rw [Dispatch.read_bind, findJob_after] at rest
  cases present : db.findJob spec.jobname with
  | none =>
      rw [present, healScheduler] at rest
      obtain ⟨created, scheduled, again⟩ := Dispatch.bind_unit_ok.mp rest
      obtain ⟨made, rfl⟩ := cronSchedule_ok.mp scheduled
      obtain ⟨after, reread, last⟩ := Dispatch.bind_unit_ok.mp again
      obtain ⟨seen, rfl⟩ := perform_ok.mp reread
      cases last
      refine ⟨⟨⟨(), returned⟩, fun _ => ⟨⟨(), made⟩, ⟨(), seen⟩⟩, ?_⟩, ?_, ?_⟩
      · simp [present]
      · exact scheduled_create present _ _ _
      · simp [Database.Active, present]
  | some job =>
      rw [present, healScheduler] at rest
      by_cases idle : job.active = false
      · rw [if_pos idle] at rest
        obtain ⟨activated, altered, last⟩ := Dispatch.bind_unit_ok.mp rest
        obtain ⟨made, rfl⟩ := cronActivate_ok.mp altered
        cases last
        rw [jobname_of_findJob present] at made
        refine ⟨⟨⟨(), returned⟩, ?_, fun _ _ _ => ⟨(), made⟩⟩, ?_, ?_⟩
        · simp [present]
        · exact scheduled_activate _ _ present
        · simp [Database.Active, present, idle]
      · rw [if_neg idle] at rest
        cases rest
        have active : db.Active spec.jobname := ⟨job, present, by simpa using idle⟩
        refine ⟨⟨⟨(), returned⟩, ?_, ?_⟩, scheduled_after active _, ?_⟩
        · simp [present]
        · simp [present, idle]
        · simp [active]

theorem exists_checkScheduler (returns : SchedulerReturns calls db spec.jobname) :
    ∃ found db', checkScheduler calls spec db = .ok found db' := by
  obtain ⟨⟨_, returned⟩, missing, idle⟩ := returns
  rw [checkScheduler, Dispatch.bind_of_ok (perform_of_ok returned), Dispatch.read_bind,
    findJob_after]
  cases present : db.findJob spec.jobname with
  | none =>
      obtain ⟨⟨_, made⟩, ⟨_, seen⟩⟩ := missing present
      have scheduled : cronSchedule calls spec (db.after (calls.cronJob spec.jobname)) = .ok () _ :=
        cronSchedule_ok.mpr ⟨made, rfl⟩
      rw [healScheduler, Dispatch.bind_of_ok scheduled, Dispatch.bind_of_ok (perform_of_ok seen)]
      exact ⟨_, _, rfl⟩
  | some job =>
      rw [healScheduler]
      by_cases off : job.active = false
      · obtain ⟨_, made⟩ := idle job present off
        rw [← jobname_of_findJob present] at made
        have activated : cronActivate calls job (db.after (calls.cronJob spec.jobname)) = .ok () _ :=
          cronActivate_ok.mpr ⟨made, rfl⟩
        rw [if_pos off, Dispatch.bind_of_ok activated]
        exact ⟨_, _, rfl⟩
      · rw [if_neg off]
        exact ⟨_, _, rfl⟩

/-! ## One job -/

/-- A recovery returns whatever its function does, and leaves the records alone. -/
theorem recover_ok {state : RunState} {recovered : RunState × Option Json}
    (ran : recover calls state spec db = .ok recovered db') :
    (calls.recovery spec.recovery).RaisesOthers ∧
      (recovered.1 = state ∨ recovered.1 = .degraded) ∧ db'.jobs = db.jobs ∧ db'.runs = db.runs := by
  rcases Dispatch.rescue_ok.mp ran with returned | ⟨error, middle, raised, others, handled⟩
  · obtain ⟨result, middle, called, last⟩ := Dispatch.bind_ok.mp returned
    obtain ⟨outcome, rfl⟩ := perform_ok.mp called
    cases last
    exact ⟨fun error raised => by simp [outcome] at raised, .inl rfl, rfl, rfl⟩
  · cases handled
    refine ⟨fun other outcome => ?_, .inr rfl, rfl, rfl⟩
    rw [Dispatch.bind_of_error (perform_of_error outcome)] at raised
    cases raised
    exact others

theorem exists_recover (state : RunState) (db : Database Rest)
    (matched : (calls.recovery spec.recovery).RaisesOthers) :
    ∃ recovered db', recover calls state spec db = .ok recovered db' := by
  cases outcome : (calls.recovery spec.recovery).outcome with
  | ok result =>
      exact ⟨(state, result), _,
        Dispatch.rescue_of_ok (Dispatch.bind_ok.mpr ⟨_, _, perform_of_ok outcome, rfl⟩)⟩
  | error error =>
      have raised : (calls.recovery spec.recovery).perform db = .error error _ :=
        perform_of_error outcome
      exact ⟨_, db, Dispatch.rescue_of_caught (Dispatch.bind_of_error raised)
        (matched error outcome)⟩

theorem Scheduled.congr {middle : Database Rest} {jobname : Text}
    (scheduled : Scheduled db middle jobname) (jobs : db'.jobs = middle.jobs)
    (runs : db'.runs = middle.runs) : Scheduled db db' jobname := by
  have found : ∀ other, db'.findJob other = middle.findJob other := by
    intro other
    rw [Database.findJob, jobs, ← Database.findJob]
  obtain ⟨job, present, active⟩ := scheduled.active
  exact ⟨runs.trans scheduled.runs, ⟨job, (found jobname).trans present, active⟩,
    fun other apart => (found other).trans (scheduled.others other apart)⟩

theorem recoverFor_ok {state : RunState} {reason : Option Text}
    {recovered : RunState × Option Json}
    (ran : recoverFor calls reason state spec db = .ok recovered db') :
    (reason.isSome → (calls.recovery spec.recovery).RaisesOthers) ∧
      (recovered.1 = state ∨ recovered.1 = .degraded) ∧ db'.jobs = db.jobs ∧ db'.runs = db.runs := by
  rw [recoverFor] at ran
  by_cases needed : reason.isSome
  · rw [if_pos needed] at ran
    obtain ⟨others, kept⟩ := recover_ok ran
    exact ⟨fun _ => others, kept⟩
  · rw [if_neg needed] at ran
    cases ran
    exact ⟨fun called => absurd called needed, .inl rfl, rfl, rfl⟩

theorem exists_recoverFor {reason : Option Text} (state : RunState) (db : Database Rest)
    (matched : reason.isSome → (calls.recovery spec.recovery).RaisesOthers) :
    ∃ recovered db', recoverFor calls reason state spec db = .ok recovered db' := by
  rw [recoverFor]
  split
  case isTrue needed => exact exists_recover state db (matched needed)
  case isFalse => exact ⟨_, _, rfl⟩

/-- There is a reason to recover exactly if a recovery is needed. -/
theorem reason_isSome {healing : Option Text} {lastSuccess : Option Timestamp}
    {latestStatus : Option Text} (healed : healing.isSome ↔ ¬ db.Active spec.jobname)
    (first : (calls.lastSuccess spec.jobname).outcome = .ok lastSuccess)
    (second : (calls.latestStatus spec.jobname).outcome = .ok latestStatus) :
    (healing.or (if isStale now lastSuccess latestStatus spec then
      some (text "stale_or_failed") else none)).isSome ↔ NeedsRecovery calls now db spec := by
  rw [NeedsRecovery, ← healed, Option.isSome_or, Bool.or_eq_true]
  simp [first, second]

/-- What one turn of the loop leaves. -/
structure Supervised (db db' : Database Rest) (v v' : Locals) (jobname : Text) : Prop where
  scheduled : Scheduled db db' jobname
  healed : ∀ other, other ∈ v'.healed ↔ other ∈ v.healed ∨ other = jobname ∧ ¬ db.Active jobname
  state : v'.state = v.state ∨ v'.state = .degraded

theorem superviseJob_ok (ran : superviseJob calls now v spec db = .ok v' db') :
    JobReturns calls now db spec ∧ Supervised db db' v v' spec.jobname := by
  obtain ⟨found, checked, schedulerRan, rest⟩ := Dispatch.bind_ok.mp ran
  obtain ⟨scheduler, scheduled, healing⟩ := checkScheduler_ok schedulerRan
  obtain ⟨lastSuccess, read, firstRead, rest⟩ := Dispatch.bind_ok.mp rest
  obtain ⟨first, rfl⟩ := perform_ok.mp firstRead
  obtain ⟨latestStatus, read, secondRead, rest⟩ := Dispatch.bind_ok.mp rest
  obtain ⟨second, rfl⟩ := perform_ok.mp secondRead
  obtain ⟨recovered, after, recovering, last⟩ := Dispatch.bind_ok.mp rest
  obtain ⟨matched, state, jobs, runs⟩ := recoverFor_ok recovering
  cases last
  have recovery : NeedsRecovery calls now db spec →
      (calls.recovery spec.recovery).RaisesOthers := fun needed =>
    matched ((reason_isSome healing first second).mpr needed)
  refine ⟨⟨scheduler, ⟨lastSuccess, first⟩, ⟨latestStatus, second⟩, recovery⟩,
    ⟨scheduled.congr jobs runs, ?_, state⟩⟩
  intro other
  by_cases active : db.Active spec.jobname
  · have unhealed : found.2.isSome = false := by simpa [active] using healing
    simp [active, unhealed]
  · have healed : found.2.isSome = true := healing.mpr active
    simp [active, healed]

theorem exists_superviseJob (returns : JobReturns calls now db spec) :
    ∃ v' db', superviseJob calls now v spec db = .ok v' db' := by
  obtain ⟨scheduler, ⟨lastSuccess, first⟩, ⟨latestStatus, second⟩, recovery⟩ := returns
  obtain ⟨found, checked, schedulerRan⟩ := exists_checkScheduler scheduler
  obtain ⟨-, -, healing⟩ := checkScheduler_ok schedulerRan
  obtain ⟨recovered, after, recovering⟩ := exists_recoverFor v.state
    ((checked.after (calls.lastSuccess spec.jobname)).after (calls.latestStatus spec.jobname))
    fun reason => recovery ((reason_isSome healing first second).mp reason)
  rw [superviseJob, Dispatch.bind_of_ok schedulerRan]
  simp only [Dispatch.bind_of_ok (perform_of_ok first), Dispatch.bind_of_ok (perform_of_ok second),
    Dispatch.bind_of_ok recovering]
  exact ⟨_, _, rfl⟩

/-! ## The loop -/

theorem active_congr {jobname : Text} (same : db'.findJob jobname = db.findJob jobname) :
    db'.Active jobname ↔ db.Active jobname := by
  rw [Database.Active, Database.Active, same]

theorem JobReturns.congr (same : db'.findJob spec.jobname = db.findJob spec.jobname) :
    JobReturns calls now db' spec ↔ JobReturns calls now db spec := by
  have scheduler : SchedulerReturns calls db' spec.jobname ↔
      SchedulerReturns calls db spec.jobname := by
    rw [SchedulerReturns, SchedulerReturns, same]
  have recovery : NeedsRecovery calls now db' spec ↔ NeedsRecovery calls now db spec := by
    rw [NeedsRecovery, NeedsRecovery, active_congr same]
  exact ⟨fun r => ⟨scheduler.mp r.scheduler, r.lastSuccess, r.latestStatus,
      fun needed => r.recovery (recovery.mpr needed)⟩,
    fun r => ⟨scheduler.mpr r.scheduler, r.lastSuccess, r.latestStatus,
      fun needed => r.recovery (recovery.mp needed)⟩⟩

/-- What the loop over some jobs leaves. -/
structure Looped (db db' : Database Rest) (v v' : Locals) (names : List Text) : Prop where
  runs : db'.runs = db.runs
  active : ∀ name ∈ names, db'.Active name
  others : ∀ name, name ∉ names → db'.findJob name = db.findJob name
  healed : ∀ name, name ∈ v'.healed ↔ name ∈ v.healed ∨ name ∈ names ∧ ¬ db.Active name
  state : v'.state = v.state ∨ v'.state = .degraded

theorem loop_ok {specs : List JobSpec} (distinct : (specs.map JobSpec.jobname).Nodup)
    (ran : specs.foldlM (superviseJob calls now) v db = .ok v' db') :
    (∀ spec ∈ specs, JobReturns calls now db spec) ∧
      Looped db db' v v' (specs.map JobSpec.jobname) := by
  induction specs generalizing v db with
  | nil =>
      cases ran
      exact ⟨nofun, ⟨rfl, nofun, fun _ _ => rfl, by simp, .inl rfl⟩⟩
  | cons spec rest ih =>
      obtain ⟨fresh, rest_distinct⟩ := List.nodup_cons.mp distinct
      rw [List.foldlM_cons] at ran
      obtain ⟨v₁, db₁, first, later⟩ := Dispatch.bind_ok.mp ran
      obtain ⟨returns, turn⟩ := superviseJob_ok first
      obtain ⟨laterReturns, loop⟩ := ih rest_distinct later
      have untouched : ∀ name ∈ rest.map JobSpec.jobname, db₁.findJob name = db.findJob name := by
        intro name listed
        apply turn.scheduled.others
        exact fun same => fresh (same ▸ listed)
      refine ⟨?_, ⟨loop.runs.trans turn.scheduled.runs, ?_, ?_, ?_, ?_⟩⟩
      · intro other member
        rcases List.mem_cons.mp member with rfl | listed
        · exact returns
        · exact (JobReturns.congr (untouched _ (List.mem_map_of_mem listed))).mp
            (laterReturns other listed)
      · intro name member
        rcases List.mem_cons.mp member with rfl | listed
        · exact (active_congr (loop.others _ fresh)).mpr turn.scheduled.active
        · exact loop.active name listed
      · intro name absent
        obtain ⟨apart, unlisted⟩ := not_or.mp (fun either => absent (List.mem_cons.mpr either))
        exact (loop.others name unlisted).trans (turn.scheduled.others name apart)
      · intro name
        rw [loop.healed, turn.healed, List.map_cons, List.mem_cons]
        by_cases own : name = spec.jobname
        · subst own
          simp [fresh]
        · by_cases listed : name ∈ rest.map JobSpec.jobname
          · simp [own, listed, active_congr (untouched name listed)]
          · simp [own, listed]
      · rcases loop.state with same | degraded
        · rw [same]
          exact turn.state
        · exact .inr degraded

theorem exists_loop {specs : List JobSpec} (distinct : (specs.map JobSpec.jobname).Nodup)
    (returns : ∀ spec ∈ specs, JobReturns calls now db spec) :
    ∃ v' db', specs.foldlM (superviseJob calls now) v db = .ok v' db' := by
  induction specs generalizing v db with
  | nil => exact ⟨v, db, rfl⟩
  | cons spec rest ih =>
      obtain ⟨fresh, rest_distinct⟩ := List.nodup_cons.mp distinct
      obtain ⟨v₁, db₁, first⟩ : ∃ v₁ db₁, superviseJob calls now v spec db = .ok v₁ db₁ :=
        exists_superviseJob (returns spec List.mem_cons_self)
      obtain ⟨-, turn⟩ := superviseJob_ok first
      have later : ∀ other ∈ rest, JobReturns calls now db₁ other := by
        intro other member
        have apart : other.jobname ≠ spec.jobname := fun same =>
          fresh (same ▸ List.mem_map_of_mem member)
        exact (JobReturns.congr (turn.scheduled.others _ apart)).mpr
          (returns other (List.mem_cons_of_mem spec member))
      obtain ⟨v', db', ran⟩ := ih rest_distinct later
      rw [List.foldlM_cons, Dispatch.bind_of_ok first]
      exact ⟨v', db', ran⟩

theorem jobnames_distinct : (JOBS.map JobSpec.jobname).Nodup := by
  decide +kernel

/-! ## The cycle -/

theorem insertRun_ok : insertRun now runId db = .ok () db' ↔
    db.runs.find runId = none ∧ db' = db.opened now runId := by
  rw [insertRun, Dispatch.read_bind, Dispatch.ensure_bind_ok, Dispatch.write_apply]
  simp [eq_comm]

theorem find_updateRun {run : AutonomyRun} {update : AutonomyRun → AutonomyRun}
    (found : db.runs.find runId = some run) :
    (db.updateRun runId update).runs.find runId = some { update run with runId := runId } := by
  have named : run.runId = runId := Table.key_of_find found
  simp only [Database.updateRun, found, named, Table.find_put, if_true]

theorem findJob_opened (jobname : Text) :
    (db.opened now runId).findJob jobname = db.findJob jobname :=
  rfl

theorem findJob_updateRun (update : AutonomyRun → AutonomyRun) (jobname : Text) :
    (db.updateRun runId update).findJob jobname = db.findJob jobname := by
  rw [Database.updateRun]
  split
  · rfl
  · rfl

/-- The healed jobs of a loop over some jobs are those whose scheduler it changed. -/
theorem Looped.healed_iff {opened looped : Database Rest} {names : List Text}
    (loop : Looped opened looped .start v names)
    (before : ∀ name, opened.findJob name = db.findJob name)
    (after : ∀ name, db'.findJob name = looped.findJob name) (name : Text) :
    name ∈ v.healed ↔ Healed db db' name := by
  rw [loop.healed, Healed, active_congr (before name), active_congr (after name)]
  by_cases listed : name ∈ names
  · simp [Locals.start, listed, loop.active name listed]
  · have same : looped.Active name ↔ db.Active name :=
      active_congr ((loop.others name listed).trans (before name))
    simp [Locals.start, listed, same]

/-- A block that returns closed its record with what it healed. -/
theorem cycleBlock_ok {answer : Answer} (ran : cycleBlock calls now runId db = .ok answer db') :
    NothingEscapes calls now db ∧ answer.runId = runId ∧ Recorded db db' answer := by
  obtain ⟨opened, inserted, rest⟩ := Dispatch.bind_unit_ok.mp ran
  obtain ⟨-, rfl⟩ := insertRun_ok.mp inserted
  obtain ⟨v, looped, loopRan, rest⟩ := Dispatch.bind_ok.mp rest
  obtain ⟨jobs, loop⟩ := loop_ok jobnames_distinct loopRan
  obtain ⟨phase3, read, firstRead, rest⟩ := Dispatch.bind_ok.mp rest
  obtain ⟨first, rfl⟩ := perform_ok.mp firstRead
  obtain ⟨pentaroute, read, secondRead, rest⟩ := Dispatch.bind_ok.mp rest
  obtain ⟨second, rfl⟩ := perform_ok.mp secondRead
  obtain ⟨factory, read, thirdRead, rest⟩ := Dispatch.bind_ok.mp rest
  obtain ⟨third, rfl⟩ := perform_ok.mp thirdRead
  cases rest
  have stored : looped.runs.find runId = some (openRun now runId) := by
    rw [loop.runs]
    exact Table.find_put_self
  have settled : v.state ≠ .running := by
    rcases loop.state with same | degraded
    · rw [same]
      decide
    · rw [degraded]
      decide
  have returns : ∀ spec ∈ JOBS, JobReturns calls now db spec := fun spec member =>
    (JobReturns.congr (findJob_opened spec.jobname)).mp (jobs spec member)
  refine ⟨⟨returns, ⟨phase3, first⟩, ⟨pentaroute, second⟩, ⟨factory, third⟩⟩, rfl, _,
    find_updateRun stored, rfl, rfl, settled, fun _ => rfl, ?_⟩
  exact loop.healed_iff findJob_opened (fun name => findJob_updateRun _ name)

theorem exists_cycleBlock (fresh : db.runs.find runId = none)
    (returns : NothingEscapes calls now db) :
    ∃ answer db', cycleBlock calls now runId db = .ok answer db' := by
  have inserted : insertRun now runId db = .ok () (db.opened now runId) :=
    insertRun_ok.mpr ⟨fresh, rfl⟩
  have jobs : ∀ spec ∈ JOBS, JobReturns calls now (db.opened now runId) spec :=
    fun spec member => (JobReturns.congr (findJob_opened spec.jobname)).mpr (returns.jobs spec member)
  obtain ⟨v, looped, loopRan⟩ : ∃ v looped, JOBS.foldlM (superviseJob calls now) .start
      (db.opened now runId) = .ok v looped := exists_loop jobnames_distinct jobs
  obtain ⟨-, ⟨_, first⟩, ⟨_, second⟩, ⟨_, third⟩⟩ := returns
  rw [cycleBlock, Dispatch.bind_of_ok inserted, Dispatch.bind_of_ok loopRan,
    Dispatch.bind_of_ok (perform_of_ok first), Dispatch.bind_of_ok (perform_of_ok second),
    Dispatch.bind_of_ok (perform_of_ok third), Dispatch.write_bind]
  exact ⟨_, _, rfl⟩

/-- A run of a cycle that raises in its block is not on record: the handler finds nothing
to update, or does not run. -/
theorem nothingEscapes_of_recorded {answer : Answer} (fresh : db.runs.find runId = none)
    (ran : pentarouteAutonomyCycleV3 calls now runId db = .ok answer db')
    (recorded : Recorded db db' answer) : NothingEscapes calls now db := by
  rcases Dispatch.rescue_ok.mp ran with block | ⟨error, middle, block, others, handled⟩
  · exact (cycleBlock_ok block).1
  · rw [Dispatch.write_bind] at handled
    cases handled
    obtain ⟨run, stored, -⟩ := recorded
    simp only [Database.updateRun, fresh] at stored
    cases fresh.symm.trans stored

/-- With an identifier that no run has, the run of a cycle is on record exactly if every
call outside the recovery blocks returns and no error that `OTHERS` does not match is
raised in these blocks. -/
theorem recorded_iff (calls : Calls Rest) (now : Timestamp) (db : Database Rest) (runId : Uuid)
    (fresh : db.runs.find runId = none) :
    (∃ answer db', pentarouteAutonomyCycleV3 calls now runId db = .ok answer db' ∧
      answer.runId = runId ∧ Recorded db db' answer) ↔ NothingEscapes calls now db := by
  constructor
  · rintro ⟨answer, db', ran, -, recorded⟩
    exact nothingEscapes_of_recorded fresh ran recorded
  · intro returns
    obtain ⟨answer, db', ran⟩ := exists_cycleBlock fresh returns
    obtain ⟨-, named, recorded⟩ := cycleBlock_ok ran
    exact ⟨answer, db', Dispatch.rescue_of_ok ran, named, recorded⟩

/-- Calls that all return, save the recoveries and the status read of the project. -/
def sampleCalls (recovery phase3 : Except SqlError (Option Json)) : Calls Unit where
  cronJob _ := ⟨.ok (), id⟩
  schedule _ := ⟨.ok (), id⟩
  cronJobAgain _ := ⟨.ok (), id⟩
  alterJob _ := ⟨.ok (), id⟩
  lastSuccess _ := ⟨.ok none, id⟩
  latestStatus _ := ⟨.ok none, id⟩
  recovery _ := ⟨recovery, id⟩
  phase3Status := ⟨phase3, id⟩
  pentarouteStatus := ⟨.ok (some (.object [])), id⟩
  certificationQueue := ⟨.ok (.object []), id⟩
  timeText _ := []

def emptyDatabase : Database Unit := ⟨.empty, .empty, ()⟩

/-- An error that `OTHERS` matches. -/
def missingRelation : SqlError := ⟨.other, text "relation does not exist"⟩

theorem recorded_iff_sample :
    (∃ answer db', pentarouteAutonomyCycleV3 (sampleCalls (.error missingRelation) (.ok none)) 0 1
        emptyDatabase = .ok answer db' ∧ answer.runId = 1 ∧ Recorded emptyDatabase db' answer) ↔
      NothingEscapes (sampleCalls (.error missingRelation) (.ok none)) 0 emptyDatabase :=
  recorded_iff (sampleCalls (.error missingRelation) (.ok none)) 0 emptyDatabase 1 Table.find_empty

theorem run_unrecorded :
    ¬ ∀ (calls : Calls Unit) (now : Timestamp) (db : Database Unit) (runId : Uuid),
      db.runs.find runId = none →
        ∃ answer db', pentarouteAutonomyCycleV3 calls now runId db = .ok answer db' ∧
          answer.runId = runId ∧ Recorded db db' answer := by
  intro always
  obtain ⟨answer, db', ran, -, recorded⟩ :=
    always (sampleCalls (.ok none) (.error missingRelation)) 0 emptyDatabase 1 Table.find_empty
  obtain ⟨value, returned⟩ := (nothingEscapes_of_recorded Table.find_empty ran recorded).phase3
  cases returned

end Chlom.Autonomy
