import Chlom.Library.RecentWindow
import Chlom.Library.Runs
import Chlom.Protocol.Binding
import Chlom.Protocol.Zk

/-!
# The proof verifier

A process verifies one proof at a time, each in a worker of its own, and starts no more than
twenty in any minute.  A worker may post a message, fail, exit or run out of time, in any order
and more than once; what comes first ends the verification, which is answered when the worker
is gone.  A proof is answered as valid only if the worker for an accepted request said so.
-/

namespace Chlom.Protocol

open Js RecentWindow

variable {N : Type} [Numbers N] {sha256 : Sha256}

/-! ## The process -/

/-- A message of a worker, `failed` for all that are not of a known form. -/
inductive Message where
  | result (valid : Bool)
  | invalidKey
  | invalidProof
  | failed
  deriving DecidableEq

def workerFailed : ChlomError :=
  unavailable (lit "CHLOM_ZK_WORKER_FAILED") (lit "ZK verification could not complete.")

/-- What a message makes of a verification. -/
def Message.outcome : Message → Except ChlomError Bool
  | .result valid => .ok valid
  | .invalidKey =>
      .error (unavailable (lit "CHLOM_PROTOCOL_CONFIGURATION_INVALID")
        (lit "The configured verification key is invalid."))
  | .invalidProof => .ok false
  | .failed => .error workerFailed

/-- A verification whose worker is not gone yet.  Workers are numbered as they are made. -/
structure Verification (N : Type) [Numbers N] (sha256 : Sha256) where
  worker : Nat
  job : Job N sha256
  startedAt : Int
  finished : Option (Except ChlomError Bool)

/-- The variables of the module and the verifications that its promises wait for. -/
structure Process (N : Type) [Numbers N] (sha256 : Sha256) where
  inflight : Bool
  starts : List Int
  pending : List (Verification N sha256)
  workers : Nat

def Process.initial : Process N sha256 := ⟨false, [], [], 0⟩

/-- What happens to a process.  A call brings the times that it reads from the clock: when it
starts and when it asks for a worker. -/
inductive Event (N : Type) where
  | call (input registry : Value N) (now : N) (startedAt time : Int)
  | message (worker : Nat) (message : Message)
  | error (worker : Nat)
  | exit (worker : Nat)
  | timeout (worker : Nat)
  | terminated (worker : Nat) (time : Int)

inductive Reply (N : Type) where
  | silent
  | thrown (thrown : Thrown)
  | started (worker : Nat)
  | settled (worker : Nat) (outcome : Except ChlomError (Entries N))

def zkBusy : ChlomError :=
  ⟨lit "CHLOM_ZK_BUSY", lit "ZK verification capacity is occupied. Retry later.", 429⟩

/-- The span of the limiter in milliseconds. -/
def MINUTE : Int := 60000

/-- The part of `boundedVerify` before its worker is made. -/
def boundedVerify (s : Process N sha256) (job : Job N sha256) (startedAt time : Int) :
    Process N sha256 × Reply N :=
  let starts := recent MINUTE time s.starts
  if s.inflight = true ∨ ZK_LIMITS.verificationsPerMinutePerProcess ≤ starts.length then
    ({ s with starts }, .thrown (.chlom zkBusy))
  else
    ({ inflight := true
       starts := starts ++ [time]
       pending := s.pending ++ [⟨s.workers, job, startedAt, none⟩]
       workers := s.workers + 1 },
      .started s.workers)

/-- The first outcome of a verification is kept. -/
def Verification.finish (worker : Nat) (outcome : Except ChlomError Bool)
    (verification : Verification N sha256) : Verification N sha256 :=
  if verification.worker = worker ∧ verification.finished.isNone = true then
    { verification with finished := some outcome }
  else verification

def Process.finish (s : Process N sha256) (worker : Nat) (outcome : Except ChlomError Bool) :
    Process N sha256 :=
  { s with pending := s.pending.map (Verification.finish worker outcome) }

/-- The result of a verification. -/
def zkResult (job : Job N sha256) (valid : Bool) : Entries N :=
  [(lit "schema", .string (lit "ct.chlom.protocol.zk-verification.v1")),
    (lit "valid", .boolean valid), (lit "verificationType", .string (lit "groth16_bn254")),
    (lit "circuitId", .string job.circuit.circuitId), (lit "version", .number job.circuit.version),
    (lit "circuitDigest", .string job.circuit.circuitDigest),
    (lit "verificationKeyDigest", .string job.circuit.verificationKeyDigest),
    (lit "approvalReference", .string job.circuit.approvalReference),
    (lit "publicSignalsDigest", .string (zkDigest sha256 job.input.publicSignals)),
    (lit "proofDigest", .string (zkDigest sha256 job.input.proof)),
    (lit "evaluatedAt", .string (isoText job.now)), (lit "zeroKnowledgeProof", .boolean true),
    (lit "ownershipVerified", .boolean false), (lit "legalDetermination", .boolean false),
    (lit "accessGranted", .boolean false), (lit "onChain", .boolean false),
    (lit "persisted", .boolean false)]

/-- The end of `verifyZkProof`: no result survives the expiry of its circuit. -/
def settle (job : Job N sha256) (startedAt time : Int) :
    Except ChlomError Bool → Except ChlomError (Entries N)
  | .error error => .error error
  | .ok valid =>
      if job.circuit.window.stop.time ≤ job.now + (time - startedAt) then
        .error (unavailable (lit "CHLOM_ZK_CIRCUIT_UNAVAILABLE")
          (lit "The circuit expired during verification."))
      else .ok (zkResult job valid)

/-- A worker is gone: if its verification had ended, the process is free and the call is
answered. -/
def Process.terminated (s : Process N sha256) (worker : Nat) (time : Int) :
    Process N sha256 × Reply N :=
  match s.pending.find? fun verification => verification.worker = worker with
  | some ⟨_, job, startedAt, some outcome⟩ =>
      ({ s with
          inflight := false
          pending := s.pending.filter fun verification => verification.worker ≠ worker },
        .settled worker (settle job startedAt time outcome))
  | _ => (s, .silent)

/-- Take one event. -/
def verifyStep (s : Process N sha256) : Event N → Process N sha256 × Reply N
  | .call input registry now startedAt time =>
      match acceptProof sha256 input registry now with
      | .error thrown => (s, .thrown thrown)
      | .ok job => boundedVerify s job startedAt time
  | .message worker message => (s.finish worker message.outcome, .silent)
  | .error worker | .exit worker => (s.finish worker (.error workerFailed), .silent)
  | .timeout worker =>
      (s.finish worker (.error (unavailable (lit "CHLOM_ZK_TIMEOUT")
        (lit "ZK verification exceeded its execution limit."))), .silent)
  | .terminated worker time => s.terminated worker time

/-! ## A proof that is verified -/

def samplePoint : Value SafeInteger :=
  .array [.string (lit "1"), .string (lit "2"), .string (lit "1")]

def sampleTwist : Value SafeInteger :=
  .array [.array [.string (lit "1"), .string (lit "0")],
    .array [.string (lit "0"), .string (lit "1")], .array [.string (lit "1"), .string (lit "0")]]

def sampleVerificationKey : Value SafeInteger :=
  .object [(lit "protocol", .string (lit "groth16")), (lit "curve", .string (lit "bn128")),
    (lit "nPublic", .number .one), (lit "vk_alpha_1", samplePoint), (lit "vk_beta_2", sampleTwist),
    (lit "vk_gamma_2", sampleTwist), (lit "vk_delta_2", sampleTwist),
    (lit "IC", .array [samplePoint, samplePoint])]

/-- A registry with one circuit, which has one signal of at most a thousand. -/
def sampleZkRegistry : Value SafeInteger :=
  .object [(lit "schema", .string (lit "ct.chlom.protocol.zk-registry.v1")),
    (lit "circuits", .array [.object [
      (lit "circuitId", .string (lit "product")), (lit "version", .number .one),
      (lit "circuitDigest", .string sampleDigest),
      (lit "verificationKey", sampleVerificationKey),
      (lit "verificationKeyDigest", .string (zkDigest sampleSha256 sampleVerificationKey)),
      (lit "approvalReference", .string (lit "approval-1")),
      (lit "auditReference", .string (lit "audit-1")),
      (lit "setupReference", .string (lit "setup-1")),
      (lit "effectiveAt", .string (lit "2026-09-01T00:00:00.000Z")),
      (lit "expiresAt", .string (lit "2026-10-01T00:00:00.000Z")),
      (lit "publicSignals", .array [.object [(lit "name", .string (lit "product")),
        (lit "min", .string (lit "1")), (lit "max", .string (lit "1000"))]])]])]

def sampleZkInput : Value SafeInteger :=
  .object [(lit "circuitId", .string (lit "product")), (lit "version", .number .one),
    (lit "proof", .object [(lit "protocol", .string (lit "groth16")),
      (lit "curve", .string (lit "bn128")), (lit "pi_a", samplePoint), (lit "pi_b", sampleTwist),
      (lit "pi_c", samplePoint)]),
    (lit "publicSignals", .array [.string (lit "33")])]

/-- Noon of 21 September 2026. -/
def sampleNoon : SafeInteger := ⟨1789992000000, by decide⟩

/-- A proof is found valid while a second call is turned away. -/
def sampleEvents : List (Event SafeInteger) :=
  [.call sampleZkInput sampleZkRegistry sampleNoon 1789992000000 1789992000000,
    .call sampleZkInput sampleZkRegistry sampleNoon 1789992000100 1789992000100,
    .message 0 (.result true), .exit 0, .terminated 0 1789992000200]

def sampleTrace : List (Event SafeInteger × Reply SafeInteger) :=
  Runs.trace verifyStep (Process.initial : Process SafeInteger sampleSha256) sampleEvents

/-! ## Steps -/

/-- The time that an event reads for the limiter. -/
def Event.reading : Event N → Option Int
  | .call _ _ _ _ time => some time
  | _ => none

/-- What a step can do. -/
inductive Moves (s : Process N sha256) : Event N → Process N sha256 → Reply N → Prop
  | refused (input registry : Value N) (now : N) (startedAt time : Int) (thrown : Thrown) :
      Moves s (.call input registry now startedAt time) s (.thrown thrown)
  | busy (input registry : Value N) (now : N) (startedAt time : Int) :
      Moves s (.call input registry now startedAt time)
        { s with starts := recent MINUTE time s.starts } (.thrown (.chlom zkBusy))
  | starts (input registry : Value N) (now : N) (startedAt time : Int) (job : Job N sha256)
      (accepted : acceptProof sha256 input registry now = .ok job) (free : s.inflight = false)
      (room : (recent MINUTE time s.starts).length <
        ZK_LIMITS.verificationsPerMinutePerProcess) :
      Moves s (.call input registry now startedAt time)
        ⟨true, recent MINUTE time s.starts ++ [time],
          s.pending ++ [⟨s.workers, job, startedAt, none⟩], s.workers + 1⟩ (.started s.workers)
  | finishes (event : Event N) (worker : Nat) (outcome : Except ChlomError Bool)
      (unread : event.reading = none)
      (posted : ∀ valid, outcome = .ok valid →
        ∃ message, event = .message worker message ∧ message.outcome = .ok valid) :
      Moves s event (s.finish worker outcome) .silent
  | settles (worker : Nat) (time : Int) (job : Job N sha256) (startedAt : Int)
      (outcome : Except ChlomError Bool)
      (found : ⟨worker, job, startedAt, some outcome⟩ ∈ s.pending) :
      Moves s (.terminated worker time)
        { s with
            inflight := false
            pending := s.pending.filter fun verification => verification.worker ≠ worker }
        (.settled worker (settle job startedAt time outcome))
  | idle (worker : Nat) (time : Int) : Moves s (.terminated worker time) s .silent

theorem moves_boundedVerify (s : Process N sha256) {input registry : Value N} {now : N}
    {job : Job N sha256} (accepted : acceptProof sha256 input registry now = .ok job)
    (startedAt time : Int) :
    Moves s (.call input registry now startedAt time) (boundedVerify s job startedAt time).1
      (boundedVerify s job startedAt time).2 := by
  unfold boundedVerify
  dsimp only
  split
  · exact .busy input registry now startedAt time
  · rename_i capacity
    rw [not_or, Bool.not_eq_true, Nat.not_le] at capacity
    exact .starts input registry now startedAt time job accepted capacity.1 capacity.2

theorem moves_terminated (s : Process N sha256) (worker : Nat) (time : Int) :
    Moves s (.terminated worker time) (s.terminated worker time).1
      (s.terminated worker time).2 := by
  unfold Process.terminated
  split
  · rename_i number job startedAt outcome found
    obtain rfl : number = worker := by simpa using List.find?_some found
    exact .settles number time job startedAt outcome (List.mem_of_find?_eq_some found)
  · exact .idle worker time

theorem moves_verifyStep (s : Process N sha256) (event : Event N) :
    Moves s event (verifyStep s event).1 (verifyStep s event).2 := by
  cases event with
  | call input registry now startedAt time =>
      cases accepted : acceptProof sha256 input registry now with
      | error thrown =>
          have stepped : verifyStep s (.call input registry now startedAt time) =
              (s, .thrown thrown) := by
            simp only [verifyStep, accepted]
          rw [stepped]
          exact .refused input registry now startedAt time thrown
      | ok job =>
          have stepped : verifyStep s (.call input registry now startedAt time) =
              boundedVerify s job startedAt time := by
            simp only [verifyStep, accepted]
          rw [stepped]
          exact moves_boundedVerify s accepted startedAt time
  | message worker message =>
      exact .finishes _ worker message.outcome rfl fun valid same => ⟨message, rfl, same⟩
  | error worker => exact .finishes _ worker _ rfl nofun
  | exit worker => exact .finishes _ worker _ rfl nofun
  | timeout worker => exact .finishes _ worker _ rfl nofun
  | terminated worker time => exact moves_terminated s worker time

theorem Verification.finish_worker (worker : Nat) (outcome : Except ChlomError Bool)
    (verification : Verification N sha256) :
    (verification.finish worker outcome).worker = verification.worker := by
  unfold Verification.finish
  split <;> rfl

/-! ## One verification at a time -/

/-- A verification is pending exactly while the process is busy, and it is the only one. -/
structure Process.Single (s : Process N sha256) : Prop where
  one : s.pending.length = s.inflight.toNat
  made : ∀ verification ∈ s.pending, verification.worker < s.workers

variable {s s' : Process N sha256} {event : Event N} {reply : Reply N}

theorem Process.Single.pending_eq (single : s.Single) {verification : Verification N sha256}
    (member : verification ∈ s.pending) : s.pending = [verification] := by
  have one : s.pending.length = 1 := by
    have some := List.length_pos_of_mem member
    have most := Bool.toNat_le s.inflight
    have same := single.one
    omega
  obtain ⟨only, same⟩ := List.length_eq_one_iff.mp one
  rw [same, List.mem_singleton] at member
  rw [same, member]

theorem Process.Single.moves (single : s.Single) (moved : Moves s event s' reply) : s'.Single := by
  cases moved with
  | refused | idle => exact single
  | busy => exact ⟨single.one, single.made⟩
  | starts input registry now startedAt time job accepted free room =>
      have none : s.pending.length = 0 := by
        rw [single.one, free]
        rfl
      constructor
      · rw [List.length_append, none]
        rfl
      · intro verification member
        rcases List.mem_append.mp member with before | now
        · exact Nat.lt_succ_of_lt (single.made verification before)
        · rw [List.mem_singleton.mp now]
          exact Nat.lt_succ_self s.workers
  | finishes event worker outcome unread posted =>
      constructor
      · exact (List.length_map _).trans single.one
      · intro verification member
        obtain ⟨before, there, rfl⟩ := List.mem_map.mp member
        rw [Verification.finish_worker]
        exact single.made before there
  | settles worker time job startedAt outcome found =>
      have gone : (s.pending.filter fun verification => verification.worker ≠ worker) = [] := by
        rw [single.pending_eq found]
        simp
      constructor
      · exact congrArg List.length gone
      · intro verification member
        rw [gone] at member
        exact absurd member List.not_mem_nil

/-- The worker that a call started. -/
def Reply.made : Reply N → Option Nat
  | .started worker => some worker
  | _ => none

/-- The workers that were started. -/
def startedWorkers (past : List (Event N × Reply N)) : List Nat :=
  past.filterMap fun entry => entry.2.made

/-- Workers are numbered as they are made. -/
theorem startedWorkers_moves {past : List (Event N × Reply N)}
    (numbered : startedWorkers past = List.range s.workers) (moved : Moves s event s' reply) :
    startedWorkers (past ++ [(event, reply)]) = List.range s'.workers := by
  unfold startedWorkers at numbered ⊢
  rw [List.filterMap_append, numbered]
  cases moved with
  | starts => exact List.range_succ.symm
  | refused | busy | finishes | settles | idle => exact List.append_nil _

/-- The worker whose call a reply settles. -/
def Reply.worker : Reply N → Option Nat
  | .settled worker _ => some worker
  | _ => none

/-- The workers whose calls were settled. -/
def settledWorkers (past : List (Event N × Reply N)) : List Nat :=
  past.filterMap fun entry => entry.2.worker

/-- No call was settled twice, and none that was settled is pending. -/
structure Once (past : List (Event N × Reply N)) (s : Process N sha256) : Prop where
  single : s.Single
  nodup : (settledWorkers past).Nodup
  gone : ∀ worker ∈ settledWorkers past, worker < s.workers ∧
    ∀ verification ∈ s.pending, verification.worker ≠ worker
  numbered : startedWorkers past = List.range s.workers

omit [Numbers N] in
theorem settledWorkers_append (past : List (Event N × Reply N)) (event : Event N)
    (reply : Reply N) :
    settledWorkers (past ++ [(event, reply)]) = settledWorkers past ++ reply.worker.toList := by
  unfold settledWorkers
  rw [List.filterMap_append]
  cases reply <;> rfl

theorem Once.moves {past : List (Event N × Reply N)} (once : Once past s)
    (moved : Moves s event s' reply) : Once (past ++ [(event, reply)]) s' := by
  have single := once.single.moves moved
  have numbered := startedWorkers_moves once.numbered moved
  -- All moves but the settling one leave the settled workers as they are.
  have unsettled : reply.worker = none →
      (∀ worker ∈ settledWorkers past, worker < s'.workers ∧
        ∀ verification ∈ s'.pending, verification.worker ≠ worker) →
      Once (past ++ [(event, reply)]) s' := by
    intro silent gone
    have same : settledWorkers (past ++ [(event, reply)]) = settledWorkers past := by
      rw [settledWorkers_append, silent]
      exact List.append_nil _
    exact ⟨single, same ▸ once.nodup, same ▸ gone, numbered⟩
  cases moved with
  | refused | idle | busy => exact unsettled rfl once.gone
  | starts input registry now startedAt time job accepted free room =>
      refine unsettled rfl fun worker member => ?_
      obtain ⟨earlier, apart⟩ := once.gone worker member
      refine ⟨Nat.lt_succ_of_lt earlier, fun verification pending => ?_⟩
      rcases List.mem_append.mp pending with before | now
      · exact apart verification before
      · rw [List.mem_singleton.mp now]
        exact (Nat.ne_of_lt earlier).symm
  | finishes event worker outcome unread posted =>
      refine unsettled rfl fun settled member => ?_
      obtain ⟨earlier, apart⟩ := once.gone settled member
      refine ⟨earlier, fun verification pending => ?_⟩
      obtain ⟨before, there, rfl⟩ := List.mem_map.mp pending
      rw [Verification.finish_worker]
      exact apart before there
  | settles worker time job startedAt outcome found =>
      have fresh : worker ∉ settledWorkers past :=
        fun member => (once.gone worker member).2 _ found rfl
      have now : settledWorkers (past ++ [(Event.terminated worker time,
          Reply.settled worker (settle job startedAt time outcome))]) =
          settledWorkers past ++ [worker] := settledWorkers_append past _ _
      refine ⟨single, ?_, ?_, numbered⟩
      · rw [now]
        exact List.nodup_append.mpr ⟨once.nodup, List.nodup_singleton worker, by
          intro earlier member later last
          rw [List.mem_singleton.mp last]
          exact fun same => fresh (same ▸ member)⟩
      · rw [now]
        intro settled member
        rcases List.mem_append.mp member with before | last
        · obtain ⟨earlier, apart⟩ := once.gone settled before
          exact ⟨earlier, fun verification pending =>
            apart verification (List.mem_of_mem_filter pending)⟩
        · rw [List.mem_singleton.mp last]
          refine ⟨once.single.made _ found, fun verification pending => ?_⟩
          simpa using (List.mem_filter.mp pending).2

theorem once_run (events : List (Event N)) :
    Once (Runs.trace verifyStep (Process.initial : Process N sha256) events)
      (Runs.run verifyStep (Process.initial : Process N sha256) events) := by
  have start : Once [] (Process.initial : Process N sha256) :=
    ⟨⟨rfl, nofun⟩, List.nodup_nil, nofun, rfl⟩
  exact Runs.invariant_trace Once
    (fun _ s event earlier => earlier.moves (moves_verifyStep s event)) start events

/-- Whatever calls come in and whatever their workers do, in any order and at any times, one
proof at most is being verified, every worker is started by one call, and no call is answered
before its worker was started or a second time. -/
theorem verifications_single (events : List (Event N)) :
    (Runs.run verifyStep (Process.initial : Process N sha256) events).pending.length ≤ 1 ∧
      (startedWorkers (Runs.trace verifyStep (Process.initial : Process N sha256) events)).Nodup ∧
      (settledWorkers (Runs.trace verifyStep (Process.initial : Process N sha256) events)).Nodup ∧
      settledWorkers (Runs.trace verifyStep (Process.initial : Process N sha256) events) ⊆
        startedWorkers (Runs.trace verifyStep (Process.initial : Process N sha256) events) := by
  have once : Once (Runs.trace verifyStep (Process.initial : Process N sha256) events) _ :=
    once_run events
  refine ⟨once.single.one ▸ Bool.toNat_le _, ?_, once.nodup, fun worker member => ?_⟩
  · rw [once.numbered]
    exact List.nodup_range
  · rw [once.numbered]
    exact List.mem_range.mpr (once.gone worker member).1

/-! ## The end of a verification -/

/-- A verification has ended when its worker exits, now or before. -/
theorem Verification.finish_eq (verification : Verification N sha256)
    (outcome : Except ChlomError Bool) :
    ∃ first, verification.finish verification.worker outcome =
      ⟨verification.worker, verification.job, verification.startedAt, some first⟩ := by
  obtain ⟨worker, job, startedAt, finished⟩ := verification
  cases finished with
  | none => exact ⟨outcome, if_pos ⟨rfl, rfl⟩⟩
  | some first => exact ⟨first, if_neg fun ⟨_, unfinished⟩ => nomatch unfinished⟩

theorem Process.terminated_eq {worker : Nat} {job : Job N sha256} {startedAt : Int}
    {outcome : Except ChlomError Bool}
    (only : s.pending = [⟨worker, job, startedAt, some outcome⟩]) (time : Int) :
    s.terminated worker time =
      ({ s with inflight := false, pending := [] },
        .settled worker (settle job startedAt time outcome)) := by
  have found : (s.pending.find? fun verification => verification.worker = worker) =
      some ⟨worker, job, startedAt, some outcome⟩ := by
    rw [only]
    exact List.find?_cons_of_pos (decide_eq_true rfl)
  have gone : (s.pending.filter fun verification => verification.worker ≠ worker) = [] := by
    rw [only]
    simp
  unfold Process.terminated
  rw [found, gone]

/-- A busy process is free and has answered once the worker that it waits for is gone. -/
theorem Process.Single.released (single : s.Single) (busy : s.inflight = true) (time : Int) :
    ∃ worker outcome,
      verifyStep (verifyStep s (.exit worker)).1 (.terminated worker time) =
        ({ s with inflight := false, pending := [] }, .settled worker outcome) := by
  have one : s.pending.length = 1 := by
    rw [single.one, busy]
    rfl
  obtain ⟨verification, only⟩ := List.length_eq_one_iff.mp one
  obtain ⟨first, ended⟩ := verification.finish_eq (.error workerFailed)
  have exited : (s.finish verification.worker (.error workerFailed)).pending =
      [⟨verification.worker, verification.job, verification.startedAt, some first⟩] := by
    change s.pending.map _ = _
    rw [only, List.map_singleton, ended]
  exact ⟨verification.worker, _, Process.terminated_eq exited time⟩

/-- After any run a busy process waits for one worker only: when that worker exits and is gone,
its call is answered and the process is free again. -/
theorem verifications_released (events : List (Event N))
    (busy : (Runs.run verifyStep (Process.initial : Process N sha256) events).inflight = true)
    (time : Int) :
    ∃ worker outcome,
      (.terminated worker time, .settled worker outcome) ∈
        Runs.trace verifyStep (Process.initial : Process N sha256)
          (events ++ [.exit worker, .terminated worker time]) ∧
      (Runs.run verifyStep (Process.initial : Process N sha256)
        (events ++ [.exit worker, .terminated worker time])).inflight = false := by
  obtain ⟨worker, outcome, stepped⟩ := (once_run events).single.released busy time
  refine ⟨worker, outcome, ?_, ?_⟩
  · rw [Runs.trace_append]
    refine List.mem_append_right _ (List.mem_cons_of_mem _ ?_)
    rw [Runs.trace, stepped]
    exact List.mem_cons_self
  · rw [Runs.run_append, Runs.run_cons, Runs.run_cons, Runs.run_nil, stepped]

theorem verifications_released_sample :
    ∃ worker outcome,
      (.terminated worker 1789992000200, .settled worker outcome) ∈
        Runs.trace verifyStep (Process.initial : Process SafeInteger sampleSha256)
          (sampleEvents.take 2 ++ [.exit worker, .terminated worker 1789992000200]) ∧
      (Runs.run verifyStep (Process.initial : Process SafeInteger sampleSha256)
        (sampleEvents.take 2 ++ [.exit worker, .terminated worker 1789992000200])).inflight =
          false :=
  verifications_released (sampleEvents.take 2) (by decide +kernel) 1789992000200

/-! ## The limit -/

/-- The times that the events read from the clock for the limiter. -/
def readings (events : List (Event N)) : List Int := events.filterMap Event.reading

/-- The time at which an event started a worker. -/
def startTime : Event N × Reply N → Option Int
  | (event, .started _) => event.reading
  | _ => none

/-- The times at which workers were started. -/
def startTimes (past : List (Event N × Reply N)) : List Int := past.filterMap startTime

omit [Numbers N] in
theorem startTimes_append (past : List (Event N × Reply N)) (event : Event N) (reply : Reply N) :
    startTimes (past ++ [(event, reply)]) =
      startTimes past ++ (startTime (event, reply)).toList := by
  unfold startTimes
  rw [List.filterMap_append]
  cases started : startTime (event, reply) with
  | none | some time => simp [started]

/-- What the limiter of a process kept. -/
abbrev Limited (events : List (Event N)) (past : List (Event N × Reply N))
    (s : Process N sha256) : Prop :=
  Tracks MINUTE ZK_LIMITS.verificationsPerMinutePerProcess (readings events) s.starts
    (startTimes past)

/-- An event that does not read the clock starts no worker. -/
theorem Limited.unread {events : List (Event N)} {past : List (Event N × Reply N)}
    (limited : Limited events past s) :
    Tracks MINUTE ZK_LIMITS.verificationsPerMinutePerProcess (readings events ++ []) s.starts
      (startTimes past ++ []) := by
  rw [List.append_nil, List.append_nil]
  exact limited

theorem Limited.moves {events : List (Event N)} {past : List (Event N × Reply N)}
    (limited : Limited events past s)
    (forward : ∀ time ∈ event.reading, ∀ earlier ∈ readings events, earlier ≤ time)
    (moved : Moves s event s' reply) :
    Limited (events ++ [event]) (past ++ [(event, reply)]) s' := by
  have later : readings (events ++ [event]) = readings events ++ event.reading.toList := by
    unfold readings
    rw [List.filterMap_append]
    cases read : event.reading with
    | none | some time => simp [read]
  unfold Limited
  rw [later, startTimes_append]
  cases moved with
  | refused input registry now startedAt time thrown =>
      change Tracks _ _ (_ ++ [time]) s.starts (startTimes past ++ [])
      rw [List.append_nil]
      exact limited.wait time
  | busy input registry now startedAt time =>
      change Tracks _ _ (_ ++ [time]) (recent MINUTE time s.starts) (startTimes past ++ [])
      rw [List.append_nil]
      exact limited.drop time
  | starts input registry now startedAt time job accepted free room =>
      exact limited.admit (forward time rfl) room
  | finishes event worker outcome unread posted =>
      rw [unread]
      exact limited.unread
  | settles | idle => exact limited.unread

theorem limited_run (events : List (Event N)) (forward : (readings events).Pairwise (· ≤ ·)) :
    Limited events (Runs.trace verifyStep (Process.initial : Process N sha256) events)
      (Runs.run verifyStep (Process.initial : Process N sha256) events) := by
  induction events using List.reverseRecOn with
  | nil => exact Tracks.nil
  | append_singleton before event ih =>
      have split : readings (before ++ [event]) = readings before ++ readings [event] :=
        List.filterMap_append
      rw [split, List.pairwise_append] at forward
      obtain ⟨earlier, _, ordered⟩ := forward
      rw [Runs.trace_append, Runs.run_append]
      refine (ih earlier).moves (fun time read first there => ?_)
        (moves_verifyStep (Runs.run verifyStep Process.initial before) event)
      refine ordered first there time ?_
      exact List.mem_filterMap.mpr ⟨event, List.mem_cons_self, read⟩

/-- While the clock does not go back, no minute sees more than twenty workers started, however
calls, failures and answers alternate. -/
theorem verifications_limited (events : List (Event N))
    (forward : (readings events).Pairwise (· ≤ ·)) (stop : Int) :
    (window MINUTE stop (startTimes
      (Runs.trace verifyStep (Process.initial : Process N sha256) events))).length ≤
      ZK_LIMITS.verificationsPerMinutePerProcess :=
  (limited_run events forward).bounded stop

/-- One proof after the other, each within a second. -/
def sampleProofs (number : Nat) : List (Event SafeInteger) :=
  (List.range number).flatMap fun (worker : Nat) =>
    let time : Int := 1789992000000 + 1000 * worker
    [.call sampleZkInput sampleZkRegistry sampleNoon time time, .message worker (.result true),
      .exit worker, .terminated worker (time + 200)]

/-- One proof more than a minute admits. -/
theorem verifications_limited_sample :
    (window MINUTE 1789992020000 (startTimes (Runs.trace verifyStep
      (Process.initial : Process SafeInteger sampleSha256) (sampleProofs 21)))).length = 20 :=
  Nat.le_antisymm (verifications_limited (sampleProofs 21) (by decide +kernel) 1789992020000)
    (by decide +kernel)

/-! ## What a result rests on -/

/-- A worker was started for a call whose request was approved. -/
def Started (past : List (Event N × Reply N)) (worker : Nat) (job : Job N sha256)
    (startedAt : Int) : Prop :=
  ∃ input registry now time, Approved sha256 input registry now job ∧
    (.call input registry now startedAt time, .started worker) ∈ past

/-- A worker said whether the proof is valid. -/
def Posted (past : List (Event N × Reply N)) (worker : Nat) (valid : Bool) : Prop :=
  ∃ message, message.outcome = .ok valid ∧ (.message worker message, .silent) ∈ past

/-- A result that was answered is that of an approved request, with what its worker said, for a
circuit that was active then and had not expired when the worker was gone. -/
structure Vouched (past : List (Event N × Reply N)) (event : Event N) (worker : Nat)
    (result : Entries N) (job : Job N sha256) (startedAt : Int) (valid : Bool) : Prop where
  started : Started past worker job startedAt
  posted : Posted past worker valid
  unexpired : ∃ time, event = .terminated worker time ∧
    job.now + (time - startedAt) < job.circuit.window.stop.time
  same : result = zkResult job valid

/-- What is known of the verifications that are pending and of those that were answered. -/
structure Known (past : List (Event N × Reply N)) (s : Process N sha256) : Prop where
  pending : ∀ verification ∈ s.pending,
    Started past verification.worker verification.job verification.startedAt ∧
      ∀ valid, verification.finished = some (.ok valid) → Posted past verification.worker valid
  answered : ∀ event worker result, (event, .settled worker (.ok result)) ∈ past →
    ∃ (job : Job N sha256) (startedAt : Int) (valid : Bool),
      Vouched past event worker result job startedAt valid

theorem Started.later {past : List (Event N × Reply N)} {worker : Nat} {job : Job N sha256}
    {startedAt : Int} (started : Started past worker job startedAt)
    (more : List (Event N × Reply N)) : Started (past ++ more) worker job startedAt := by
  obtain ⟨input, registry, now, time, approved, there⟩ := started
  exact ⟨input, registry, now, time, approved, List.mem_append_left more there⟩

omit [Numbers N] in
theorem Posted.later {past : List (Event N × Reply N)} {worker : Nat} {valid : Bool}
    (posted : Posted past worker valid) (more : List (Event N × Reply N)) :
    Posted (past ++ more) worker valid := by
  obtain ⟨message, said, there⟩ := posted
  exact ⟨message, said, List.mem_append_left more there⟩

theorem settle_ok {job : Job N sha256} {startedAt time : Int} {outcome : Except ChlomError Bool}
    {result : Entries N} (settled : settle job startedAt time outcome = .ok result) :
    ∃ valid, outcome = .ok valid ∧
      job.now + (time - startedAt) < job.circuit.window.stop.time ∧
      result = zkResult job valid := by
  cases outcome with
  | error error => cases settled
  | ok valid =>
      simp only [settle] at settled
      split at settled
      · cases settled
      · rename_i unexpired
        exact ⟨valid, rfl, Int.not_le.mp unexpired, (Except.ok.inj settled).symm⟩

theorem Known.moves {past : List (Event N × Reply N)} (known : Known past s)
    (moved : Moves s event s' reply) : Known (past ++ [(event, reply)]) s' := by
  have kept : ∀ verification ∈ s.pending,
      Started (past ++ [(event, reply)]) verification.worker verification.job
          verification.startedAt ∧
        ∀ valid, verification.finished = some (.ok valid) →
          Posted (past ++ [(event, reply)]) verification.worker valid :=
    fun verification member =>
      ⟨(known.pending verification member).1.later _,
        fun valid ended => ((known.pending verification member).2 valid ended).later _⟩
  have before : ∀ earlier worker result, (earlier, .settled worker (.ok result)) ∈ past →
      ∃ (job : Job N sha256) (startedAt : Int) (valid : Bool),
        Vouched (past ++ [(event, reply)]) earlier worker result job startedAt valid := by
    intro earlier worker result member
    obtain ⟨job, startedAt, valid, vouched⟩ := known.answered earlier worker result member
    exact ⟨job, startedAt, valid, vouched.started.later _, vouched.posted.later _,
      vouched.unexpired, vouched.same⟩
  -- Only the last of the moves answers a call.
  have silent : reply.worker = none → ∀ earlier worker result,
      (earlier, .settled worker (.ok result)) ∈ past ++ [(event, reply)] →
      ∃ (job : Job N sha256) (startedAt : Int) (valid : Bool),
        Vouched (past ++ [(event, reply)]) earlier worker result job startedAt valid := by
    intro unsettled earlier worker result member
    rcases List.mem_append.mp member with there | now
    · exact before earlier worker result there
    · obtain ⟨_, same⟩ := Prod.mk.inj (List.mem_singleton.mp now)
      rw [← same] at unsettled
      cases unsettled
  cases moved with
  | refused | idle | busy => exact ⟨kept, silent rfl⟩
  | starts input registry now startedAt time job accepted free room =>
      refine ⟨fun verification member => ?_, silent rfl⟩
      rcases List.mem_append.mp member with there | last
      · exact kept verification there
      · rw [List.mem_singleton.mp last]
        refine ⟨⟨input, registry, now, time, approved_of_ok accepted, ?_⟩, nofun⟩
        exact List.mem_append_right past List.mem_cons_self
  | finishes event worker outcome unread posted =>
      refine ⟨fun verification member => ?_, silent rfl⟩
      obtain ⟨earlier, there, rfl⟩ := List.mem_map.mp member
      unfold Verification.finish
      split
      · rename_i first
        refine ⟨(kept earlier there).1, fun valid ended => ?_⟩
        obtain ⟨message, same, said⟩ := posted valid (Option.some.inj ended)
        refine ⟨message, said, ?_⟩
        rw [first.1, ← same]
        exact List.mem_append_right past List.mem_cons_self
      · exact kept earlier there
  | settles worker time job startedAt outcome found =>
      refine ⟨fun verification member => kept verification (List.mem_of_mem_filter member), ?_⟩
      intro earlier settled result member
      rcases List.mem_append.mp member with there | now
      · exact before earlier settled result there
      · obtain ⟨rfl, answer⟩ := Prod.mk.inj (List.mem_singleton.mp now)
        obtain ⟨rfl, outcome_ok⟩ := Reply.settled.inj answer
        obtain ⟨valid, rfl, unexpired, same⟩ := settle_ok outcome_ok.symm
        obtain ⟨started, posted⟩ := kept _ found
        exact ⟨job, startedAt, valid, started, posted valid rfl, ⟨time, rfl, unexpired⟩, same⟩

/-- Over every run of the process, a result that is answered rests on a request for a circuit of
an approved registry, on what the worker of this request said, and on the circuit not having
expired when the worker was gone. -/
theorem verifications_vouched (events : List (Event N)) (event : Event N) (worker : Nat)
    (result : Entries N)
    (answered : (event, .settled worker (.ok result)) ∈
      Runs.trace verifyStep (Process.initial : Process N sha256) events) :
    ∃ (job : Job N sha256) (startedAt : Int) (valid : Bool),
      Vouched (Runs.trace verifyStep (Process.initial : Process N sha256) events) event worker
        result job startedAt valid := by
  have start : Known [] (Process.initial : Process N sha256) := ⟨nofun, nofun⟩
  have known := Runs.invariant_trace Known
    (fun _ s event earlier => earlier.moves (moves_verifyStep s event)) start events
  exact known.answered event worker result answered

def Reply.succeeded : Reply N → Bool
  | .settled _ (.ok _) => true
  | _ => false

theorem verifications_vouched_sample :
    ∃ event worker result, ∃ (job : Job SafeInteger sampleSha256) (startedAt : Int) (valid : Bool),
      Vouched sampleTrace event worker result job startedAt valid := by
  have present : (sampleTrace.any fun entry => entry.2.succeeded) = true := by decide +kernel
  obtain ⟨⟨event, reply⟩, member, succeeded⟩ := List.any_eq_true.mp present
  cases reply with
  | silent | thrown | started => cases succeeded
  | settled worker outcome =>
      cases outcome with
      | error error => cases succeeded
      | ok result =>
          exact ⟨event, worker, result,
            verifications_vouched sampleEvents event worker result member⟩

end Chlom.Protocol
