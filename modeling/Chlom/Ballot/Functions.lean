import Chlom.Library.Numeric
import Chlom.Library.Runs
import Chlom.Sql

/-!
# Ballots of a constituency and the functions that run them

A subject of the workforce gets a membership by a trigger.  Preparing a ballot
writes an eligibility row for every membership that may vote then, a vote is guarded
when it is written, and closing tallies the stored votes.  The clock and new
identifiers are inputs of a call.
-/

namespace Chlom.Ballot

open Assurance (Text text Timestamp Uuid SqlError)
open Sql

/-! ## Rows -/

inductive SubjectType where
  | human | agent | service | governanceBody
  deriving DecidableEq

inductive LifecycleState where
  | candidate | active | paused | suspended | retired | expired
  deriving DecidableEq

inductive VotingStatus where
  | eligible | nonvoting | suspended | expired
  deriving DecidableEq

inductive CivicRole where
  | elector | representative | executive | judge | clerk | observer
  deriving DecidableEq

inductive BallotState where
  | scheduled | opened | closed | cancelled
  deriving DecidableEq

inductive BallotResult where
  | pending | passed | failed | tied | invalid
  deriving DecidableEq

inductive Choice where
  | yes | no | abstain | recuse
  deriving DecidableEq

structure WorkforceSubject where
  subjectRef : Text
  subjectType : SubjectType
  lifecycleState : LifecycleState
  deriving DecidableEq

structure Membership where
  membershipId : Uuid
  membershipKey : Text
  subjectRef : Text
  constituencyKey : Text
  branchKey : Option Text
  civicRole : CivicRole
  votingStatus : VotingStatus
  startsAt : Timestamp
  endsAt : Option Timestamp
  deriving DecidableEq

/-- The counts of a tally. -/
@[ext]
structure Tally where
  eligible : Nat
  participation : Nat
  yes : Nat
  no : Nat
  humanParticipation : Nat
  humanYes : Nat
  humanNo : Nat
  deriving DecidableEq

/-- What closing a ballot stores and answers. -/
structure Snapshot extends Tally where
  quorumMet : Bool
  approvalMet : Bool
  humanRatificationMet : Bool
  result : BallotResult
  closedAt : Timestamp
  deriving DecidableEq

structure BallotRow where
  ballotId : Uuid
  constituencyKey : Text
  quorumRatio : Rat
  approvalRatio : Rat
  humanRatificationRequired : Bool
  humanApprovalRatio : Rat
  opensAt : Timestamp
  closesAt : Timestamp
  state : BallotState
  result : BallotResult
  resultSnapshot : Option Snapshot
  deriving DecidableEq

structure Eligibility where
  ballotId : Uuid
  membershipId : Uuid
  eligible : Bool
  subjectTypeSnapshot : SubjectType
  deriving DecidableEq

def Eligibility.key (row : Eligibility) : Uuid × Uuid :=
  (row.ballotId, row.membershipId)

structure Vote where
  ballotId : Uuid
  membershipId : Uuid
  choice : Choice
  conflictDisclosed : Bool
  deriving DecidableEq

def Vote.key (vote : Vote) : Uuid × Uuid :=
  (vote.ballotId, vote.membershipId)

structure Tables where
  subjects : Table WorkforceSubject.subjectRef
  memberships : Table Membership.membershipId
  ballots : Table BallotRow.ballotId
  eligibility : Table Eligibility.key
  votes : Table Vote.key

/-! ## Memberships -/

/-- A membership is in force at a time. -/
def Membership.InForce (m : Membership) (now : Timestamp) : Prop :=
  m.votingStatus = .eligible ∧ m.startsAt ≤ now ∧ ∀ ends ∈ m.endsAt, now < ends

instance (m : Membership) (now : Timestamp) : Decidable (m.InForce now) :=
  inferInstanceAs (Decidable (_ ∧ _ ∧ _))

/-- Two memberships of one subject in one scope, neither of them expired. -/
def Membership.Clashes (m other : Membership) : Prop :=
  m.votingStatus ≠ .expired ∧ other.votingStatus ≠ .expired ∧ m.subjectRef = other.subjectRef ∧
    m.constituencyKey = other.constituencyKey ∧
    m.branchKey.getD [] = other.branchKey.getD [] ∧ m.civicRole = other.civicRole

instance (m other : Membership) : Decidable (m.Clashes other) := by
  unfold Membership.Clashes
  infer_instance

/-- Write a membership, whose scope may not be taken by another. -/
def placeMembership (m : Membership) : Sql Tables Unit := do
  let memberships ← Dispatch.read Tables.memberships
  unique (∀ other ∈ memberships.rows, other.membershipId ≠ m.membershipId → ¬ m.Clashes other)
    "penta_governance_memberships_unique_active_scope"
  Dispatch.write fun t => { t with memberships := t.memberships.put m }

def setVotingStatus (membershipId : Uuid) (status : VotingStatus) : Sql Tables Unit := do
  let memberships ← Dispatch.read Tables.memberships
  Dispatch.ifSome (memberships.find membershipId) fun m =>
    placeMembership { m with votingStatus := status }

def votingStatusOf : LifecycleState → VotingStatus
  | .active => .eligible
  | .paused | .suspended => .suspended
  | .retired | .expired => .expired
  | .candidate => .nonvoting

/-- The membership of a workforce subject follows its lifecycle. -/
def syncCivicMembership (md5 : Text → Text) (now : Timestamp) (candidateId : Uuid)
    (subject : WorkforceSubject) : Sql Tables Unit :=
  Dispatch.onlyIf (subject.subjectType = .human ∨ subject.subjectType = .agent) do
    let key := text "penta.membership.workforce." ++ md5 subject.subjectRef
    let status := votingStatusOf subject.lifecycleState
    let memberships ← Dispatch.read Tables.memberships
    match memberships.rows.find? fun m => m.membershipKey = key with
    | some stored => placeMembership { stored with votingStatus := status }
    | none => do
      unique (memberships.find candidateId = none) "membership_id"
      placeMembership
        { membershipId := candidateId
          membershipKey := key
          subjectRef := subject.subjectRef
          constituencyKey := text "penta.constituency.workforce"
          branchKey := none
          civicRole := .elector
          votingStatus := status
          startsAt := now
          endsAt := none }

def insertSubject (md5 : Text → Text) (now : Timestamp) (candidateId : Uuid)
    (subject : WorkforceSubject) : Sql Tables Unit := do
  let subjects ← Dispatch.read Tables.subjects
  unique (subjects.find subject.subjectRef = none) "subject_ref"
  Dispatch.write fun t => { t with subjects := t.subjects.put subject }
  syncCivicMembership md5 now candidateId subject

def updateSubject (md5 : Text → Text) (now : Timestamp) (candidateId : Uuid)
    (subject : WorkforceSubject) : Sql Tables Unit := do
  let subjects ← Dispatch.read Tables.subjects
  Dispatch.ifSome (subjects.find subject.subjectRef) fun _ => do
    Dispatch.write fun t => { t with subjects := t.subjects.put subject }
    syncCivicMembership md5 now candidateId subject

/-! ## Preparing a ballot -/

/-- The eligibility row that preparing a ballot writes for a membership, if any. -/
def eligibilityOf (t : Tables) (now : Timestamp) (b : BallotRow) (m : Membership) :
    Option Eligibility :=
  (t.subjects.find m.subjectRef).bind fun s =>
    if m.constituencyKey = b.constituencyKey ∧ m.InForce now ∧ s.lifecycleState = .active ∧
        (s.subjectType = .human ∨ s.subjectType = .agent) then
      some ⟨b.ballotId, m.membershipId, true, s.subjectType⟩
    else none

def eligibleRows (t : Tables) (now : Timestamp) (b : BallotRow) : List Eligibility :=
  t.memberships.rows.filterMap (eligibilityOf t now b)

def prepareBallotEligibility (now : Timestamp) (ballotId : Uuid) : Sql Tables Nat := do
  let t ← Dispatch.read id
  let b ← demand (t.ballots.find ballotId) "ballot not found"
  require (b.state = .scheduled ∨ b.state = .opened)
    "ballot eligibility can only be prepared before or during an open ballot"
  let rows := eligibleRows t now b
  Dispatch.write fun t => { t with eligibility := t.eligibility.putAll rows }
  pure rows.length

def setEligible (ballotId membershipId : Uuid) (eligible : Bool) : Sql Tables Unit := do
  let rows ← Dispatch.read Tables.eligibility
  Dispatch.ifSome (rows.find (ballotId, membershipId)) fun row =>
    Dispatch.write fun t =>
      { t with eligibility := t.eligibility.put { row with eligible := eligible } }

def setBallotState (ballotId : Uuid) (state : BallotState) : Sql Tables Unit := do
  let ballots ← Dispatch.read Tables.ballots
  Dispatch.ifSome (ballots.find ballotId) fun b =>
    Dispatch.write fun t => { t with ballots := t.ballots.put { b with state := state } }

/-! ## Voting -/

/-- The guard of every written vote. -/
def validateBallotVote (now : Timestamp) (new : Vote) : Sql Tables Unit := do
  let t ← Dispatch.read id
  let b ← demand (t.ballots.find new.ballotId) "ballot not found"
  require (b.state = .opened ∧ b.opensAt ≤ now ∧ now < b.closesAt) "ballot is not open"
  let _ ← demand ((t.eligibility.find new.key).filter fun e => e.eligible)
    "membership is not eligible for ballot"
  let _ ← demand ((t.memberships.find new.membershipId).filter fun m => m.InForce now)
    "governance membership is not currently eligible"
  require (new.choice = .recuse → new.conflictDisclosed) "recusal requires conflict disclosure"

def insertVote (now : Timestamp) (new : Vote) : Sql Tables Unit := do
  validateBallotVote now new
  let votes ← Dispatch.read Tables.votes
  unique (votes.find new.key = none) "penta_ballot_votes_pkey"
  Dispatch.write fun t => { t with votes := t.votes.put new }

/-- Rewrite the vote stored under a key, which the new row may move to another. -/
def updateVote (now : Timestamp) (key : Uuid × Uuid) (new : Vote) : Sql Tables Unit := do
  let votes ← Dispatch.read Tables.votes
  Dispatch.ifSome (votes.find key) fun _ => do
    validateBallotVote now new
    unique (new.key = key ∨ votes.find new.key = none) "penta_ballot_votes_pkey"
    Dispatch.write fun t => { t with votes := (t.votes.erase key).put new }

/-! ## Closing -/

/-- The vote takes part in the decision. -/
def Choice.Participates (choice : Choice) : Prop :=
  choice = .yes ∨ choice = .no ∨ choice = .abstain

instance (choice : Choice) : Decidable choice.Participates :=
  inferInstanceAs (Decidable (_ ∨ _ ∨ _))

/-- A vote of a ballot passes a test together with the eligibility row it is joined
with. -/
def joins (t : Tables) (ballotId : Uuid) (p : Vote → Eligibility → Bool) (v : Vote) : Bool :=
  decide (v.ballotId = ballotId) && (t.eligibility.find v.key).any (p v)

def countVotes (t : Tables) (ballotId : Uuid) (p : Vote → Eligibility → Bool) : Nat :=
  t.votes.count (joins t ballotId p)

def tally (t : Tables) (ballotId : Uuid) : Tally where
  eligible := t.eligibility.count fun e => decide (e.ballotId = ballotId) && e.eligible
  participation := countVotes t ballotId fun v _ => v.choice.Participates
  yes := countVotes t ballotId fun v _ => v.choice = .yes
  no := countVotes t ballotId fun v _ => v.choice = .no
  humanParticipation := countVotes t ballotId fun v e =>
    e.subjectTypeSnapshot = .human ∧ v.choice.Participates
  humanYes := countVotes t ballotId fun v e => e.subjectTypeSnapshot = .human ∧ v.choice = .yes
  humanNo := countVotes t ballotId fun v e => e.subjectTypeSnapshot = .human ∧ v.choice = .no

/-- The decision over a tally. -/
def decideBallot (b : BallotRow) (counts : Tally) (now : Timestamp) : Snapshot :=
  let quorumMet : Bool := decide (0 < counts.eligible ∧
    b.quorumRatio ≤ Numeric.div counts.participation counts.eligible)
  let approvalMet : Bool := decide (0 < counts.yes + counts.no ∧
    b.approvalRatio ≤ Numeric.div counts.yes (counts.yes + counts.no))
  let humanMet : Bool := decide (b.humanRatificationRequired = false ∨
    0 < counts.humanYes + counts.humanNo ∧
      b.humanApprovalRatio ≤ Numeric.div counts.humanYes (counts.humanYes + counts.humanNo))
  let result : BallotResult :=
    if quorumMet = false then .invalid
    else if counts.yes = counts.no ∧ 0 < counts.yes then .tied
    else if approvalMet = true ∧ humanMet = true then .passed
    else .failed
  { counts with quorumMet, approvalMet, humanRatificationMet := humanMet, result, closedAt := now }

def closeBallot (now : Timestamp) (ballotId : Uuid) : Sql Tables Snapshot := do
  let t ← Dispatch.read id
  let b ← demand (t.ballots.find ballotId) "ballot not found"
  require (b.state ≠ .cancelled) "cancelled ballot cannot be tallied"
  require (b.closesAt ≤ now ∨ b.state = .closed) "ballot has not reached close time"
  let counts := tally t ballotId
  -- the counts are assigned to integer variables
  fitsInteger counts.eligible
  fitsInteger counts.participation
  let snapshot := decideBallot b counts now
  Dispatch.write fun t => { t with ballots := t.ballots.put { b with
    state := .closed, result := snapshot.result, resultSnapshot := some snapshot } }
  pure snapshot

/-! ## Calls -/

inductive Call where
  | prepare (now : Timestamp) (ballotId : Uuid)
  | setEligible (ballotId membershipId : Uuid) (eligible : Bool)
  | setVotingStatus (membershipId : Uuid) (status : VotingStatus)
  | insertSubject (now : Timestamp) (candidateId : Uuid) (subject : WorkforceSubject)
  | updateSubject (now : Timestamp) (candidateId : Uuid) (subject : WorkforceSubject)
  | setBallotState (ballotId : Uuid) (state : BallotState)
  | insertVote (now : Timestamp) (new : Vote)
  | updateVote (now : Timestamp) (key : Uuid × Uuid) (new : Vote)
  | close (now : Timestamp) (ballotId : Uuid)

inductive Reply where
  | done
  | prepared (rows : Nat)
  | closed (snapshot : Snapshot)
  deriving DecidableEq

def perform (md5 : Text → Text) : Call → Sql Tables Reply
  | .prepare now ballotId => Reply.prepared <$> prepareBallotEligibility now ballotId
  | .setEligible ballotId membershipId eligible =>
      (fun _ => Reply.done) <$> Ballot.setEligible ballotId membershipId eligible
  | .setVotingStatus membershipId status =>
      (fun _ => Reply.done) <$> Ballot.setVotingStatus membershipId status
  | .insertSubject now candidateId subject =>
      (fun _ => Reply.done) <$> Ballot.insertSubject md5 now candidateId subject
  | .updateSubject now candidateId subject =>
      (fun _ => Reply.done) <$> Ballot.updateSubject md5 now candidateId subject
  | .setBallotState ballotId state =>
      (fun _ => Reply.done) <$> Ballot.setBallotState ballotId state
  | .insertVote now new => (fun _ => Reply.done) <$> Ballot.insertVote now new
  | .updateVote now key new => (fun _ => Reply.done) <$> Ballot.updateVote now key new
  | .close now ballotId => Reply.closed <$> closeBallot now ballotId

/-- Make one call, whose exception undoes it. -/
def call (md5 : Text → Text) (t : Tables) (made : Call) : Tables × Except SqlError Reply :=
  statement (perform md5 made) t

/-- The tables after a list of calls. -/
abbrev record (md5 : Text → Text) (start : Tables) (calls : List Call) : Tables :=
  Runs.run (call md5) start calls

end Chlom.Ballot
