import Chlom.Ballot.Functions

/-!
# What the ballot functions do

One lemma for each function tells what a successful call found and what it left
behind.  Calls on subjects and memberships leave ballots, eligibility and votes alone.
-/

namespace Chlom.Ballot

open Assurance (Text Timestamp Uuid SqlError)
open Sql

/-- The parts of the tables that a ballot reads are the same. -/
structure SameBallots (t t' : Tables) : Prop where
  ballots : t'.ballots = t.ballots
  eligibility : t'.eligibility = t.eligibility
  votes : t'.votes = t.votes

/-- What the guard of a vote asks for. -/
structure Admits (t : Tables) (now : Timestamp) (new : Vote) : Prop where
  ballot : ∃ b, t.ballots.find new.ballotId = some b ∧ b.state = .opened ∧ b.opensAt ≤ now ∧
    now < b.closesAt
  eligible : ∃ e, t.eligibility.find new.key = some e ∧ e.eligible = true
  membership : ∃ m, t.memberships.find new.membershipId = some m ∧ m.InForce now
  recusal : new.choice = .recuse → new.conflictDisclosed = true

/-- What rewriting a stored vote asks for. -/
def AcceptsUpdate (t : Tables) (now : Timestamp) (key : Uuid × Uuid) (new : Vote) : Prop :=
  Admits t now new ∧ (new.key = key ∨ t.votes.find new.key = none)

/-- What a successful call found, and what it left of ballots, eligibility and votes. -/
inductive Effect (t : Tables) : Call → Reply → Tables → Prop
  | prepare {now ballotId rows b} (found : t.ballots.find ballotId = some b)
      (state : b.state = .scheduled ∨ b.state = .opened) :
      Effect t (.prepare now ballotId) (.prepared rows)
        { t with eligibility := t.eligibility.putAll (eligibleRows t now b) }
  | setEligible {ballotId membershipId eligible row}
      (found : t.eligibility.find (ballotId, membershipId) = some row) :
      Effect t (.setEligible ballotId membershipId eligible) .done
        { t with eligibility := t.eligibility.put { row with eligible := eligible } }
  | setBallotState {ballotId state after} (eligibility : after.eligibility = t.eligibility)
      (votes : after.votes = t.votes) :
      Effect t (.setBallotState ballotId state) .done after
  | insertVote {now new} (admits : Admits t now new) (fresh : t.votes.find new.key = none) :
      Effect t (.insertVote now new) .done { t with votes := t.votes.put new }
  | updateVote {now key new stored} (found : t.votes.find key = some stored)
      (accepts : AcceptsUpdate t now key new) :
      Effect t (.updateVote now key new) .done
        { t with votes := (t.votes.erase key).put new }
  | close {now ballotId b snapshot} (found : t.ballots.find ballotId = some b)
      (state : b.state ≠ .cancelled) (due : b.closesAt ≤ now ∨ b.state = .closed)
      (decided : snapshot = decideBallot b (tally t ballotId) now) :
      Effect t (.close now ballotId) (.closed snapshot)
        { t with ballots := t.ballots.put { b with
          state := .closed, result := snapshot.result, resultSnapshot := some snapshot } }
  | frame {made answer after} (same : SameBallots t after)
      (close : ∀ now ballotId, made ≠ .close now ballotId) : Effect t made answer after

variable {t t' : Tables} {now : Timestamp} {ballotId membershipId : Uuid} {b : BallotRow}

theorem SameBallots.refl : SameBallots t t :=
  ⟨rfl, rfl, rfl⟩

/-! ## Subjects and memberships -/

theorem placeMembership_ok {m : Membership} (ran : placeMembership m t = .ok () t') :
    t' = { t with memberships := t.memberships.put m } := by
  rw [placeMembership, Dispatch.read_bind, unique, Dispatch.ensure_bind_ok] at ran
  exact ((EStateM.Result.ok.inj ran.2).2).symm

theorem placeMembership_frame {m : Membership} (ran : placeMembership m t = .ok () t') :
    SameBallots t t' := by
  rw [placeMembership_ok ran]
  exact ⟨rfl, rfl, rfl⟩

theorem setVotingStatus_frame {status : VotingStatus}
    (ran : setVotingStatus membershipId status t = .ok () t') : SameBallots t t' := by
  rw [setVotingStatus, Dispatch.read_bind] at ran
  cases found : t.memberships.find membershipId with
  | none =>
      rw [found] at ran
      cases ran
      exact .refl
  | some m =>
      rw [found] at ran
      exact placeMembership_frame ran

theorem syncCivicMembership_frame {md5 : Text → Text} {candidateId : Uuid}
    {subject : WorkforceSubject} (ran : syncCivicMembership md5 now candidateId subject t = .ok () t') :
    SameBallots t t' := by
  rw [syncCivicMembership, Dispatch.onlyIf] at ran
  split at ran
  · rw [Dispatch.read_bind] at ran
    generalize t.memberships.rows.find? _ = stored at ran
    cases stored with
    | some stored => exact placeMembership_frame ran
    | none =>
        simp only [unique, Dispatch.ensure_bind_ok] at ran
        exact placeMembership_frame ran.2
  · cases ran
    exact .refl

theorem insertSubject_frame {md5 : Text → Text} {candidateId : Uuid} {subject : WorkforceSubject}
    (ran : insertSubject md5 now candidateId subject t = .ok () t') : SameBallots t t' := by
  rw [insertSubject, Dispatch.read_bind, unique, Dispatch.ensure_bind_ok,
    Dispatch.write_bind] at ran
  obtain ⟨ballots, eligibility, votes⟩ := syncCivicMembership_frame ran.2
  exact ⟨ballots, eligibility, votes⟩

theorem updateSubject_frame {md5 : Text → Text} {candidateId : Uuid} {subject : WorkforceSubject}
    (ran : updateSubject md5 now candidateId subject t = .ok () t') : SameBallots t t' := by
  rw [updateSubject, Dispatch.read_bind] at ran
  cases found : t.subjects.find subject.subjectRef with
  | none =>
      rw [found] at ran
      cases ran
      exact .refl
  | some stored =>
      rw [found, Dispatch.ifSome, Dispatch.write_bind] at ran
      obtain ⟨ballots, eligibility, votes⟩ := syncCivicMembership_frame ran
      exact ⟨ballots, eligibility, votes⟩

/-! ## Eligibility -/

theorem prepareBallotEligibility_ok {rows : Nat}
    (ran : prepareBallotEligibility now ballotId t = .ok rows t') :
    ∃ b, t.ballots.find ballotId = some b ∧ (b.state = .scheduled ∨ b.state = .opened) ∧
      t' = { t with eligibility := t.eligibility.putAll (eligibleRows t now b) } := by
  rw [prepareBallotEligibility, Dispatch.read_bind, demand, Dispatch.okOr_bind_ok] at ran
  obtain ⟨b, found, ran⟩ := ran
  rw [require, Dispatch.ensure_bind_ok] at ran
  obtain ⟨state, ran⟩ := ran
  cases ran
  exact ⟨b, found, state, rfl⟩

/-- Every prepared row is an eligible one of the ballot. -/
theorem eligible_of_mem_eligibleRows {row : Eligibility} (member : row ∈ eligibleRows t now b) :
    row.ballotId = b.ballotId ∧ row.eligible = true := by
  obtain ⟨m, _, made⟩ := List.mem_filterMap.mp member
  obtain ⟨s, _, made⟩ := Option.bind_eq_some_iff.mp made
  split at made
  · cases made
    exact ⟨rfl, rfl⟩
  · cases made

theorem setEligible_ok {eligible : Bool}
    (ran : setEligible ballotId membershipId eligible t = .ok () t') :
    t.eligibility.find (ballotId, membershipId) = none ∧ t' = t ∨
      ∃ row, t.eligibility.find (ballotId, membershipId) = some row ∧
        t' = { t with eligibility := t.eligibility.put { row with eligible := eligible } } := by
  rw [setEligible, Dispatch.read_bind] at ran
  cases found : t.eligibility.find (ballotId, membershipId) with
  | none =>
      rw [found] at ran
      cases ran
      exact .inl ⟨rfl, rfl⟩
  | some row =>
      rw [found] at ran
      cases ran
      exact .inr ⟨row, rfl, rfl⟩

theorem setBallotState_ok {state : BallotState} (ran : setBallotState ballotId state t = .ok () t') :
    t'.eligibility = t.eligibility ∧ t'.votes = t.votes := by
  rw [setBallotState, Dispatch.read_bind] at ran
  cases found : t.ballots.find ballotId with
  | none =>
      rw [found] at ran
      cases ran
      exact ⟨rfl, rfl⟩
  | some b =>
      rw [found] at ran
      cases ran
      exact ⟨rfl, rfl⟩

/-! ## Votes -/

variable {new : Vote} {key : Uuid × Uuid}

theorem validateBallotVote_ok :
    validateBallotVote now new t = .ok () t' ↔ Admits t now new ∧ t' = t := by
  rw [validateBallotVote, Dispatch.read_bind, demand, Dispatch.okOr_bind_ok]
  simp only [id, require, demand, Dispatch.ensure_bind_ok, Dispatch.okOr_bind_ok,
    Option.filter_eq_some_iff, Dispatch.ensure_ok, decide_eq_true_eq]
  constructor
  · rintro ⟨b, found, open_, e, eligible, m, membership, recusal, rfl⟩
    exact ⟨⟨⟨b, found, open_⟩, ⟨e, eligible⟩, ⟨m, membership⟩, recusal⟩, rfl⟩
  · rintro ⟨⟨⟨b, found, open_⟩, ⟨e, eligible⟩, ⟨m, membership⟩, recusal⟩, rfl⟩
    exact ⟨b, found, open_, e, eligible, m, membership, recusal, rfl⟩

theorem insertVote_ok (ran : insertVote now new t = .ok () t') :
    Admits t now new ∧ t.votes.find new.key = none ∧ t' = { t with votes := t.votes.put new } := by
  rw [insertVote, Dispatch.bind_unit_ok] at ran
  obtain ⟨middle, valid, ran⟩ := ran
  obtain ⟨admits, rfl⟩ := validateBallotVote_ok.mp valid
  rw [Dispatch.read_bind, unique, Dispatch.ensure_bind_ok] at ran
  obtain ⟨fresh, ran⟩ := ran
  cases ran
  exact ⟨admits, fresh, rfl⟩

theorem updateVote_ok (ran : updateVote now key new t = .ok () t') :
    t.votes.find key = none ∧ t' = t ∨
      ∃ stored, t.votes.find key = some stored ∧ AcceptsUpdate t now key new ∧
        t' = { t with votes := (t.votes.erase key).put new } := by
  rw [updateVote, Dispatch.read_bind] at ran
  cases found : t.votes.find key with
  | none =>
      rw [found] at ran
      cases ran
      exact .inl ⟨rfl, rfl⟩
  | some stored =>
      rw [found, Dispatch.ifSome, Dispatch.bind_unit_ok] at ran
      obtain ⟨middle, valid, ran⟩ := ran
      obtain ⟨admits, rfl⟩ := validateBallotVote_ok.mp valid
      rw [unique, Dispatch.ensure_bind_ok] at ran
      obtain ⟨free, ran⟩ := ran
      cases ran
      exact .inr ⟨stored, rfl, ⟨admits, free⟩, rfl⟩

/-! ## Closing -/

theorem closeBallot_ok {snapshot : Snapshot} (ran : closeBallot now ballotId t = .ok snapshot t') :
    ∃ b, t.ballots.find ballotId = some b ∧ b.state ≠ .cancelled ∧
      (b.closesAt ≤ now ∨ b.state = .closed) ∧ snapshot = decideBallot b (tally t ballotId) now ∧
      t' = { t with ballots := t.ballots.put { b with
        state := .closed, result := snapshot.result, resultSnapshot := some snapshot } } := by
  rw [closeBallot, Dispatch.read_bind, demand, Dispatch.okOr_bind_ok] at ran
  obtain ⟨b, found, ran⟩ := ran
  simp only [require, fitsInteger, Dispatch.ensure_bind_ok, Dispatch.write_bind] at ran
  obtain ⟨open_, due, _, _, ran⟩ := ran
  cases ran
  exact ⟨b, found, open_, due, rfl, rfl⟩

/-- The decision keeps the counts it was made over. -/
@[simp]
theorem toTally_decideBallot {counts : Tally} : (decideBallot b counts now).toTally = counts :=
  rfl

/-- The decision does not depend on the time or on an earlier result. -/
theorem result_decideBallot {other : BallotRow} {counts : Tally} {later : Timestamp}
    (quorum : other.quorumRatio = b.quorumRatio) (approval : other.approvalRatio = b.approvalRatio)
    (required : other.humanRatificationRequired = b.humanRatificationRequired)
    (human : other.humanApprovalRatio = b.humanApprovalRatio) :
    (decideBallot other counts later).result = (decideBallot b counts now).result := by
  simp only [decideBallot, quorum, approval, required, human]

/-! ## Calls -/

variable {md5 : Text → Text} {made : Call} {reply : Reply}

/-- A call that answers ran to its end. -/
theorem perform_of_call (answered : (call md5 t made).2 = .ok reply) :
    perform md5 made t = .ok reply (call md5 t made).1 :=
  ok_of_statement answered

theorem perform_effect (ran : perform md5 made t = .ok reply t') : Effect t made reply t' := by
  cases made with
  | prepare now ballotId =>
      obtain ⟨rows, done, rfl⟩ := Dispatch.map_ok.mp ran
      obtain ⟨b, found, state, rfl⟩ := prepareBallotEligibility_ok done
      exact .prepare found state
  | setEligible ballotId membershipId eligible =>
      obtain ⟨_, done, rfl⟩ := Dispatch.map_ok.mp ran
      rcases setEligible_ok done with ⟨_, rfl⟩ | ⟨row, found, rfl⟩
      · exact .frame .refl nofun
      · exact .setEligible found
  | setVotingStatus membershipId status =>
      obtain ⟨_, done, rfl⟩ := Dispatch.map_ok.mp ran
      exact .frame (setVotingStatus_frame done) nofun
  | insertSubject now candidateId subject =>
      obtain ⟨_, done, rfl⟩ := Dispatch.map_ok.mp ran
      exact .frame (insertSubject_frame done) nofun
  | updateSubject now candidateId subject =>
      obtain ⟨_, done, rfl⟩ := Dispatch.map_ok.mp ran
      exact .frame (updateSubject_frame done) nofun
  | setBallotState ballotId state =>
      obtain ⟨_, done, rfl⟩ := Dispatch.map_ok.mp ran
      obtain ⟨eligibility, votes⟩ := setBallotState_ok done
      exact .setBallotState eligibility votes
  | insertVote now new =>
      obtain ⟨_, done, rfl⟩ := Dispatch.map_ok.mp ran
      obtain ⟨admits, fresh, rfl⟩ := insertVote_ok done
      exact .insertVote admits fresh
  | updateVote now key new =>
      obtain ⟨_, done, rfl⟩ := Dispatch.map_ok.mp ran
      rcases updateVote_ok done with ⟨_, rfl⟩ | ⟨stored, found, accepts, rfl⟩
      · exact .frame .refl nofun
      · exact .updateVote found accepts
  | close now ballotId =>
      obtain ⟨snapshot, done, rfl⟩ := Dispatch.map_ok.mp ran
      obtain ⟨b, found, state, due, decided, rfl⟩ := closeBallot_ok done
      exact .close found state due decided

/-- A call either has its effect or leaves the tables alone. -/
theorem call_effect (md5 : Text → Text) (t : Tables) (made : Call) :
    (∃ reply, Effect t made reply (call md5 t made).1) ∨ (call md5 t made).1 = t := by
  cases ran : perform md5 made t with
  | ok reply t' =>
      rw [call, statement_of_ok ran]
      exact .inl ⟨reply, perform_effect ran⟩
  | error failure t' =>
      rw [call, statement_of_error ran]
      exact .inr rfl

end Chlom.Ballot
