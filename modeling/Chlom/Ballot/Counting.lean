import Chlom.Ballot.Effects

/-!
# Whose votes a closed ballot counts

A vote is accepted of an eligible membership only, and preparing a ballot never takes
eligibility away.  So a vote that is counted without eligibility was cast before the
eligibility of its membership was switched off by hand.
-/

namespace Chlom.Ballot

open Assurance (Text text Timestamp Uuid SqlError)

/-! ## The property -/

/-- A membership has a vote on a ballot that takes part in the decision. -/
def Voted (t : Tables) (ballotId membershipId : Uuid) : Prop :=
  ∃ v, t.votes.find (ballotId, membershipId) = some v ∧ v.choice.Participates

/-- A membership has voted, and its eligibility is switched off. -/
def Stale (t : Tables) (ballotId membershipId : Uuid) : Prop :=
  Voted t ballotId membershipId ∧
    ∃ e, t.eligibility.find (ballotId, membershipId) = some e ∧ e.eligible = false

/-- The snapshot of a close counts eligible voters only. -/
structure CountsEligible (t : Tables) (ballotId : Uuid) (snapshot : Snapshot) : Prop where
  counted : ∀ v ∈ t.votes, v.ballotId = ballotId → v.choice.Participates →
    ∀ e ∈ t.eligibility, e.key = v.key → e.eligible = true
  participation : snapshot.participation ≤ snapshot.eligible
  decided : snapshot.yes + snapshot.no ≤ snapshot.participation
  quorum : Numeric.div snapshot.participation snapshot.eligible ≤ 1
  approval : Numeric.div snapshot.yes (snapshot.yes + snapshot.no) ≤ 1

/-- Whoever had voted when its eligibility was switched off is, at some time after
that, eligible again or without the vote. -/
def Restored (md5 : Text → Text) (start : Tables) (calls : List Call) (ballotId : Uuid) : Prop :=
  ∀ before membershipId after, calls = before ++ .setEligible ballotId membershipId false :: after →
    Voted (record md5 start before) ballotId membershipId →
    ∃ later, later <+: after ∧ ¬ Stale (record md5 start
      (before ++ .setEligible ballotId membershipId false :: later)) ballotId membershipId

variable {t t' : Tables} {ballotId membershipId : Uuid}

/-! ## Counting -/

theorem voted_iff : Voted t ballotId membershipId ↔
    ∃ v ∈ t.votes, v.key = (ballotId, membershipId) ∧ v.choice.Participates := by
  simp only [Voted, Table.find_eq_some, and_assoc]

theorem not_stale_iff : (∀ membershipId, ¬ Stale t ballotId membershipId) ↔
    ∀ v ∈ t.votes, v.ballotId = ballotId → v.choice.Participates →
      ∀ e ∈ t.eligibility, e.key = v.key → e.eligible = true := by
  constructor
  · rintro none_stale v member rfl participates e present same
    by_contra off
    apply none_stale v.membershipId
    refine ⟨voted_iff.mpr ⟨v, member, rfl, participates⟩, e, ?_, by simpa using off⟩
    exact Table.find_eq_some.mpr ⟨present, same⟩
  · rintro every membershipId ⟨voted, e, found, off⟩
    obtain ⟨v, member, named, participates⟩ := voted_iff.mp voted
    obtain ⟨present, same⟩ := Table.find_eq_some.mp found
    have on := every v member (Prod.mk.inj named).1 participates e present (same.trans named.symm)
    rw [off] at on
    cases on

theorem joins_iff {p : Vote → Eligibility → Bool} {v : Vote} :
    joins t ballotId p v = true ↔
      v.ballotId = ballotId ∧ ∃ e, t.eligibility.find v.key = some e ∧ p v e = true := by
  rw [joins, Bool.and_eq_true, decide_eq_true_eq, Option.any_eq_true]

/-- Votes of eligible memberships are not more than the eligible memberships. -/
theorem participation_le_eligible (none_stale : ∀ membershipId, ¬ Stale t ballotId membershipId) :
    (tally t ballotId).participation ≤ (tally t ballotId).eligible := by
  apply Table.count_le_count
  intro v member counted
  obtain ⟨named, e, found, participates⟩ := joins_iff.mp counted
  obtain ⟨present, same⟩ := Table.find_eq_some.mp found
  have on := not_stale_iff.mp none_stale v member named (by simpa using participates) e present same
  have ballot : e.ballotId = v.ballotId := congrArg Prod.fst same
  exact ⟨e, present, by simp [ballot, named, on], same⟩

theorem yes_add_no_le_participation :
    (tally t ballotId).yes + (tally t ballotId).no ≤ (tally t ballotId).participation := by
  apply Table.count_add_le
  · intro v counted
    obtain ⟨named, e, found, yes⟩ := joins_iff.mp counted
    rw [decide_eq_true_eq] at yes
    exact joins_iff.mpr ⟨named, e, found, by simp [yes, Choice.Participates]⟩
  · intro v counted
    obtain ⟨named, e, found, no⟩ := joins_iff.mp counted
    rw [decide_eq_true_eq] at no
    exact joins_iff.mpr ⟨named, e, found, by simp [no, Choice.Participates]⟩
  · intro v countedYes countedNo
    obtain ⟨_, _, _, yes⟩ := joins_iff.mp countedYes
    obtain ⟨_, _, _, no⟩ := joins_iff.mp countedNo
    rw [decide_eq_true_eq] at yes no
    rw [yes] at no
    cases no

theorem countsEligible_iff {snapshot : Snapshot} (counts : snapshot.toTally = tally t ballotId) :
    CountsEligible t ballotId snapshot ↔ ∀ membershipId, ¬ Stale t ballotId membershipId := by
  rw [not_stale_iff]
  constructor
  · intro sound
    exact sound.counted
  · intro counted
    have participation : snapshot.participation ≤ snapshot.eligible := by
      rw [counts]
      exact participation_le_eligible (not_stale_iff.mpr counted)
    have decided : snapshot.yes + snapshot.no ≤ snapshot.participation := by
      rw [counts]
      exact yes_add_no_le_participation
    exact ⟨counted, participation, decided, Numeric.div_le_one participation,
      Numeric.div_le_one (Nat.le_add_right _ _)⟩

/-! ## How a vote becomes stale -/

/-- Only switching eligibility off makes a vote stale. -/
theorem Effect.stale {made : Call} {reply : Reply} (effect : Effect t made reply t')
    (stale : Stale t' ballotId membershipId) :
    Stale t ballotId membershipId ∨
      made = .setEligible ballotId membershipId false ∧ Voted t ballotId membershipId := by
  obtain ⟨⟨v, voted, participates⟩, e, found, off⟩ := stale
  cases effect with
  | @prepare now prepared rows b present state =>
      left
      refine ⟨⟨v, voted, participates⟩, e, ?_, off⟩
      rw [← found]
      symm
      rw [Table.find_putAll] at found ⊢
      -- a prepared row would be eligible
      cases last : (eligibleRows t now b).reverse.find? fun other =>
          other.key = (ballotId, membershipId) with
      | none => rfl
      | some row =>
          rw [last, Option.some_or, Option.some.injEq] at found
          have member := List.mem_reverse.mp (List.mem_of_find?_eq_some last)
          rw [found] at member
          rw [(eligible_of_mem_eligibleRows member).2] at off
          cases off
  | @setEligible ballot membership eligible row present =>
      rw [Table.find_put] at found
      split at found
      · next same =>
          right
          obtain ⟨member, named⟩ := Table.find_eq_some.mp present
          have key : (ballot, membership) = (ballotId, membershipId) := named.symm.trans same
          obtain ⟨rfl, rfl⟩ := Prod.mk.inj key
          cases found
          obtain rfl : eligible = false := off
          exact ⟨rfl, v, voted, participates⟩
      · exact .inl ⟨⟨v, voted, participates⟩, e, found, off⟩
  | setBallotState eligibility votes =>
      rw [votes] at voted
      rw [eligibility] at found
      exact .inl ⟨⟨v, voted, participates⟩, e, found, off⟩
  | @insertVote now new admits fresh =>
      left
      refine ⟨⟨v, ?_, participates⟩, e, found, off⟩
      rw [← voted]
      refine (Table.find_put_of_ne ?_).symm
      -- the guard finds the row of the new vote eligible
      intro same
      obtain ⟨row, present, on⟩ := admits.eligible
      rw [same, found] at present
      cases present
      rw [off] at on
      cases on
  | @updateVote now key new stored present accepts =>
      left
      refine ⟨?_, e, found, off⟩
      have apart : new.key ≠ (ballotId, membershipId) := by
        intro same
        obtain ⟨row, present, on⟩ := accepts.1.eligible
        rw [same, found] at present
        cases present
        rw [off] at on
        cases on
      rw [Table.find_put_of_ne apart] at voted
      obtain ⟨member, named⟩ := Table.find_eq_some.mp voted
      exact voted_iff.mpr ⟨v, (Table.mem_erase.mp member).1, named, participates⟩
  | close => exact .inl ⟨⟨v, voted, participates⟩, e, found, off⟩
  | frame same =>
      rw [same.votes] at voted
      rw [same.eligibility] at found
      exact .inl ⟨⟨v, voted, participates⟩, e, found, off⟩

theorem stale_call {md5 : Text → Text} {made : Call}
    (stale : Stale (call md5 t made).1 ballotId membershipId) :
    Stale t ballotId membershipId ∨
      made = .setEligible ballotId membershipId false ∧ Voted t ballotId membershipId := by
  rcases call_effect md5 t made with ⟨reply, effect⟩ | same
  · exact effect.stale stale
  · rw [same] at stale
    exact .inl stale

/-- A stale vote has been stale ever since its eligibility was switched off. -/
theorem switched_off {md5 : Text → Text} {start : Tables} {calls : List Call}
    (fresh : ∀ v ∈ start.votes, v.ballotId ≠ ballotId)
    (stale : Stale (record md5 start calls) ballotId membershipId) :
    ∃ before after, calls = before ++ .setEligible ballotId membershipId false :: after ∧
      Voted (record md5 start before) ballotId membershipId ∧
      ∀ later, later <+: after → Stale (record md5 start
        (before ++ .setEligible ballotId membershipId false :: later)) ballotId membershipId := by
  induction calls using List.reverseRecOn with
  | nil =>
      obtain ⟨v, member, named, _⟩ := voted_iff.mp stale.1
      exact absurd (congrArg Prod.fst named) (fresh v member)
  | append_singleton calls made ih =>
      have last := stale
      rw [record, Runs.run_append] at last
      rcases stale_call last with earlier | ⟨rfl, voted⟩
      · obtain ⟨before, after, rfl, voted, since⟩ := ih earlier
        refine ⟨before, after ++ [made], by simp, voted, fun later early => ?_⟩
        rcases List.prefix_concat_iff.mp early with rfl | early
        · simpa using stale
        · exact since later early
      · refine ⟨calls, [], rfl, voted, fun later early => ?_⟩
        rw [List.prefix_nil.mp early]
        exact stale

/-- A close counts eligible voters only exactly when everyone whose eligibility was
switched off after voting is eligible again, or without the vote, in between. -/
theorem countsEligible_iff_restored {md5 : Text → Text} {start : Tables} {calls : List Call}
    {now : Timestamp} {snapshot : Snapshot} (fresh : ∀ v ∈ start.votes, v.ballotId ≠ ballotId)
    (closed : (call md5 (record md5 start calls) (.close now ballotId)).2 =
      .ok (.closed snapshot)) :
    CountsEligible (record md5 start calls) ballotId snapshot ↔
      Restored md5 start calls ballotId := by
  have counts : snapshot.toTally = tally (record md5 start calls) ballotId := by
    obtain ⟨answer, ran, same⟩ := Dispatch.map_ok.mp (perform_of_call closed)
    obtain ⟨b, _, _, _, decided, _⟩ := closeBallot_ok ran
    cases same
    rw [decided, toTally_decideBallot]
  rw [countsEligible_iff counts]
  constructor
  · rintro none_stale before membershipId after rfl _
    exact ⟨after, List.prefix_rfl, none_stale membershipId⟩
  · intro restored membershipId stale
    obtain ⟨before, after, whole, voted, since⟩ := switched_off fresh stale
    obtain ⟨later, early, cured⟩ := restored before membershipId after whole voted
    exact cured (since later early)

/-! ## A vote that is counted without eligibility -/

namespace Sample

def voter : WorkforceSubject := ⟨text "voter", .human, .active⟩

def membership : Membership where
  membershipId := 1
  membershipKey := text "penta.membership.workforce.voter"
  subjectRef := voter.subjectRef
  constituencyKey := text "penta.constituency.workforce"
  branchKey := none
  civicRole := .elector
  votingStatus := .eligible
  startsAt := 0
  endsAt := none

def ballot : BallotRow where
  ballotId := 1
  constituencyKey := text "penta.constituency.workforce"
  quorumRatio := 3 / 4
  approvalRatio := 1 / 2
  humanRatificationRequired := false
  humanApprovalRatio := 1 / 2
  opensAt := 0
  closesAt := 10
  state := .opened
  result := .pending
  resultSnapshot := none

def tables : Tables where
  subjects := Table.empty.put voter
  memberships := Table.empty.put membership
  ballots := Table.empty.put ballot
  eligibility := .empty
  votes := .empty

/-- The voter votes yes. -/
def ayes : List Call := [.prepare 1 1, .insertVote 2 ⟨1, 1, .yes, false⟩]

/-- The eligibility is switched off after the vote. -/
def switchedOff : List Call := ayes ++ [.setEligible 1 1 false]

/-- The eligibility is switched on again. -/
def switchedBack : List Call := switchedOff ++ [.setEligible 1 1 true]

def passed : Snapshot :=
  { eligible := 1, participation := 1, yes := 1, no := 0, humanParticipation := 1, humanYes := 1,
    humanNo := 0, quorumMet := true, approvalMet := true, humanRatificationMet := true,
    result := .passed, closedAt := 10 }

/-- One vote is counted, and nobody is eligible. -/
def invalid : Snapshot :=
  { passed with eligible := 0, quorumMet := false, result := .invalid }

end Sample

/-- Eligible again, the voter is counted as such. -/
theorem switchedBack_restored :
    CountsEligible (record id Sample.tables Sample.switchedBack) 1 Sample.passed ↔
      Restored id Sample.tables Sample.switchedBack 1 :=
  have closed : (call id (record id Sample.tables Sample.switchedBack) (.close 10 1)).2 =
      .ok (.closed Sample.passed) := by
    decide +kernel
  countsEligible_iff_restored (fun _ member => absurd member Table.not_mem_empty) closed

/-- A close counts a vote whose eligibility was switched off after it was cast. -/
theorem not_countsEligible :
    ¬ ∀ (md5 : Text → Text) (start : Tables) (calls : List Call) (now : Timestamp)
      (ballotId : Uuid) (snapshot : Snapshot), (∀ v ∈ start.votes, v.ballotId ≠ ballotId) →
      (call md5 (record md5 start calls) (.close now ballotId)).2 = .ok (.closed snapshot) →
      CountsEligible (record md5 start calls) ballotId snapshot := by
  intro every
  have sound := every id Sample.tables Sample.switchedOff 10 1 Sample.invalid
    (fun _ member => absurd member Table.not_mem_empty) (by decide +kernel)
  have participation := sound.participation
  revert participation
  decide

end Chlom.Ballot
