import Chlom.Ballot.Counting

/-!
# When the outcome of a ballot is fixed

After the time at which a ballot closes the guard refuses every vote on it.  What its
close counts can still change while it is not closed: preparing it anew writes
eligibility rows, and an accepted vote of another ballot can be a moved one of this.
-/

namespace Chlom.Ballot

open Assurance (Text text Timestamp Uuid SqlError)

/-! ## The property -/

/-- Preparing a ballot, activating or suspending a subject or membership, writing a
vote, or closing a ballot, not before a time. -/
def NotBefore (time : Timestamp) : Call → Prop
  | .prepare now _ => time ≤ now
  | .insertSubject now _ _ => time ≤ now
  | .updateSubject now _ _ => time ≤ now
  | .insertVote now _ => time ≤ now
  | .updateVote now _ _ => time ≤ now
  | .close now _ => time ≤ now
  | .setVotingStatus _ _ => True
  | .setEligible _ _ _ => False
  | .setBallotState _ _ => False

instance (time : Timestamp) : DecidablePred (NotBefore time) := by
  intro made
  cases made <;> (unfold NotBefore; infer_instance)

/-- Some close of a ballot in a list of calls answers a snapshot. -/
def Reports (md5 : Text → Text) (start : Tables) (calls : List Call) (ballotId : Uuid)
    (snapshot : Snapshot) : Prop :=
  ∃ before now after, calls = before ++ .close now ballotId :: after ∧
    (call md5 (record md5 start before) (.close now ballotId)).2 = .ok (.closed snapshot)

/-- All closes in two lists of calls report the same, and further closes of a ballot
leave its stored result alone. -/
structure OutcomeFixed (md5 : Text → Text) (start : Tables) (first second : List Call)
    (ballotId : Uuid) : Prop where
  agree : ∀ calls ∈ [first, second], ∀ others ∈ [first, second], ∀ snapshot other,
    Reports md5 start calls ballotId snapshot → Reports md5 start others ballotId other →
      snapshot.toTally = other.toTally ∧ snapshot.result = other.result
  repeated : ∀ calls ∈ [first, second], ∀ before now middle after snapshot,
    calls = before ++ .close now ballotId :: (middle ++ after) →
    (call md5 (record md5 start before) (.close now ballotId)).2 = .ok (.closed snapshot) →
      ∃ b, (record md5 start (before ++ .close now ballotId :: middle)).ballots.find ballotId =
        some b ∧ b.result = snapshot.result

/-- A call leaves what a ballot counts alone: it prepares the ballot only when that is
refused or writes what is stored, and moves no counted vote to another ballot. -/
def LeavesCounts (t : Tables) (ballotId : Uuid) : Call → Prop
  | .prepare now prepared => prepared = ballotId → ∀ b, t.ballots.find ballotId = some b →
      b.state = .closed ∨ b.state = .cancelled ∨ ∀ row ∈ eligibleRows t now b, row ∈ t.eligibility
  | .updateVote now key new => key.1 = ballotId → new.ballotId ≠ ballotId →
      Voted t ballotId key.2 → ¬ AcceptsUpdate t now key new
  | _ => True

/-- Every call of a list leaves what a ballot counts alone. -/
def Settled (md5 : Text → Text) (start : Tables) (calls : List Call) (ballotId : Uuid) : Prop :=
  ∀ before made after, calls = before ++ made :: after →
    LeavesCounts (record md5 start before) ballotId made

/-! ## What a close counts -/

variable {t t' start : Tables} {b : BallotRow} {ballotId : Uuid}

/-- Two tables hold the same eligibility rows and counted votes of a ballot. -/
structure SameCounts (start t : Tables) (ballotId : Uuid) : Prop where
  eligibility : ∀ e : Eligibility, e.ballotId = ballotId →
    (e ∈ t.eligibility ↔ e ∈ start.eligibility)
  votes : ∀ v : Vote, v.ballotId = ballotId → v.choice.Participates →
    (v ∈ t.votes ↔ v ∈ start.votes)

theorem SameCounts.refl : SameCounts t t ballotId :=
  ⟨fun _ _ => Iff.rfl, fun _ _ _ => Iff.rfl⟩

theorem SameCounts.symm (same : SameCounts start t ballotId) : SameCounts t start ballotId :=
  ⟨fun e named => (same.eligibility e named).symm,
    fun v named participates => (same.votes v named participates).symm⟩

theorem SameCounts.find (same : SameCounts start t ballotId) {v : Vote} (named : v.ballotId = ballotId)
    {e : Eligibility} (found : t.eligibility.find v.key = some e) :
    start.eligibility.find v.key = some e := by
  obtain ⟨member, key⟩ := Table.find_eq_some.mp found
  have ballot : e.ballotId = ballotId := (congrArg Prod.fst key).trans named
  exact Table.find_eq_some.mpr ⟨(same.eligibility e ballot).mp member, key⟩

theorem SameCounts.joins (same : SameCounts start t ballotId) {p : Vote → Eligibility → Bool}
    (counted : ∀ v e, p v e = true → v.choice.Participates) {v : Vote}
    (present : v ∈ t.votes ∧ joins t ballotId p v = true) :
    v ∈ start.votes ∧ Ballot.joins start ballotId p v = true := by
  obtain ⟨member, joined⟩ := present
  obtain ⟨named, e, found, passes⟩ := joins_iff.mp joined
  refine ⟨(same.votes v named (counted v e passes)).mp member, ?_⟩
  exact joins_iff.mpr ⟨named, e, same.find named found, passes⟩

theorem SameCounts.countVotes (same : SameCounts start t ballotId) {p : Vote → Eligibility → Bool}
    (counted : ∀ v e, p v e = true → v.choice.Participates) :
    countVotes t ballotId p = Ballot.countVotes start ballotId p :=
  Table.count_congr fun _ => ⟨same.joins counted, same.symm.joins counted⟩

theorem SameCounts.tally (same : SameCounts start t ballotId) :
    tally t ballotId = Ballot.tally start ballotId := by
  have eligible : (Ballot.tally t ballotId).eligible = (Ballot.tally start ballotId).eligible := by
    refine Table.count_congr fun e => ?_
    simp only [Bool.and_eq_true, decide_eq_true_eq]
    constructor
    · rintro ⟨member, named, on⟩
      exact ⟨(same.eligibility e named).mp member, named, on⟩
    · rintro ⟨member, named, on⟩
      exact ⟨(same.eligibility e named).mpr member, named, on⟩
  ext
  · exact eligible
  all_goals
    refine same.countVotes fun v e passes => ?_
    simp only [decide_eq_true_eq] at passes
    simp_all [Choice.Participates]

/-! ## After the voting -/

/-- What stays of an open ballot after its time: its counts, and once it is closed the
result that they decide. -/
structure Kept (start t : Tables) (b : BallotRow) : Prop where
  counts : SameCounts start t b.ballotId
  ballot : ∃ state result snapshot, t.ballots.find b.ballotId =
      some { b with state := state, result := result, resultSnapshot := snapshot } ∧
    (state = .closed → result = (decideBallot b (tally start b.ballotId) b.closesAt).result)

theorem Kept.initial (found : start.ballots.find ballotId = some b) (opened : b.state = .opened) :
    Kept start start b := by
  obtain ⟨member, rfl⟩ := Table.find_eq_some.mp found
  refine ⟨.refl, b.state, b.result, b.resultSnapshot, found, ?_⟩
  rw [opened]
  exact nofun

/-- A close decides the counts of the start. -/
theorem Kept.decided (kept : Kept start t b) {found : BallotRow} (now : Timestamp)
    (present : t.ballots.find b.ballotId = some found) :
    (decideBallot found (tally t b.ballotId) now).toTally = tally start b.ballotId ∧
      (decideBallot found (tally t b.ballotId) now).result =
        (decideBallot b (tally start b.ballotId) b.closesAt).result := by
  obtain ⟨state, result, snapshot, stored, _⟩ := kept.ballot
  rw [stored] at present
  cases present
  rw [toTally_decideBallot, kept.counts.tally]
  exact ⟨rfl, result_decideBallot rfl rfl rfl rfl⟩

/-- The guard admits no vote on the ballot any more. -/
theorem Kept.not_admits (kept : Kept start t b) {now : Timestamp} {new : Vote}
    (later : b.closesAt ≤ now) (admits : Admits t now new) : new.ballotId ≠ b.ballotId := by
  intro named
  obtain ⟨found, present, _, _, early⟩ := admits.ballot
  obtain ⟨state, result, snapshot, stored, _⟩ := kept.ballot
  rw [named, stored] at present
  cases present
  exact absurd early (Int.not_lt.mpr later)

theorem Kept.effect (kept : Kept start t b) {made : Call} {reply : Reply}
    (effect : Effect t made reply t') (later : NotBefore b.closesAt made)
    (leaves : LeavesCounts t b.ballotId made) : Kept start t' b := by
  cases effect with
  | @prepare now prepared rows found present state =>
      refine ⟨⟨fun e named => ?_, kept.counts.votes⟩, kept.ballot⟩
      rw [← kept.counts.eligibility e named]
      by_cases same : prepared = b.ballotId
      · subst same
        rcases leaves rfl found present with closed | cancelled | stored
        · simp [closed] at state
        · simp [cancelled] at state
        · rw [Table.putAll_of_mem stored]
      · apply Table.mem_putAll_of_ne
        intro row member equal
        have ballot : row.ballotId = e.ballotId := congrArg Prod.fst equal
        rw [(eligible_of_mem_eligibleRows member).1, Table.key_of_find present, named] at ballot
        exact same ballot
  | setEligible => exact later.elim
  | setBallotState => exact later.elim
  | @insertVote now new admits fresh =>
      have apart := kept.not_admits later admits
      refine ⟨⟨kept.counts.eligibility, fun v named participates => ?_⟩, kept.ballot⟩
      rw [← kept.counts.votes v named participates, Table.mem_put]
      constructor
      · rintro (rfl | ⟨member, _⟩)
        · exact absurd named apart
        · exact member
      · intro member
        exact .inr ⟨member, fun same => apart ((congrArg Prod.fst same).trans named)⟩
  | @updateVote now key new stored present accepts =>
      have apart := kept.not_admits later accepts.1
      refine ⟨⟨kept.counts.eligibility, fun v named participates => ?_⟩, kept.ballot⟩
      rw [← kept.counts.votes v named participates, Table.mem_put, Table.mem_erase]
      constructor
      · rintro (rfl | ⟨⟨member, _⟩, _⟩)
        · exact absurd named apart
        · exact member
      · intro member
        refine .inr ⟨⟨member, ?_⟩, fun same => apart ((congrArg Prod.fst same).trans named)⟩
        -- the rewritten vote is a counted one of the ballot only if the update is refused
        rintro rfl
        exact leaves named apart ⟨v, by rw [← named]; exact Table.find_key member, participates⟩
          accepts
  | @close now closed found snapshot present state due decided =>
      refine ⟨⟨kept.counts.eligibility, kept.counts.votes⟩, ?_⟩
      have named := Table.key_of_find present
      by_cases same : closed = b.ballotId
      · subst same
        obtain ⟨counts, result⟩ := kept.decided now present
        obtain ⟨state, old, stored, was, _⟩ := kept.ballot
        rw [was] at present
        cases present
        refine ⟨.closed, snapshot.result, some snapshot, ?_, fun _ => by rw [decided, result]⟩
        exact Table.find_put_self
      · obtain ⟨state, old, stored, was, settled⟩ := kept.ballot
        refine ⟨state, old, stored, ?_, settled⟩
        rw [← was]
        exact Table.find_put_of_ne (by simpa [named] using same)
  | frame same _ =>
      obtain ⟨ballots, eligibility, votes⟩ := same
      refine ⟨⟨fun e named => ?_, fun v named participates => ?_⟩, ?_⟩
      · rw [eligibility]
        exact kept.counts.eligibility e named
      · rw [votes]
        exact kept.counts.votes v named participates
      · rw [ballots]
        exact kept.ballot

/-- A closed ballot stays closed. -/
def Closed (t : Tables) (ballotId : Uuid) : Prop :=
  ∃ b, t.ballots.find ballotId = some b ∧ b.state = .closed

theorem Effect.closed {made : Call} {reply : Reply} {time : Timestamp}
    (effect : Effect t made reply t') (later : NotBefore time made) (closed : Closed t ballotId) :
    Closed t' ballotId := by
  cases effect with
  | prepare => exact closed
  | setEligible => exact closed
  | setBallotState => exact later.elim
  | insertVote => exact closed
  | updateVote => exact closed
  | @close now other b snapshot found state due decided =>
      rw [Closed, Table.find_put]
      split
      · exact ⟨_, rfl, rfl⟩
      · exact closed
  | frame same =>
      rw [Closed, same.ballots]
      exact closed

variable {md5 : Text → Text} {calls first second : List Call}

theorem Settled.before {before after : List Call}
    (settled : Settled md5 start (before ++ after) ballotId) : Settled md5 start before ballotId := by
  intro earlier made rest whole
  exact settled earlier made (rest ++ after) (by simp [whole])

@[simp]
theorem settled_nil : Settled md5 start [] ballotId := by
  intro before made after whole
  cases before <;> cases whole

/-- The calls of a list are judged one after the other. -/
theorem settled_cons {made : Call} {calls : List Call} :
    Settled md5 start (made :: calls) ballotId ↔
      LeavesCounts start ballotId made ∧ Settled md5 (call md5 start made).1 calls ballotId := by
  constructor
  · intro settled
    refine ⟨settled [] made calls rfl, fun before later after whole => ?_⟩
    exact settled (made :: before) later after (congrArg (made :: ·) whole)
  · rintro ⟨first, rest⟩ before later after whole
    cases before with
    | nil =>
        cases whole
        exact first
    | cons head before =>
        cases whole
        exact rest before later after rfl

theorem kept_record (found : start.ballots.find ballotId = some b) (opened : b.state = .opened)
    (later : ∀ made ∈ calls, NotBefore b.closesAt made)
    (settled : Settled md5 start calls ballotId) : Kept start (record md5 start calls) b := by
  induction calls using List.reverseRecOn with
  | nil => exact .initial found opened
  | append_singleton calls made ih =>
      have kept := ih (fun earlier member => later earlier (List.mem_append_left _ member))
        settled.before
      have leaves := settled calls made [] rfl
      rw [← Table.key_of_find found] at leaves
      rw [record, Runs.run_append]
      rcases call_effect md5 (record md5 start calls) made with ⟨reply, effect⟩ | same
      · exact kept.effect effect (later made (by simp)) leaves
      · rw [Runs.run_cons, Runs.run_nil, same]
        exact kept

theorem closed_record {time : Timestamp} (closed : Closed start ballotId)
    (later : ∀ made ∈ calls, NotBefore time made) : Closed (record md5 start calls) ballotId := by
  refine Runs.invariant_run_of_mem (Closed · ballotId) (fun made member t closed => ?_) closed
  rcases call_effect md5 t made with ⟨reply, effect⟩ | same
  · exact effect.closed (later made member) closed
  · rw [same]
    exact closed

/-- A close of the ballot reports what the counts of the start decide. -/
theorem decided_of_closed (found : start.ballots.find ballotId = some b) (opened : b.state = .opened)
    (later : ∀ made ∈ calls, NotBefore b.closesAt made)
    (settled : Settled md5 start calls ballotId) {now : Timestamp} {snapshot : Snapshot}
    (closed : (call md5 (record md5 start calls) (.close now ballotId)).2 =
      .ok (.closed snapshot)) :
    snapshot.toTally = tally start ballotId ∧
      snapshot.result = (decideBallot b (tally start ballotId) b.closesAt).result := by
  have kept := kept_record found opened later settled
  obtain ⟨answer, ran, same⟩ := Dispatch.map_ok.mp (perform_of_call closed)
  obtain ⟨stored, present, _, _, decided, _⟩ := closeBallot_ok ran
  cases same
  obtain rfl := Table.key_of_find found
  rw [decided]
  exact kept.decided _ present

theorem reported (found : start.ballots.find ballotId = some b) (opened : b.state = .opened)
    (later : ∀ made ∈ calls, NotBefore b.closesAt made)
    (settled : Settled md5 start calls ballotId) {snapshot : Snapshot}
    (reports : Reports md5 start calls ballotId snapshot) :
    snapshot.toTally = tally start ballotId ∧
      snapshot.result = (decideBallot b (tally start ballotId) b.closesAt).result := by
  obtain ⟨before, now, after, rfl, closed⟩ := reports
  exact decided_of_closed found opened
    (fun made member => later made (List.mem_append_left _ member)) settled.before closed

/-- The result that a close reported stays the stored one. -/
theorem stored_result (found : start.ballots.find ballotId = some b) (opened : b.state = .opened)
    {before middle : List Call} {now : Timestamp} {snapshot : Snapshot}
    (later : ∀ made ∈ before ++ .close now ballotId :: middle, NotBefore b.closesAt made)
    (settled : Settled md5 start (before ++ .close now ballotId :: middle) ballotId)
    (closed : (call md5 (record md5 start before) (.close now ballotId)).2 =
      .ok (.closed snapshot)) :
    ∃ b', (record md5 start (before ++ .close now ballotId :: middle)).ballots.find ballotId =
      some b' ∧ b'.result = snapshot.result := by
  have decided := decided_of_closed found opened
    (fun made member => later made (List.mem_append_left _ member)) settled.before closed
  have shut : Closed (record md5 start (before ++ .close now ballotId :: middle)) ballotId := by
    rw [record, Runs.run_append, Runs.run_cons]
    refine closed_record ?_ fun made member =>
      later made (List.mem_append_right _ (List.mem_cons_of_mem _ member))
    obtain ⟨answer, ran, _⟩ := Dispatch.map_ok.mp (perform_of_call closed)
    obtain ⟨stored, present, _, _, _, after⟩ := closeBallot_ok ran
    rw [after]
    obtain rfl := Table.key_of_find present
    exact ⟨_, Table.find_put_self, rfl⟩
  obtain ⟨state, result, kept, stored, settles⟩ := (kept_record found opened later settled).ballot
  obtain rfl := Table.key_of_find found
  obtain ⟨last, present, isClosed⟩ := shut
  rw [stored] at present
  cases present
  exact ⟨_, stored, by rw [decided.2]; exact settles isClosed⟩

/-- When nothing that comes after the closing time changes the counts of an open
ballot, its outcome is fixed. -/
theorem outcomeFixed_of_settled (found : start.ballots.find ballotId = some b)
    (opened : b.state = .opened) (later : ∀ made ∈ first ++ second, NotBefore b.closesAt made)
    (settledFirst : Settled md5 start first ballotId)
    (settledSecond : Settled md5 start second ballotId) :
    OutcomeFixed md5 start first second ballotId := by
  have each : ∀ calls ∈ [first, second], (∀ made ∈ calls, NotBefore b.closesAt made) ∧
      Settled md5 start calls ballotId := by
    intro calls member
    rcases List.mem_pair.mp member with rfl | rfl
    · exact ⟨fun made member => later made (List.mem_append_left _ member), settledFirst⟩
    · exact ⟨fun made member => later made (List.mem_append_right _ member), settledSecond⟩
  constructor
  · intro calls member others otherMember snapshot other reports otherReports
    obtain ⟨counts, result⟩ :=
      reported found opened (each calls member).1 (each calls member).2 reports
    obtain ⟨otherCounts, otherResult⟩ :=
      reported found opened (each others otherMember).1 (each others otherMember).2 otherReports
    exact ⟨counts.trans otherCounts.symm, result.trans otherResult.symm⟩
  · intro calls member before now middle after snapshot whole closed
    obtain ⟨late, settled⟩ := each calls member
    have split : calls = (before ++ .close now ballotId :: middle) ++ after := by simp [whole]
    rw [split] at late settled
    exact stored_result found opened (fun made earlier => late made (List.mem_append_left _ earlier))
      settled.before closed

/-! ## A ballot prepared after its time -/

namespace Sample

/-- The tables at the closing time: one eligible voter, who voted yes. -/
def voted : Tables := record id tables ayes

def closes : List Call := [.close 10 1]

/-- The voter is suspended and a second vote refused; the ballot is closed twice. -/
def suspended : List Call :=
  [.updateSubject 10 2 ⟨voter.subjectRef, .human, .suspended⟩, .insertVote 11 ⟨1, 1, .no, false⟩,
    .close 12 1, .close 13 1]

/-- The ballot is prepared while nothing has changed, a newcomer is activated and a changed vote
refused; after the close it is prepared in vain and closed again. -/
def joined : List Call :=
  [.prepare 10 1, .insertSubject 11 2 ⟨text "newcomer", .agent, .active⟩,
    .updateVote 12 (1, 1) ⟨1, 1, .no, false⟩, .close 13 1, .prepare 14 1, .close 15 1]

/-- Before the close a newcomer is activated and the ballot prepared once more. -/
def preparedLate : List Call :=
  [.insertSubject 10 2 ⟨text "newcomer", .agent, .active⟩, .prepare 11 1, .close 12 1]

def tooFew : Snapshot :=
  { passed with eligible := 2, quorumMet := false, result := .invalid, closedAt := 12 }

end Sample

theorem settled_suspended : Settled id Sample.voted Sample.suspended 1 := by
  unfold Sample.suspended
  simp only [settled_cons, settled_nil, and_true]
  exact ⟨trivial, trivial, trivial, trivial⟩

theorem settled_joined : Settled id Sample.voted Sample.joined 1 := by
  unfold Sample.joined
  simp only [settled_cons, settled_nil, and_true]
  refine ⟨fun _ b found => .inr (.inr ?_), trivial, fun _ other => absurd rfl other, trivial,
    fun _ b found => .inl ?_, trivial⟩
  · have present : Sample.voted.ballots.find 1 = some Sample.ballot := by decide +kernel
    rw [present] at found
    cases found
    change ∀ row ∈ eligibleRows Sample.voted 10 Sample.ballot, row ∈ Sample.voted.eligibility.rows
    decide +kernel
  · have state : ∀ stored ∈ (record id Sample.voted (Sample.joined.take 4)).ballots.find 1,
        stored.state = .closed := by
      decide +kernel
    exact state b found

/-- Suspensions, newcomers, refused votes and repeated closes after the closing time leave the
outcome alone. -/
theorem closes_fixed : OutcomeFixed id Sample.voted Sample.suspended Sample.joined 1 ∧
    Reports id Sample.voted Sample.suspended 1 { Sample.passed with closedAt := 12 } ∧
    Reports id Sample.voted Sample.joined 1 { Sample.passed with closedAt := 15 } := by
  have present : Sample.voted.ballots.find 1 = some Sample.ballot := by decide +kernel
  refine ⟨outcomeFixed_of_settled present rfl (by decide) settled_suspended settled_joined, ?_, ?_⟩
  · refine ⟨Sample.suspended.take 2, 12, [.close 13 1], rfl, ?_⟩
    decide +kernel
  · refine ⟨Sample.joined.take 5, 15, [], rfl, ?_⟩
    decide +kernel

/-- Preparing an open ballot after its time turns a passed ballot into an invalid one. -/
theorem not_outcomeFixed :
    ¬ ∀ (md5 : Text → Text) (start : Tables) (ballotId : Uuid) (b : BallotRow)
      (first second : List Call), start.ballots.find ballotId = some b → b.state = .opened →
      (∀ made ∈ first ++ second, NotBefore b.closesAt made) →
      OutcomeFixed md5 start first second ballotId := by
  intro every
  have fixed := every id Sample.voted 1 Sample.ballot Sample.closes Sample.preparedLate
    (by decide +kernel) rfl (by decide)
  have first : Reports id Sample.voted Sample.closes 1 Sample.passed := by
    refine ⟨[], 10, [], rfl, ?_⟩
    decide +kernel
  have second : Reports id Sample.voted Sample.preparedLate 1 Sample.tooFew := by
    refine ⟨Sample.preparedLate.take 2, 12, [], rfl, ?_⟩
    decide +kernel
  have same := fixed.agree Sample.closes (by simp) Sample.preparedLate (by simp) _ _ first second
  exact absurd same.2 (by decide)

end Chlom.Ballot
