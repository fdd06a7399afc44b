import Chlom.Judicial.Guards

/-!
# Who decides a judicial case

A panel member is no party to its case when it is written, and a decision finds enough
judges who are not recused.  In between, an update of the case can name the subject of
a sitting member, and an update of a membership can give a sitting member the subject
of a party.
-/

namespace Chlom.Judicial

open Assurance (Text text Timestamp Uuid SqlError)
open Ballot (Membership)
open Sql

/-! ## The property -/

/-- A subject is a party to a case. -/
def JudicialCase.Party (c : JudicialCase) (subject : Text) : Prop :=
  c.appellantSubjectRef = some subject ∨ c.respondentSubjectRef = some subject

/-- A case has enough judges, and no member of its panel is a party unless recused. -/
structure IndependentPanel (t : Tables) (caseId : Uuid) : Prop where
  quorum : ∃ c, t.cases.find caseId = some c ∧ requiredJudges c.riskLevel ≤ activeJudges t caseId
  impartial : ∀ p ∈ t.panel, p.caseId = caseId → p.recused = false →
    ∀ m, t.memberships.find p.judgeMembershipId = some m →
      ∀ c, t.cases.find caseId = some c → ¬ c.Party m.subjectRef

/-- A membership serves on the panel of a case without being recused. -/
def Serves (t : Tables) (caseId membershipId : Uuid) : Prop :=
  ∃ p, t.panel.find (caseId, membershipId) = some p ∧ p.recused = false

/-- A membership serves on the panel of a case to which its subject is a party. -/
def Conflicted (t : Tables) (caseId membershipId : Uuid) : Prop :=
  Serves t caseId membershipId ∧ ∃ c m, t.cases.find caseId = some c ∧
    t.memberships.find membershipId = some m ∧ c.Party m.subjectRef

/-- An update of a case or of a membership makes the subject of a serving member a
party to the case. -/
def Implicates (t : Tables) (caseId membershipId : Uuid) : Call → Prop
  | .updateCase new => new.caseId = caseId ∧ Serves t caseId membershipId ∧
      ∃ m, t.memberships.find membershipId = some m ∧ new.Party m.subjectRef
  | .updateMembership new => new.membershipId = membershipId ∧ Serves t caseId membershipId ∧
      ∃ c, t.cases.find caseId = some c ∧ c.Party new.subjectRef
  | _ => False

/-- After every update that makes a serving member a party, there is a time at which
the member is recused, gone, or no party any more. -/
def Resolved (subjects : List Text) (calls : List Call) (caseId : Uuid) : Prop :=
  ∀ before made after membershipId, calls = before ++ made :: after →
    Implicates (record subjects before) caseId membershipId made →
    ∃ later, later <+: after ∧
      ¬ Conflicted (record subjects (before ++ made :: later)) caseId membershipId

/-! ## What the functions do -/

/-- What the guard of a panel member asks for. -/
structure Seats (t : Tables) (new : PanelMember) : Prop where
  case_ : ∃ c, t.cases.find new.caseId = some c ∧
    ∀ m, t.memberships.find new.judgeMembershipId = some m →
      m.subjectRef ≠ c.appellantSubjectRef.getD [] ∧ m.subjectRef ≠ c.respondentSubjectRef.getD []
  judge : ∃ m, t.memberships.find new.judgeMembershipId = some m ∧ m.civicRole = .judge ∧
    m.votingStatus = .eligible
  conflict : new.conflictDeclared = true → new.recused = true

/-- What a successful call found, and what it left. -/
inductive Effect (t : Tables) : Call → Option Uuid → Tables → Prop
  | insertCase {new} (fresh : t.cases.find new.caseId = none) :
      Effect t (.insertCase new) none { t with cases := t.cases.put new }
  | updateCase {new stored} (found : t.cases.find new.caseId = some stored) :
      Effect t (.updateCase new) none { t with cases := t.cases.put new }
  | insertMembership {new} (fresh : t.memberships.find new.membershipId = none) :
      Effect t (.insertMembership new) none { t with memberships := t.memberships.put new }
  | updateMembership {new stored} (found : t.memberships.find new.membershipId = some stored) :
      Effect t (.updateMembership new) none { t with memberships := t.memberships.put new }
  | insertPanelMember {new} (seats : Seats t new) :
      Effect t (.insertPanelMember new) none { t with panel := t.panel.put new }
  | updatePanelMember {key new} (seats : Seats t new) :
      Effect t (.updatePanelMember key new) none { t with panel := (t.panel.erase key).put new }
  | decide {made c decisions} {decision : Decision} (found : t.cases.find decision.caseId = some c)
      (quorum : requiredJudges c.riskLevel ≤ activeJudges t decision.caseId) :
      Effect t made (some decision.caseId) { t with decisions := decisions }
  | nothing {made} : Effect t made none t

variable {t t' : Tables} {caseId membershipId : Uuid}

theorem checkCase_ok {c : JudicialCase} (ran : checkCase c t = .ok () t') : t' = t := by
  simp only [checkCase, Dispatch.read_bind, check, unique, references, Dispatch.ensure_bind_ok,
    Dispatch.ensure_ok] at ran
  exact ran.2.2.2.2

theorem checkMembership_ok {m : Membership} (ran : checkMembership m t = .ok () t') : t' = t := by
  simp only [checkMembership, Dispatch.read_bind, check, unique, references,
    Dispatch.ensure_bind_ok, Dispatch.ensure_ok] at ran
  exact ran.2.2.2.2

theorem judicialPanelGuard_ok {new : PanelMember} (ran : judicialPanelGuard new t = .ok () t') :
    Seats t new ∧ t' = t := by
  simp only [judicialPanelGuard, Dispatch.read_bind, demand, require, Dispatch.okOr_bind_ok,
    Dispatch.ensure_bind_ok, Dispatch.ensure_ok, Option.filter_eq_some_iff, id,
    decide_eq_true_eq] at ran
  obtain ⟨c, found, m, ⟨present, role, status⟩, apart, conflict, rfl⟩ := ran
  refine ⟨⟨⟨c, found, fun other same => ?_⟩, ⟨m, present, role, status⟩, conflict⟩, rfl⟩
  rw [present] at same
  cases same
  exact apart

theorem judicialDecisionGuard_ok {new : Decision} (ran : judicialDecisionGuard new t = .ok () t') :
    (∃ c, t.cases.find new.caseId = some c ∧
      requiredJudges c.riskLevel ≤ activeJudges t new.caseId) ∧ t' = t := by
  simp only [judicialDecisionGuard, Dispatch.read_bind, demand, require, fitsInteger,
    Dispatch.okOr_bind_ok, Dispatch.ensure_bind_ok, Dispatch.ensure_ok, id] at ran
  obtain ⟨c, found, _, quorum, _, rfl⟩ := ran
  exact ⟨⟨c, found, quorum⟩, rfl⟩

theorem checkDecision_ok {replaced : Option Uuid} {new : Decision}
    (ran : checkDecision replaced new t = .ok () t') : t' = t := by
  simp only [checkDecision, Dispatch.read_bind, check, unique, Dispatch.ensure_bind_ok,
    Dispatch.ensure_ok] at ran
  exact ran.2.2

theorem perform_effect {made : Call} {decided : Option Uuid}
    (ran : perform made t = .ok decided t') : Effect t made decided t' := by
  cases made with
  | insertCase new =>
      obtain ⟨_, done, rfl⟩ := Dispatch.map_ok.mp ran
      rw [insertCase, Dispatch.read_bind, unique, Dispatch.ensure_bind_ok,
        Dispatch.bind_unit_ok] at done
      obtain ⟨fresh, middle, checked, written⟩ := done
      obtain rfl := checkCase_ok checked
      cases written
      exact .insertCase fresh
  | updateCase new =>
      obtain ⟨_, done, rfl⟩ := Dispatch.map_ok.mp ran
      rw [updateCase, Dispatch.read_bind] at done
      cases found : t.cases.find new.caseId with
      | none =>
          rw [found] at done
          cases done
          exact .nothing
      | some stored =>
          rw [found, Dispatch.ifSome, Dispatch.bind_unit_ok] at done
          obtain ⟨middle, checked, written⟩ := done
          obtain rfl := checkCase_ok checked
          cases written
          exact .updateCase found
  | insertMembership new =>
      obtain ⟨_, done, rfl⟩ := Dispatch.map_ok.mp ran
      rw [insertMembership, Dispatch.read_bind, unique, Dispatch.ensure_bind_ok,
        Dispatch.bind_unit_ok] at done
      obtain ⟨fresh, middle, checked, written⟩ := done
      obtain rfl := checkMembership_ok checked
      cases written
      exact .insertMembership fresh
  | updateMembership new =>
      obtain ⟨_, done, rfl⟩ := Dispatch.map_ok.mp ran
      rw [updateMembership, Dispatch.read_bind] at done
      cases found : t.memberships.find new.membershipId with
      | none =>
          rw [found] at done
          cases done
          exact .nothing
      | some stored =>
          rw [found, Dispatch.ifSome, Dispatch.bind_unit_ok] at done
          obtain ⟨middle, checked, written⟩ := done
          obtain rfl := checkMembership_ok checked
          cases written
          exact .updateMembership found
  | insertPanelMember new =>
      obtain ⟨_, done, rfl⟩ := Dispatch.map_ok.mp ran
      rw [insertPanelMember, Dispatch.bind_unit_ok] at done
      obtain ⟨middle, guarded, done⟩ := done
      obtain ⟨seats, rfl⟩ := judicialPanelGuard_ok guarded
      rw [Dispatch.read_bind, unique, Dispatch.ensure_bind_ok] at done
      cases done.2
      exact .insertPanelMember seats
  | updatePanelMember key new =>
      obtain ⟨_, done, rfl⟩ := Dispatch.map_ok.mp ran
      rw [updatePanelMember, Dispatch.read_bind] at done
      cases found : t.panel.find key with
      | none =>
          rw [found] at done
          cases done
          exact .nothing
      | some stored =>
          rw [found, Dispatch.ifSome, Dispatch.bind_unit_ok] at done
          obtain ⟨middle, guarded, done⟩ := done
          obtain ⟨seats, rfl⟩ := judicialPanelGuard_ok guarded
          rw [unique, Dispatch.ensure_bind_ok] at done
          cases done.2
          exact .updatePanelMember seats
  | insertDecision new =>
      obtain ⟨_, done, rfl⟩ := Dispatch.map_ok.mp ran
      rw [insertDecision, Dispatch.bind_unit_ok] at done
      obtain ⟨middle, guarded, done⟩ := done
      obtain ⟨⟨c, found, quorum⟩, rfl⟩ := judicialDecisionGuard_ok guarded
      obtain ⟨middle, checked, written⟩ := Dispatch.bind_unit_ok.mp done
      obtain rfl := checkDecision_ok checked
      cases written
      exact .decide found quorum
  | updateDecision decisionId new =>
      obtain ⟨written, done, rfl⟩ := Dispatch.map_ok.mp ran
      rw [updateDecision, Dispatch.read_bind] at done
      cases present : t.decisions.find decisionId with
      | none =>
          rw [present] at done
          cases done
          exact .nothing
      | some stored =>
          rw [present] at done
          obtain ⟨middle, guarded, rest⟩ := Dispatch.bind_unit_ok.mp done
          obtain ⟨⟨c, found, quorum⟩, rfl⟩ := judicialDecisionGuard_ok guarded
          obtain ⟨after, checked, last⟩ := Dispatch.bind_unit_ok.mp rest
          obtain rfl := checkDecision_ok checked
          cases last
          exact .decide found quorum

theorem call_effect (t : Tables) (made : Call) : ∃ decided, Effect t made decided (call t made).1 := by
  cases ran : perform made t with
  | ok decided t' =>
      rw [call, statement_of_ok ran]
      exact ⟨decided, perform_effect ran⟩
  | error failure t' =>
      rw [call, statement_of_error ran]
      exact ⟨none, .nothing⟩

/-! ## How a panel gets a conflict -/

/-- Every panel member has its case and its membership. -/
def Grounded (t : Tables) : Prop :=
  ∀ p ∈ t.panel, (t.cases.find p.caseId).isSome ∧ (t.memberships.find p.judgeMembershipId).isSome

theorem Seats.grounded {new : PanelMember} (seats : Seats t new) :
    (t.cases.find new.caseId).isSome ∧ (t.memberships.find new.judgeMembershipId).isSome := by
  obtain ⟨⟨c, found, _⟩, ⟨m, present, _⟩, _⟩ := seats
  exact ⟨by rw [found]; rfl, by rw [present]; rfl⟩

theorem Grounded.effect {made : Call} {decided : Option Uuid} (grounded : Grounded t)
    (effect : Effect t made decided t') : Grounded t' := by
  intro p member
  cases effect with
  | insertCase | updateCase =>
      obtain ⟨case_, membership⟩ := grounded p member
      exact ⟨Table.isSome_find_put case_, membership⟩
  | insertMembership | updateMembership =>
      obtain ⟨case_, membership⟩ := grounded p member
      exact ⟨case_, Table.isSome_find_put membership⟩
  | insertPanelMember seats =>
      rcases Table.mem_put.mp member with rfl | ⟨earlier, _⟩
      · exact seats.grounded
      · exact grounded p earlier
  | updatePanelMember seats =>
      rcases Table.mem_put.mp member with rfl | ⟨earlier, _⟩
      · exact seats.grounded
      · exact grounded p (Table.mem_erase.mp earlier).1
  | decide | nothing => exact grounded p member

theorem Serves.mem (serves : Serves t caseId membershipId) : ∃ p ∈ t.panel,
    p.caseId = caseId ∧ p.judgeMembershipId = membershipId ∧ p.recused = false := by
  obtain ⟨p, found, active⟩ := serves
  obtain ⟨member, key⟩ := Table.find_eq_some.mp found
  obtain ⟨rfl, rfl⟩ := Prod.mk.inj key
  exact ⟨p, member, rfl, rfl, active⟩

/-- A newly seated member is no party to its case. -/
theorem Seats.not_conflicted {new : PanelMember} (seats : Seats t new) {c : JudicialCase}
    {m : Membership} (found : t.cases.find new.caseId = some c)
    (present : t.memberships.find new.judgeMembershipId = some m) : ¬ c.Party m.subjectRef := by
  obtain ⟨c', found', apart⟩ := seats.case_
  rw [found] at found'
  cases found'
  obtain ⟨appellant, respondent⟩ := apart m present
  rintro (party | party)
  · exact appellant (by rw [party]; rfl)
  · exact respondent (by rw [party]; rfl)

/-- Only updates of the case and of the membership bring a conflict about. -/
theorem Effect.conflicted {made : Call} {decided : Option Uuid} (effect : Effect t made decided t')
    (grounded : Grounded t) (conflicted : Conflicted t' caseId membershipId) :
    Conflicted t caseId membershipId ∨ Implicates t caseId membershipId made := by
  obtain ⟨serves, c, m, found, present, party⟩ := conflicted
  cases effect with
  | @insertCase new fresh =>
      by_cases same : new.caseId = caseId
      · -- a new case has no panel yet
        obtain ⟨p, member, rfl, _, _⟩ := serves.mem
        have known := (grounded p member).1
        rw [← same, fresh] at known
        cases known
      · rw [Table.find_put_of_ne same] at found
        exact .inl ⟨serves, c, m, found, present, party⟩
  | @updateCase new stored known =>
      by_cases same : new.caseId = caseId
      · subst same
        rw [Table.find_put_self] at found
        cases found
        exact .inr ⟨rfl, serves, m, present, party⟩
      · rw [Table.find_put_of_ne same] at found
        exact .inl ⟨serves, c, m, found, present, party⟩
  | @insertMembership new fresh =>
      by_cases same : new.membershipId = membershipId
      · obtain ⟨p, member, _, rfl, _⟩ := serves.mem
        have known := (grounded p member).2
        rw [← same, fresh] at known
        cases known
      · rw [Table.find_put_of_ne same] at present
        exact .inl ⟨serves, c, m, found, present, party⟩
  | @updateMembership new stored known =>
      by_cases same : new.membershipId = membershipId
      · subst same
        rw [Table.find_put_self] at present
        cases present
        exact .inr ⟨rfl, serves, c, found, party⟩
      · rw [Table.find_put_of_ne same] at present
        exact .inl ⟨serves, c, m, found, present, party⟩
  | @insertPanelMember new seats =>
      have apart : new.key ≠ (caseId, membershipId) := by
        intro same
        obtain ⟨rfl, rfl⟩ := Prod.mk.inj same
        exact seats.not_conflicted found present party
      obtain ⟨p, sits, active⟩ := serves
      rw [Table.find_put_of_ne apart] at sits
      exact .inl ⟨⟨p, sits, active⟩, c, m, found, present, party⟩
  | @updatePanelMember key new seats =>
      have apart : new.key ≠ (caseId, membershipId) := by
        intro same
        obtain ⟨rfl, rfl⟩ := Prod.mk.inj same
        exact seats.not_conflicted found present party
      obtain ⟨p, sits, active⟩ := serves
      rw [Table.find_put_of_ne apart] at sits
      obtain ⟨member, named⟩ := Table.find_eq_some.mp sits
      refine .inl ⟨⟨p, ?_, active⟩, c, m, found, present, party⟩
      exact Table.find_eq_some.mpr ⟨(Table.mem_erase.mp member).1, named⟩
  | decide => exact .inl ⟨serves, c, m, found, present, party⟩
  | nothing => exact .inl ⟨serves, c, m, found, present, party⟩

variable {subjects : List Text} {calls : List Call}

theorem grounded_record (subjects : List Text) (calls : List Call) :
    Grounded (record subjects calls) := by
  refine Runs.invariant_run Grounded (fun t made grounded => ?_) ?_ calls
  · obtain ⟨decided, effect⟩ := call_effect t made
    exact grounded.effect effect
  · exact fun p member => absurd member Table.not_mem_empty

/-- A conflict has lasted since an update that made a serving member a party. -/
theorem implicated (conflicted : Conflicted (record subjects calls) caseId membershipId) :
    ∃ before made after, calls = before ++ made :: after ∧
      Implicates (record subjects before) caseId membershipId made ∧
      ∀ later, later <+: after →
        Conflicted (record subjects (before ++ made :: later)) caseId membershipId := by
  induction calls using List.reverseRecOn with
  | nil =>
      obtain ⟨p, member, _⟩ := conflicted.1.mem
      exact absurd member Table.not_mem_empty
  | append_singleton calls made ih =>
      have last := conflicted
      rw [record, Runs.run_append] at last
      obtain ⟨decided, effect⟩ := call_effect (record subjects calls) made
      rcases effect.conflicted (grounded_record subjects calls) last with earlier | implicates
      · obtain ⟨before, cause, after, rfl, implicates, since⟩ := ih earlier
        refine ⟨before, cause, after ++ [made], by simp, implicates, fun later early => ?_⟩
        rcases List.prefix_concat_iff.mp early with rfl | early
        · simpa using conflicted
        · exact since later early
      · refine ⟨calls, made, [], rfl, implicates, fun later early => ?_⟩
        rw [List.prefix_nil.mp early]
        exact conflicted

theorem impartial_iff : (∀ membershipId, ¬ Conflicted t caseId membershipId) ↔
    ∀ p ∈ t.panel, p.caseId = caseId → p.recused = false →
      ∀ m, t.memberships.find p.judgeMembershipId = some m →
        ∀ c, t.cases.find caseId = some c → ¬ c.Party m.subjectRef := by
  constructor
  · rintro free p member rfl active m present c found party
    exact free p.judgeMembershipId
      ⟨⟨p, Table.find_eq_some.mpr ⟨member, rfl⟩, active⟩, c, m, found, present, party⟩
  · rintro every membershipId ⟨serves, c, m, found, present, party⟩
    obtain ⟨p, member, named, rfl, active⟩ := serves.mem
    exact every p member named active m present c found party

/-- An accepted decision comes from an independent panel exactly when every conflict
that an update brought about was resolved before it. -/
theorem independentPanel_iff_resolved {made : Call}
    (decided : (call (record subjects calls) made).2 = .ok (some caseId)) :
    IndependentPanel (record subjects calls) caseId ↔ Resolved subjects calls caseId := by
  have quorum : ∃ c, (record subjects calls).cases.find caseId = some c ∧
      requiredJudges c.riskLevel ≤ activeJudges (record subjects calls) caseId := by
    have effect := perform_effect (ok_of_statement decided)
    generalize (statement (perform made) (record subjects calls)).1 = t' at effect
    cases effect with
    | decide found quorum => exact ⟨_, found, quorum⟩
  constructor
  · rintro ⟨_, impartial⟩ before cause after membershipId rfl _
    exact ⟨after, List.prefix_rfl, impartial_iff.mpr impartial membershipId⟩
  · intro resolved
    refine ⟨quorum, impartial_iff.mp fun membershipId conflicted => ?_⟩
    obtain ⟨before, cause, after, whole, implicates, since⟩ := implicated conflicted
    obtain ⟨later, early, free⟩ := resolved before cause after membershipId whole implicates
    exact free (since later early)

/-! ## A judge who becomes a party -/

namespace Sample

def workforce : List Text := [text "judge", text "claimant"]

def membership : Membership where
  membershipId := 1
  membershipKey := text "bench"
  subjectRef := text "judge"
  constituencyKey := text "penta.constituency.workforce"
  branchKey := none
  civicRole := .judge
  votingStatus := .eligible
  startsAt := 0
  endsAt := none

def case_ : JudicialCase where
  caseId := 1
  caseKey := text "appeal"
  appellantSubjectRef := some (text "claimant")
  respondentSubjectRef := none
  riskLevel := .D1

/-- A judge sits on the panel of a case. -/
def seated : List Call :=
  [.insertMembership membership, .insertCase case_, .insertPanelMember ⟨1, 1, .judge, false, false⟩]

/-- The respondent is filled in with the judge. -/
def implicated : List Call :=
  seated ++ [.updateCase { case_ with respondentSubjectRef := some (text "judge") }]

/-- The respondent is taken out again. -/
def cleared : List Call :=
  implicated ++ [.updateCase case_]

def decision : Decision where
  decisionId := 1
  decisionKey := text "ruling"
  caseId := 1
  disposition := .affirm
  remedyEmpty := true
  effectiveAt := 0
  appealDeadline := none

end Sample

/-- When the judge is no longer the respondent, the panel of a decision is independent. -/
theorem cleared_resolved :
    IndependentPanel (record Sample.workforce Sample.cleared) 1 ↔
      Resolved Sample.workforce Sample.cleared 1 :=
  have decided : (call (record Sample.workforce Sample.cleared)
      (.insertDecision Sample.decision)).2 = .ok (some 1) := by
    decide
  independentPanel_iff_resolved decided

/-- A decision is accepted from a judge who is the respondent of the case. -/
theorem not_independentPanel :
    ¬ ∀ (subjects : List Text) (calls : List Call) (made : Call) (caseId : Uuid),
      (call (record subjects calls) made).2 = .ok (some caseId) →
        IndependentPanel (record subjects calls) caseId := by
  intro every
  have independent := every Sample.workforce Sample.implicated (.insertDecision Sample.decision) 1
    (by decide)
  have member : (⟨1, 1, .judge, false, false⟩ : PanelMember) ∈
      (record Sample.workforce Sample.implicated).panel := by
    refine Table.mem_of_find (k := (1, 1)) ?_
    decide
  have judge : (record Sample.workforce Sample.implicated).memberships.find 1 =
      some Sample.membership := by
    decide
  have found : (record Sample.workforce Sample.implicated).cases.find 1 =
      some { Sample.case_ with respondentSubjectRef := some (text "judge") } := by
    decide
  exact independent.impartial _ member rfl rfl _ judge _ found (.inr rfl)

end Chlom.Judicial
