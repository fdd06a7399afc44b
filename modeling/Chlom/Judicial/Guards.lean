import Chlom.Ballot.Functions

/-!
# Judicial cases, their panels and decisions

A trigger judges every written panel member against its case and its membership, and
another judges every written decision against the panel of its case.  Cases and
memberships themselves are written under the constraints of their tables only.
-/

namespace Chlom.Judicial

open Assurance (Text text Timestamp Uuid SqlError)
open Ballot (Membership)
open Sql

/-! ## Rows -/

inductive RiskLevel where
  | D0 | D1 | D2 | D3
  deriving DecidableEq

def RiskLevel.name : RiskLevel → String
  | .D0 => "D0"
  | .D1 => "D1"
  | .D2 => "D2"
  | .D3 => "D3"

inductive PanelRole where
  | chiefJudge | judge | alternate
  deriving DecidableEq

inductive Disposition where
  | affirm | reverse | remand | stay | dismiss | interpret | invalidateInternalAction | modify
  deriving DecidableEq

structure JudicialCase where
  caseId : Uuid
  caseKey : Text
  appellantSubjectRef : Option Text
  respondentSubjectRef : Option Text
  riskLevel : RiskLevel
  deriving DecidableEq

structure PanelMember where
  caseId : Uuid
  judgeMembershipId : Uuid
  panelRole : PanelRole
  conflictDeclared : Bool
  recused : Bool
  deriving DecidableEq

def PanelMember.key (p : PanelMember) : Uuid × Uuid :=
  (p.caseId, p.judgeMembershipId)

/-- A decision, and whether its remedy is the empty object. -/
structure Decision where
  decisionId : Uuid
  decisionKey : Text
  caseId : Uuid
  disposition : Disposition
  remedyEmpty : Bool
  effectiveAt : Timestamp
  appealDeadline : Option Timestamp
  deriving DecidableEq

/-- The stored rows, and the references of the subjects of the workforce. -/
structure Tables where
  subjects : List Text
  cases : Table JudicialCase.caseId
  memberships : Table Membership.membershipId
  panel : Table PanelMember.key
  decisions : Table Decision.decisionId

def Tables.empty (subjects : List Text) : Tables :=
  ⟨subjects, .empty, .empty, .empty, .empty⟩

/-! ## Cases and memberships -/

def PartiesDiffer (c : JudicialCase) : Prop :=
  ∀ appellant ∈ c.appellantSubjectRef, ∀ respondent ∈ c.respondentSubjectRef,
    appellant ≠ respondent

instance (c : JudicialCase) : Decidable (PartiesDiffer c) := by
  unfold PartiesDiffer
  infer_instance

/-- The constraints of the case table. -/
def checkCase (c : JudicialCase) : Sql Tables Unit := do
  let t ← Dispatch.read id
  check (PartiesDiffer c) "penta_judicial_cases_check"
  unique (∀ other ∈ t.cases.rows, other.caseId ≠ c.caseId → other.caseKey ≠ c.caseKey) "case_key"
  references (∀ subject ∈ c.appellantSubjectRef, t.subjects.contains subject = true)
    "appellant_subject_ref"
  references (∀ subject ∈ c.respondentSubjectRef, t.subjects.contains subject = true)
    "respondent_subject_ref"

def insertCase (new : JudicialCase) : Sql Tables Unit := do
  let cases ← Dispatch.read Tables.cases
  unique (cases.find new.caseId = none) "case_id"
  checkCase new
  Dispatch.write fun t => { t with cases := t.cases.put new }

/-- Give the case of an identifier new columns. -/
def updateCase (new : JudicialCase) : Sql Tables Unit := do
  let cases ← Dispatch.read Tables.cases
  Dispatch.ifSome (cases.find new.caseId) fun _ => do
    checkCase new
    Dispatch.write fun t => { t with cases := t.cases.put new }

/-- The constraints of the membership table. -/
def checkMembership (m : Membership) : Sql Tables Unit := do
  let t ← Dispatch.read id
  check (∀ ends ∈ m.endsAt, m.startsAt < ends) "penta_governance_memberships_check"
  unique (∀ other ∈ t.memberships.rows, other.membershipId ≠ m.membershipId →
    other.membershipKey ≠ m.membershipKey) "membership_key"
  unique (∀ other ∈ t.memberships.rows, other.membershipId ≠ m.membershipId → ¬ m.Clashes other)
    "penta_governance_memberships_unique_active_scope"
  references (t.subjects.contains m.subjectRef = true) "subject_ref"

def insertMembership (new : Membership) : Sql Tables Unit := do
  let memberships ← Dispatch.read Tables.memberships
  unique (memberships.find new.membershipId = none) "membership_id"
  checkMembership new
  Dispatch.write fun t => { t with memberships := t.memberships.put new }

/-- Give the membership of an identifier new columns. -/
def updateMembership (new : Membership) : Sql Tables Unit := do
  let memberships ← Dispatch.read Tables.memberships
  Dispatch.ifSome (memberships.find new.membershipId) fun _ => do
    checkMembership new
    Dispatch.write fun t => { t with memberships := t.memberships.put new }

/-! ## Panels -/

/-- The guard of every written panel member. -/
def judicialPanelGuard (new : PanelMember) : Sql Tables Unit := do
  let t ← Dispatch.read id
  let c ← demand (t.cases.find new.caseId) "judicial case not found"
  let m ← demand ((t.memberships.find new.judgeMembershipId).filter fun m =>
    m.civicRole = .judge ∧ m.votingStatus = .eligible) "panel member is not an eligible judge"
  -- a missing party is compared as the empty text
  require (m.subjectRef ≠ c.appellantSubjectRef.getD [] ∧
    m.subjectRef ≠ c.respondentSubjectRef.getD []) "a party to a case cannot sit as judge"
  require (new.conflictDeclared = true → new.recused = true)
    "declared judicial conflict requires recusal"

def insertPanelMember (new : PanelMember) : Sql Tables Unit := do
  judicialPanelGuard new
  let panel ← Dispatch.read Tables.panel
  unique (panel.find new.key = none) "penta_judicial_panel_members_pkey"
  Dispatch.write fun t => { t with panel := t.panel.put new }

/-- Rewrite the panel member stored under a key, which the new row may move. -/
def updatePanelMember (key : Uuid × Uuid) (new : PanelMember) : Sql Tables Unit := do
  let panel ← Dispatch.read Tables.panel
  Dispatch.ifSome (panel.find key) fun _ => do
    judicialPanelGuard new
    unique (new.key = key ∨ panel.find new.key = none) "penta_judicial_panel_members_pkey"
    Dispatch.write fun t => { t with panel := (t.panel.erase key).put new }

/-! ## Decisions -/

/-- A panel member that decides its case. -/
def PanelMember.Sits (p : PanelMember) (caseId : Uuid) : Prop :=
  p.caseId = caseId ∧ (p.panelRole = .chiefJudge ∨ p.panelRole = .judge) ∧ p.recused = false

instance (p : PanelMember) (caseId : Uuid) : Decidable (p.Sits caseId) :=
  inferInstanceAs (Decidable (_ ∧ _ ∧ _))

def activeJudges (t : Tables) (caseId : Uuid) : Nat :=
  t.panel.count fun p => p.Sits caseId

def requiredJudges : RiskLevel → Nat
  | .D2 | .D3 => 3
  | .D0 | .D1 => 1

/-- The guard of every written decision. -/
def judicialDecisionGuard (new : Decision) : Sql Tables Unit := do
  let t ← Dispatch.read id
  let c ← demand (t.cases.find new.caseId) "judicial case not found"
  fitsInteger (activeJudges t new.caseId)
  require (requiredJudges c.riskLevel ≤ activeJudges t new.caseId)
    ("insufficient non-recused judicial panel for risk level " ++ c.riskLevel.name)
  require (¬ ((new.disposition = .reverse ∨ new.disposition = .invalidateInternalAction ∨
    new.disposition = .modify) ∧ new.remedyEmpty = true))
    "reversal/modification requires an explicit remedy"

/-- The constraints of the decision table, beside the row that a write replaces. -/
def checkDecision (replaced : Option Uuid) (new : Decision) : Sql Tables Unit := do
  let decisions ← Dispatch.read Tables.decisions
  check (∀ deadline ∈ new.appealDeadline, new.effectiveAt < deadline)
    "penta_judicial_decisions_check"
  unique (∀ other ∈ decisions.rows, some other.decisionId ≠ replaced →
    other.decisionId ≠ new.decisionId ∧ other.decisionKey ≠ new.decisionKey) "decision_key"

def insertDecision (new : Decision) : Sql Tables Unit := do
  judicialDecisionGuard new
  checkDecision none new
  Dispatch.write fun t => { t with decisions := t.decisions.put new }

/-- Rewrite the decision of an identifier, and tell whether there was one. -/
def updateDecision (decisionId : Uuid) (new : Decision) : Sql Tables Bool := do
  let decisions ← Dispatch.read Tables.decisions
  match decisions.find decisionId with
  | none => pure false
  | some _ => do
      judicialDecisionGuard new
      checkDecision (some decisionId) new
      Dispatch.write fun t => { t with decisions := (t.decisions.erase decisionId).put new }
      pure true

/-! ## Calls -/

inductive Call where
  | insertCase (new : JudicialCase)
  | updateCase (new : JudicialCase)
  | insertMembership (new : Membership)
  | updateMembership (new : Membership)
  | insertPanelMember (new : PanelMember)
  | updatePanelMember (key : Uuid × Uuid) (new : PanelMember)
  | insertDecision (new : Decision)
  | updateDecision (decisionId : Uuid) (new : Decision)

/-- Perform a call, and tell the case of the decision that it wrote, if any. -/
def perform : Call → Sql Tables (Option Uuid)
  | .insertCase new => (fun _ => none) <$> Judicial.insertCase new
  | .updateCase new => (fun _ => none) <$> Judicial.updateCase new
  | .insertMembership new => (fun _ => none) <$> Judicial.insertMembership new
  | .updateMembership new => (fun _ => none) <$> Judicial.updateMembership new
  | .insertPanelMember new => (fun _ => none) <$> Judicial.insertPanelMember new
  | .updatePanelMember key new => (fun _ => none) <$> Judicial.updatePanelMember key new
  | .insertDecision new => (fun _ => some new.caseId) <$> Judicial.insertDecision new
  | .updateDecision decisionId new =>
      (fun written => if written then some new.caseId else none) <$>
        Judicial.updateDecision decisionId new

/-- Make one call, whose exception undoes it. -/
def call (t : Tables) (made : Call) : Tables × Except SqlError (Option Uuid) :=
  statement (perform made) t

/-- The tables after a list of calls. -/
abbrev record (subjects : List Text) (calls : List Call) : Tables :=
  Runs.run call (.empty subjects) calls

end Chlom.Judicial
