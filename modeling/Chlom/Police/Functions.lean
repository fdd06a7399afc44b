import Mathlib.Data.List.MinMax
import Mathlib.Data.Prod.Lex
import Chlom.Library.Runs
import Chlom.Sql

/-!
# Policies, their ratification and their enforcement

A policy is proposed under a key and a version, and proposing it again rewrites the
stored proposal in place.  A decision of the governance is recorded and sets the state
of the proposal.  An enforcement looks for the newest enforceable proposal of a policy
and a subject, writes a receipt, and answers.  The clock, new identifiers and the order
in which rows of the same time are met are inputs of a call.
-/

namespace Chlom.Police

open Assurance (Text text Timestamp Uuid SqlError)
open Sql

/-- Times are compared by the computable order of the integers. -/
local instance timePreorder : Preorder Timestamp :=
  Int.instLinearOrder.toPreorder

/-! ## Rows -/

inductive RiskClass where
  | D0 | D1 | D2 | D3
  deriving DecidableEq

def RiskClass.text : RiskClass → Text
  | .D0 => Assurance.text "D0"
  | .D1 => Assurance.text "D1"
  | .D2 => Assurance.text "D2"
  | .D3 => Assurance.text "D3"

/-- The risk class that a text names, if any. -/
def RiskClass.ofText (value : Text) : Option RiskClass :=
  [.D0, .D1, .D2, .D3].find? fun risk : RiskClass => risk.text = value

inductive LifecycleState where
  | draft | proposed | testing | pendingRatification | ratified | rejected | enforced
  | superseded | revoked
  deriving DecidableEq

inductive RatificationDecision where
  | ratify | reject | returnForRevision
  deriving DecidableEq

def RatificationDecision.text : RatificationDecision → Text
  | .ratify => Assurance.text "ratify"
  | .reject => Assurance.text "reject"
  | .returnForRevision => Assurance.text "return_for_revision"

/-- The decision that a text names, if any. -/
def RatificationDecision.ofText (value : Text) : Option RatificationDecision :=
  [.ratify, .reject, .returnForRevision].find? fun decision : RatificationDecision =>
    decision.text = value

inductive EnforcementResult where
  | allow | deny | hold | quarantine | requireRatification
  deriving DecidableEq

structure Proposal where
  proposalId : Uuid
  policyKey : Text
  version : Text
  title : Text
  targetSubjectRef : Text
  targetPentas : Jsonb
  policyBody : Jsonb
  requestedRiskClass : RiskClass
  effectiveRiskClass : RiskClass
  lifecycleState : LifecycleState
  governanceRequired : Bool
  ratifiedAt : Option Timestamp
  ratificationRef : Option Text
  metadata : Jsonb
  createdAt : Timestamp
  updatedAt : Timestamp
  deriving DecidableEq

structure Ratification where
  ratificationId : Uuid
  proposalId : Uuid
  decision : RatificationDecision
  authorityRef : Text
  decisionBody : Jsonb
  decidedAt : Timestamp
  deriving DecidableEq

/-- What an enforcement is asked for again under. -/
@[ext]
structure ReceiptKey where
  correlationId : Text
  policyKey : Text
  targetSystem : Text
  enforcementAction : Text
  deriving DecidableEq

structure Receipt extends ReceiptKey where
  receiptId : Uuid
  proposalId : Uuid
  targetSubjectRef : Text
  enforcementResult : EnforcementResult
  riskClass : RiskClass
  authorityRef : Option Text
  evidence : Jsonb
  createdAt : Timestamp
  deriving DecidableEq

/-- The receipt with new evidence. -/
def Receipt.renew (stored : Receipt) (evidence : Jsonb) : Receipt :=
  { stored with evidence := evidence }

/-- The stored rows.  Ratifications stand in the order of their insertion. -/
structure Tables where
  proposals : Table Proposal.proposalId
  ratifications : Table Ratification.ratificationId
  receipts : Table Receipt.toReceiptKey

def Tables.empty : Tables :=
  ⟨.empty, .empty, .empty⟩

/-! ## Proposing -/

/-- The arguments of a proposal, any of which may be null, and the identifier that a
new row gets. -/
structure Propose where
  proposalId : Uuid
  now : Timestamp
  policyKey : Option Text
  version : Option Text
  title : Option Text
  targetSubjectRef : Option Text
  targetPentas : Option Jsonb
  policyBody : Option Jsonb
  requestedRiskClass : Option Text
  operatingMode : Option Text
  metadata : Option Jsonb

/-- The operating mode is one of some names. -/
def modeIn (mode : Option Text) (names : List String) : Bool :=
  mode.any fun given => names.any fun name => decide (text name = given)

/-- The class in force where live authority is not exercised. -/
def boundedRisk (requested : RiskClass) (mode : Option Text) : RiskClass :=
  if modeIn mode ["development", "testing", "certification"] = true ∧ requested = .D3 then .D2
  else requested

def policyEffectiveRisk (requested mode : Option Text) : Sql Tables (Option RiskClass) :=
  match requested with
  | none => pure none
  | some value => do
      let risk ← demand (RiskClass.ofText value) "invalid_risk_class"
      pure (some (boundedRisk risk mode))

/-- The state of a proposal that was just written. -/
def proposedState (effective : RiskClass) (mode : Option Text) : LifecycleState :=
  if effective = .D3 then .pendingRatification
  else if modeIn mode ["testing", "certification"] = true then .testing
  else .proposed

/-- The columns that proposing a stored proposal again overwrites. -/
def Proposal.rewrite (stored new : Proposal) : Proposal :=
  { stored with
    title := new.title
    targetSubjectRef := new.targetSubjectRef
    targetPentas := new.targetPentas
    policyBody := new.policyBody
    requestedRiskClass := new.requestedRiskClass
    effectiveRiskClass := new.effectiveRiskClass
    lifecycleState := new.lifecycleState
    governanceRequired := new.governanceRequired
    metadata := new.metadata
    updatedAt := new.updatedAt }

/-- Insert a proposal, or rewrite the one of the same policy and version. -/
def upsertProposal (new : Proposal) : Sql Tables Uuid := do
  let proposals ← Dispatch.read Tables.proposals
  match proposals.rows.find? fun p => p.policyKey = new.policyKey ∧ p.version = new.version with
  | some stored => do
      Dispatch.write fun t => { t with proposals := t.proposals.put (stored.rewrite new) }
      pure stored.proposalId
  | none => do
      unique (proposals.find new.proposalId = none) "proposal_id"
      Dispatch.write fun t => { t with proposals := t.proposals.put new }
      pure new.proposalId

def policyPropose (args : Propose) : Sql Tables Uuid := do
  let effective ← policyEffectiveRisk args.requestedRiskClass args.operatingMode
  let policyKey ← notNull args.policyKey "policy_key"
  let version ← notNull args.version "version"
  let title ← notNull args.title "title"
  let targetSubjectRef ← notNull args.targetSubjectRef "target_subject_ref"
  let policyBody ← notNull args.policyBody "policy_body"
  let requested ← notNull (args.requestedRiskClass.bind RiskClass.ofText) "requested_risk_class"
  let effective ← notNull effective "effective_risk_class"
  upsertProposal
    { proposalId := args.proposalId
      policyKey
      version
      title
      targetSubjectRef
      targetPentas := args.targetPentas.getD (text "[]")
      policyBody
      requestedRiskClass := requested
      effectiveRiskClass := effective
      lifecycleState := proposedState effective args.operatingMode
      governanceRequired := decide (effective = .D3)
      ratifiedAt := none
      ratificationRef := none
      metadata := args.metadata.getD (text "\x7b\x7d")
      createdAt := args.now
      updatedAt := args.now }

/-! ## Ratifying -/

/-- The arguments of a decision, any of which may be null. -/
structure Ratify where
  ratificationId : Uuid
  now : Timestamp
  proposalId : Option Uuid
  decision : Option Text
  authorityRef : Option Text
  decisionBody : Option Jsonb

structure Ratified where
  proposalId : Uuid
  decision : RatificationDecision
  state : LifecycleState
  deriving DecidableEq

def decidedState : RatificationDecision → LifecycleState
  | .ratify => .ratified
  | .reject => .rejected
  | .returnForRevision => .proposed

/-- The columns of a proposal after a decision on it. -/
def Proposal.decide (v : Proposal) (decision : RatificationDecision) (authorityRef : Text)
    (now : Timestamp) : Proposal :=
  { v with
    lifecycleState := decidedState decision
    ratifiedAt := if decision = .ratify then some now else v.ratifiedAt
    ratificationRef := if decision = .ratify then some authorityRef else v.ratificationRef
    updatedAt := now }

def governanceRatifyPolicy (args : Ratify) : Sql Tables Ratified := do
  let t ← Dispatch.read id
  let v ← demand (args.proposalId.bind t.proposals.find) "policy_proposal_not_found"
  require (v.effectiveRiskClass = .D3 ∧ v.governanceRequired = true)
    "ratification_not_required_for_non_d3"
  let decision ← notNull args.decision "decision"
  let authorityRef ← notNull args.authorityRef "authority_ref"
  let decision ← Dispatch.okOr (RatificationDecision.ofText decision)
    (.checkViolation "penta_policy_ratifications_decision_check")
  unique (t.ratifications.find args.ratificationId = none) "ratification_id"
  unique (∀ r ∈ t.ratifications.rows,
    ¬ (r.proposalId = v.proposalId ∧ r.decision = decision ∧ r.authorityRef = authorityRef))
    "penta_policy_ratifications_proposal_id_decision_authority_ref_key"
  let decided := v.decide decision authorityRef args.now
  Dispatch.write fun t =>
    { t with
      ratifications := t.ratifications.put
        { ratificationId := args.ratificationId
          proposalId := v.proposalId
          decision
          authorityRef
          decisionBody := args.decisionBody.getD (text "\x7b\x7d")
          decidedAt := args.now }
      proposals := t.proposals.put decided }
  pure ⟨v.proposalId, decision, decided.lifecycleState⟩

/-! ## Enforcing -/

/-- The arguments of an enforcement, any of which may be null, and the order in which
it meets proposals of the same time. -/
structure Enforce where
  receiptId : Uuid
  now : Timestamp
  met : Uuid → Int
  policyKey : Option Text
  targetSubjectRef : Option Text
  targetSystem : Option Text
  enforcementAction : Option Text
  correlationId : Option Text
  evidence : Option Jsonb

/-- The proposal may be enforced. -/
def Proposal.Enforceable (p : Proposal) : Prop :=
  p.lifecycleState = .testing ∨ p.lifecycleState = .ratified ∨ p.lifecycleState = .enforced

instance (p : Proposal) : Decidable p.Enforceable :=
  inferInstanceAs (Decidable (_ ∨ _ ∨ _))

/-- The enforceable proposals of a policy and a subject. -/
def enforceable (t : Tables) (args : Enforce) : List Proposal :=
  t.proposals.rows.filter fun p =>
    some p.policyKey = args.policyKey ∧ some p.targetSubjectRef = args.targetSubjectRef ∧
      p.Enforceable

/-- The newest of them. -/
def selected (t : Tables) (args : Enforce) : Option Proposal :=
  (enforceable t args).argmax fun p => toLex (p.createdAt, args.met p.proposalId)

def Proposal.enforcementResult (v : Proposal) : EnforcementResult :=
  if v.effectiveRiskClass = .D3 ∧ ¬ (v.lifecycleState = .ratified ∨ v.lifecycleState = .enforced)
  then .requireRatification
  else .allow

def Proposal.authority (v : Proposal) : Option Text :=
  if v.effectiveRiskClass = .D3 then v.ratificationRef
  else some (text "PentaPolicy:D2-bounded-authority")

inductive Verdict where
  | noEnforceablePolicy
  | decided (result : EnforcementResult) (riskClass : RiskClass) (authorityRef : Option Text)
  deriving DecidableEq

/-- The result that an answer shows. -/
def Verdict.result : Verdict → EnforcementResult
  | .noEnforceablePolicy => .deny
  | .decided result _ _ => result

structure Enforcement where
  policyKey : Option Text
  targetSubjectRef : Option Text
  targetSystem : Option Text
  verdict : Verdict
  deriving DecidableEq

/-- Insert a receipt, or renew the evidence of the one under its key. -/
def upsertReceipt (new : Receipt) : Sql Tables Unit := do
  let receipts ← Dispatch.read Tables.receipts
  match receipts.find new.toReceiptKey with
  | some stored =>
      Dispatch.write fun t =>
        { t with receipts := t.receipts.put (stored.renew new.evidence) }
  | none => do
      unique (∀ r ∈ receipts.rows, r.receiptId ≠ new.receiptId) "receipt_id"
      Dispatch.write fun t => { t with receipts := t.receipts.put new }

def policeEnforce (args : Enforce) : Sql Tables Enforcement := do
  let t ← Dispatch.read id
  match selected t args with
  | none => pure ⟨args.policyKey, args.targetSubjectRef, args.targetSystem, .noEnforceablePolicy⟩
  | some v => do
      let targetSystem ← notNull args.targetSystem "target_system"
      let enforcementAction ← notNull args.enforcementAction "enforcement_action"
      let correlationId ← notNull args.correlationId "correlation_id"
      -- the query matched the policy and the subject of the arguments
      upsertReceipt
        { correlationId
          policyKey := v.policyKey
          targetSystem
          enforcementAction
          receiptId := args.receiptId
          proposalId := v.proposalId
          targetSubjectRef := v.targetSubjectRef
          enforcementResult := v.enforcementResult
          riskClass := v.effectiveRiskClass
          authorityRef := v.authority
          evidence := args.evidence.getD (text "[]")
          createdAt := args.now }
      pure ⟨args.policyKey, args.targetSubjectRef, args.targetSystem,
        .decided v.enforcementResult v.effectiveRiskClass v.authority⟩

/-! ## Calls -/

inductive Call where
  | propose (args : Propose)
  | ratify (args : Ratify)
  | enforce (args : Enforce)

inductive Answer where
  | proposed (proposalId : Uuid)
  | ratified (answer : Ratified)
  | enforced (answer : Enforcement)
  deriving DecidableEq

def perform : Call → Sql Tables Answer
  | .propose args => Answer.proposed <$> policyPropose args
  | .ratify args => Answer.ratified <$> governanceRatifyPolicy args
  | .enforce args => Answer.enforced <$> policeEnforce args

/-- Make one call, whose exception undoes it. -/
def call (t : Tables) (made : Call) : Tables × Except SqlError Answer :=
  statement (perform made) t

/-- The tables after a list of calls, starting from empty ones. -/
abbrev record (calls : List Call) : Tables :=
  Runs.run call .empty calls

end Chlom.Police
