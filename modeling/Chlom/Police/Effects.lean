import Chlom.Police.Functions

/-!
# What the policy functions do

One lemma for each function tells what a successful call found and what it left behind.
-/

namespace Chlom.Police

open Assurance (Text text Timestamp Uuid SqlError)
open Sql

/-- The row that the arguments of a proposal describe. -/
structure Describes (args : Propose) (new : Proposal) : Prop where
  policyKey : args.policyKey = some new.policyKey
  version : args.version = some new.version
  state : new.lifecycleState = proposedState new.effectiveRiskClass args.operatingMode

/-- Two proposals of one policy and version. -/
def SameVersion (p q : Proposal) : Prop :=
  p.policyKey = q.policyKey ∧ p.version = q.version

/-- The key under which an enforcement stores its receipt. -/
structure Names (args : Enforce) (key : ReceiptKey) : Prop where
  correlationId : args.correlationId = some key.correlationId
  policyKey : args.policyKey = some key.policyKey
  targetSystem : args.targetSystem = some key.targetSystem
  enforcementAction : args.enforcementAction = some key.enforcementAction

/-- A receipt shows the decision that the enforcement of a proposal gives. -/
structure Shows (r : Receipt) (v : Proposal) : Prop where
  proposalId : r.proposalId = v.proposalId
  targetSubjectRef : r.targetSubjectRef = v.targetSubjectRef
  enforcementResult : r.enforcementResult = v.enforcementResult
  riskClass : r.riskClass = v.effectiveRiskClass
  authorityRef : r.authorityRef = v.authority

/-- The answer of an enforcement. -/
def answerOf (args : Enforce) (verdict : Verdict) : Answer :=
  .enforced ⟨args.policyKey, args.targetSubjectRef, args.targetSystem, verdict⟩

def Proposal.verdict (v : Proposal) : Verdict :=
  .decided v.enforcementResult v.effectiveRiskClass v.authority

/-- What a successful call found, and what it left. -/
inductive Effect (t : Tables) : Call → Answer → Tables → Prop
  | inserted {args new} (describes : Describes args new)
      (fresh : ∀ p ∈ t.proposals, ¬ SameVersion p new)
      (unused : t.proposals.find new.proposalId = none) :
      Effect t (.propose args) (.proposed new.proposalId)
        { t with proposals := t.proposals.put new }
  | rewritten {args new stored} (describes : Describes args new) (found : stored ∈ t.proposals)
      (same : SameVersion stored new) :
      Effect t (.propose args) (.proposed stored.proposalId)
        { t with proposals := t.proposals.put (stored.rewrite new) }
  | ratified {args v} {row : Ratification} (found : t.proposals.find row.proposalId = some v)
      (proposal : args.proposalId = some row.proposalId)
      (decision : args.decision = some row.decision.text)
      (authority : args.authorityRef = some row.authorityRef)
      (unused : t.ratifications.find row.ratificationId = none) :
      Effect t (.ratify args) (.ratified ⟨row.proposalId, row.decision, decidedState row.decision⟩)
        { t with
          ratifications := t.ratifications.put row
          proposals := t.proposals.put (v.decide row.decision row.authorityRef args.now) }
  | denied {args} (none_ : selected t args = none) :
      Effect t (.enforce args) (answerOf args .noEnforceablePolicy) t
  | issued {args v} {receipt : Receipt} (chosen : selected t args = some v)
      (names : Names args receipt.toReceiptKey) (shows_ : Shows receipt v)
      (fresh : t.receipts.find receipt.toReceiptKey = none) :
      Effect t (.enforce args) (answerOf args v.verdict)
        { t with receipts := t.receipts.put receipt }
  | renewed {args v} {stored : Receipt} {evidence : Jsonb} (chosen : selected t args = some v)
      (names : Names args stored.toReceiptKey) (found : stored ∈ t.receipts) :
      Effect t (.enforce args) (answerOf args v.verdict)
        { t with receipts := t.receipts.put (stored.renew evidence) }

variable {t t' : Tables}

/-! ## Proposing -/

theorem upsertProposal_ok {new : Proposal} {proposalId : Uuid}
    (ran : upsertProposal new t = .ok proposalId t') :
    (∃ stored ∈ t.proposals, SameVersion stored new ∧ proposalId = stored.proposalId ∧
        t' = { t with proposals := t.proposals.put (stored.rewrite new) }) ∨
      (∀ p ∈ t.proposals, ¬ SameVersion p new) ∧ t.proposals.find new.proposalId = none ∧
        proposalId = new.proposalId ∧ t' = { t with proposals := t.proposals.put new } := by
  rw [upsertProposal, Dispatch.read_bind] at ran
  cases found : t.proposals.rows.find? fun p =>
      p.policyKey = new.policyKey ∧ p.version = new.version with
  | some stored =>
      rw [found] at ran
      cases ran
      have same : SameVersion stored new := by
        simpa [SameVersion] using List.find?_some found
      exact .inl ⟨stored, List.mem_of_find?_eq_some found, same, rfl, rfl⟩
  | none =>
      rw [found] at ran
      simp only [unique, Dispatch.ensure_bind_ok] at ran
      obtain ⟨unused, ran⟩ := ran
      cases ran
      have fresh : ∀ p ∈ t.proposals, ¬ SameVersion p new := by
        simpa [SameVersion, Table.mem_rows] using found
      exact .inr ⟨fresh, unused, rfl, rfl⟩

theorem policyEffectiveRisk_ok {requested mode : Option Text} {risk : Option RiskClass}
    (ran : policyEffectiveRisk requested mode t = .ok risk t') : t' = t := by
  cases requested with
  | none =>
      cases ran
      rfl
  | some value =>
      rw [policyEffectiveRisk, demand, Dispatch.okOr_bind_ok] at ran
      obtain ⟨found, _, ran⟩ := ran
      cases ran
      rfl

theorem policyPropose_ok {args : Propose} {proposalId : Uuid}
    (ran : policyPropose args t = .ok proposalId t') :
    Effect t (.propose args) (.proposed proposalId) t' := by
  rw [policyPropose, Dispatch.bind_ok] at ran
  obtain ⟨effective, middle, risk, ran⟩ := ran
  obtain rfl := policyEffectiveRisk_ok risk
  simp only [notNull, Dispatch.okOr_bind_ok] at ran
  obtain ⟨policyKey, keyed, version, versioned, _, _, _, _, _, _, _, _, risk, rfl, ran⟩ := ran
  rcases upsertProposal_ok ran with ⟨stored, found, same, rfl, rfl⟩ | ⟨fresh, unused, rfl, rfl⟩
  · exact .rewritten ⟨keyed, versioned, rfl⟩ found same
  · exact .inserted ⟨keyed, versioned, rfl⟩ fresh unused

/-! ## Ratifying -/

theorem RatificationDecision.text_of_ofText {value : Text} {decision : RatificationDecision}
    (named : RatificationDecision.ofText value = some decision) : decision.text = value := by
  simpa using List.find?_some named

theorem governanceRatifyPolicy_ok {args : Ratify} {answer : Ratified}
    (ran : governanceRatifyPolicy args t = .ok answer t') :
    Effect t (.ratify args) (.ratified answer) t' := by
  simp only [governanceRatifyPolicy, Dispatch.read_bind, demand, require, notNull, unique,
    Dispatch.okOr_bind_ok, Dispatch.ensure_bind_ok, Dispatch.write_bind, id,
    Option.bind_eq_some_iff] at ran
  obtain ⟨v, ⟨proposalId, proposal, found⟩, _, value, decided, authorityRef, authority, decision,
    named, unused, _, ran⟩ := ran
  cases ran
  obtain rfl := RatificationDecision.text_of_ofText named
  obtain rfl := Table.key_of_find found
  exact @Effect.ratified _ _ _ ⟨args.ratificationId, v.proposalId, decision, authorityRef, _, _⟩
    found proposal decided authority unused

/-! ## Enforcing -/

/-- The selected proposal is an enforceable one of the policy and the subject. -/
theorem selected_spec {args : Enforce} {v : Proposal} (chosen : selected t args = some v) :
    v ∈ t.proposals ∧ some v.policyKey = args.policyKey ∧
      some v.targetSubjectRef = args.targetSubjectRef ∧ v.Enforceable := by
  have member : v ∈ enforceable t args := List.argmax_mem chosen
  obtain ⟨stored, matching⟩ := List.mem_filter.mp member
  exact ⟨stored, of_decide_eq_true matching⟩

theorem upsertReceipt_ok {new : Receipt} (ran : upsertReceipt new t = .ok () t') :
    (∃ stored ∈ t.receipts, stored.toReceiptKey = new.toReceiptKey ∧
        t' = { t with receipts := t.receipts.put (stored.renew new.evidence) }) ∨
      t.receipts.find new.toReceiptKey = none ∧
        t' = { t with receipts := t.receipts.put new } := by
  rw [upsertReceipt, Dispatch.read_bind] at ran
  cases found : t.receipts.find new.toReceiptKey with
  | some stored =>
      rw [found] at ran
      cases ran
      exact .inl ⟨stored, Table.mem_of_find found, Table.key_of_find found, rfl⟩
  | none =>
      rw [found] at ran
      simp only [unique, Dispatch.ensure_bind_ok] at ran
      obtain ⟨_, ran⟩ := ran
      cases ran
      exact .inr ⟨rfl, rfl⟩

theorem policeEnforce_ok {args : Enforce} {answer : Enforcement}
    (ran : policeEnforce args t = .ok answer t') :
    Effect t (.enforce args) (.enforced answer) t' := by
  rw [policeEnforce, Dispatch.read_bind] at ran
  cases chosen : selected t args with
  | none =>
      simp only [id, chosen] at ran
      cases ran
      exact .denied chosen
  | some v =>
      simp only [id, chosen, notNull, Dispatch.okOr_bind_ok, Dispatch.bind_unit_ok] at ran
      obtain ⟨targetSystem, system, action, acted, correlationId, correlated, middle, ran,
        answered⟩ := ran
      cases answered
      obtain ⟨_, policyKey, _⟩ := selected_spec chosen
      rcases upsertReceipt_ok ran with ⟨stored, found, same, rfl⟩ | ⟨fresh, rfl⟩
      · have names : Names args stored.toReceiptKey := by
          rw [same]
          exact ⟨correlated, policyKey.symm, system, acted⟩
        exact .renewed chosen names found
      · exact .issued chosen ⟨correlated, policyKey.symm, system, acted⟩
          ⟨rfl, rfl, rfl, rfl, rfl⟩ fresh

/-! ## Calls -/

variable {made : Call} {answer : Answer}

theorem perform_effect (ran : perform made t = .ok answer t') : Effect t made answer t' := by
  cases made with
  | propose args =>
      obtain ⟨proposalId, done, rfl⟩ := Dispatch.map_ok.mp ran
      exact policyPropose_ok done
  | ratify args =>
      obtain ⟨answer, done, rfl⟩ := Dispatch.map_ok.mp ran
      exact governanceRatifyPolicy_ok done
  | enforce args =>
      obtain ⟨answer, done, rfl⟩ := Dispatch.map_ok.mp ran
      exact policeEnforce_ok done

/-- A call that answers has its effect. -/
theorem effect_of_answered (answered : (call t made).2 = .ok answer) :
    Effect t made answer (call t made).1 :=
  perform_effect (ok_of_statement answered)

/-- A call either answers and has its effect or is refused and leaves the tables alone. -/
theorem call_effect (t : Tables) (made : Call) :
    (∃ answer, (call t made).2 = .ok answer ∧ Effect t made answer (call t made).1) ∨
      (∀ answer, (call t made).2 ≠ .ok answer) ∧ (call t made).1 = t := by
  cases ran : perform made t with
  | ok answer t' =>
      rw [call, statement_of_ok ran]
      exact .inl ⟨answer, rfl, perform_effect ran⟩
  | error failure t' =>
      rw [call, statement_of_error ran]
      exact .inr ⟨nofun, rfl⟩

end Chlom.Police
