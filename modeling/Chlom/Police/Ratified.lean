import Chlom.Police.Effects

/-!
# A policy is enforced as it was ratified

Proposing a policy again takes its stored proposal out of the ratified state, whatever
the columns of an earlier ratification still say.  A ratified proposal was therefore
last touched by the decision that ratified it.
-/

namespace Chlom.Police

open Assurance (Text text Timestamp Uuid SqlError)
open Sql

/-! ## The property -/

/-- A call answers when it is made after some others. -/
def Accepted (before : List Call) (made : Call) : Prop :=
  ∃ answer, (call (record before) made).2 = .ok answer

/-- A call is about the policy and version of a proposal, or decides on it. -/
def Touches (p : Proposal) : Call → Prop
  | .propose args => args.policyKey = some p.policyKey ∧ args.version = some p.version
  | .ratify args => args.proposalId = some p.proposalId
  | .enforce _ => False

/-- Two rows of a proposal have the same content. -/
structure SamePolicy (p q : Proposal) : Prop where
  policyKey : p.policyKey = q.policyKey
  version : p.version = q.version
  policyBody : p.policyBody = q.policyBody
  targetSubjectRef : p.targetSubjectRef = q.targetSubjectRef
  targetPentas : p.targetPentas = q.targetPentas
  requestedRiskClass : p.requestedRiskClass = q.requestedRiskClass
  effectiveRiskClass : p.effectiveRiskClass = q.effectiveRiskClass

/-- A decision of an authority ratified a proposal as it still is, and no later call
touched it. -/
structure RatifiedAt (before : List Call) (args : Ratify) (after : List Call) (p : Proposal)
    (authority : Text) : Prop where
  proposal : args.proposalId = some p.proposalId
  decision : args.decision = some (text "ratify")
  authorityRef : args.authorityRef = some authority
  accepted : Accepted before (.ratify args)
  stood : ∃ q, (record before).proposals.find p.proposalId = some q ∧ SamePolicy q p
  untouched : ∀ middle later, middle ++ [later] <+: after →
    Accepted (before ++ .ratify args :: middle) later → ¬ Touches p later

/-- The decision on a proposal that was recorded last. -/
def latestDecision (t : Tables) (proposalId : Uuid) : Option Ratification :=
  (t.ratifications.rows.filter fun r => r.proposalId = proposalId).getLast?

/-- An authority ratified a proposal, and the proposal still is what it ratified. -/
structure StandsRatified (calls : List Call) (p : Proposal) (authority : Text) : Prop where
  latest : ∃ r, latestDecision (record calls) p.proposalId = some r ∧ r.decision = .ratify ∧
    r.authorityRef = authority
  ratified : ∃ before args after, calls = before ++ .ratify args :: after ∧
    RatifiedAt before args after p authority

/-- An enforcement selects a proposal that stands ratified, and names the authority. -/
def EnforcedAsRatified (calls : List Call) (args : Enforce) (authorityRef : Option Text) : Prop :=
  ∃ v authority, selected (record calls) args = some v ∧ authorityRef = some authority ∧
    StandsRatified calls v authority

/-! ## The stored proposals -/

/-- No two proposals share policy and version, and one of the highest class waits for
its ratification. -/
structure Governed (t : Tables) : Prop where
  versions : ∀ p ∈ t.proposals, ∀ q ∈ t.proposals, SameVersion p q → p.proposalId = q.proposalId
  pending : ∀ p ∈ t.proposals, p.effectiveRiskClass = .D3 → p.lifecycleState ≠ .testing
  reached : ∀ p ∈ t.proposals, p.lifecycleState ≠ .enforced

variable {t t' : Tables} {made : Call} {answer : Answer} {p v : Proposal}

theorem decidedState_ne (decision : RatificationDecision) :
    decidedState decision ≠ .testing ∧ decidedState decision ≠ .enforced := by
  cases decision <;> decide

theorem ratify_of_decidedState {decision : RatificationDecision}
    (state : decidedState decision = .ratified) : decision = .ratify := by
  cases decision with
  | ratify => rfl
  | reject => cases state
  | returnForRevision => cases state

theorem proposedState_ne (effective : RiskClass) (mode : Option Text) :
    proposedState effective mode ≠ .ratified ∧ proposedState effective mode ≠ .enforced ∧
      (effective = .D3 → proposedState effective mode ≠ .testing) := by
  unfold proposedState
  split
  · simp
  · next bounded => split <;> simp [bounded]

/-- Writing a row that takes no other row's version keeps the versions apart. -/
theorem Governed.put (governed : Governed t) {new : Proposal}
    (apart : ∀ p ∈ t.proposals, SameVersion p new → p.proposalId = new.proposalId)
    (pending : new.effectiveRiskClass = .D3 → new.lifecycleState ≠ .testing)
    (reached : new.lifecycleState ≠ .enforced) :
    Governed { t with proposals := t.proposals.put new } where
  versions := by
    intro p pMem q qMem same
    rcases Table.mem_put.mp pMem with rfl | ⟨pStored, _⟩
    · rcases Table.mem_put.mp qMem with rfl | ⟨qStored, _⟩
      · rfl
      · exact (apart q qStored ⟨same.1.symm, same.2.symm⟩).symm
    · rcases Table.mem_put.mp qMem with rfl | ⟨qStored, _⟩
      · exact apart p pStored same
      · exact governed.versions p pStored q qStored same
  pending := by
    intro p member
    rcases Table.mem_put.mp member with rfl | ⟨stored, _⟩
    · exact pending
    · exact governed.pending p stored
  reached := by
    intro p member
    rcases Table.mem_put.mp member with rfl | ⟨stored, _⟩
    · exact reached
    · exact governed.reached p stored

theorem Effect.governed (effect : Effect t made answer t') (governed : Governed t) :
    Governed t' := by
  cases effect with
  | @inserted args new describes fresh unused =>
      obtain ⟨_, reached, pending⟩ := proposedState_ne new.effectiveRiskClass args.operatingMode
      rw [← describes.state] at reached pending
      exact governed.put (fun p member same => absurd same (fresh p member)) pending reached
  | @rewritten args new stored describes found same =>
      obtain ⟨_, reached, pending⟩ := proposedState_ne new.effectiveRiskClass args.operatingMode
      rw [← describes.state] at reached pending
      exact governed.put (governed.versions · · stored found) pending reached
  | @ratified args v row found proposal decision authority unused =>
      obtain ⟨pending, reached⟩ := decidedState_ne row.decision
      have stored := Table.mem_of_find found
      obtain ⟨versions, below, ended⟩ :=
        governed.put
          (show ∀ p ∈ t.proposals, SameVersion p (v.decide row.decision row.authorityRef args.now) →
            p.proposalId = v.proposalId from (governed.versions · · v stored))
          (fun _ => pending) reached
      exact ⟨versions, below, ended⟩
  | denied => exact governed
  | issued =>
      obtain ⟨versions, pending, reached⟩ := governed
      exact ⟨versions, pending, reached⟩
  | renewed =>
      obtain ⟨versions, pending, reached⟩ := governed
      exact ⟨versions, pending, reached⟩

theorem governed_empty : Governed .empty where
  versions _ member := absurd member Table.not_mem_empty
  pending _ member := absurd member Table.not_mem_empty
  reached _ member := absurd member Table.not_mem_empty

theorem governed_record (calls : List Call) : Governed (record calls) := by
  refine Runs.invariant_run Governed (fun t made governed => ?_) governed_empty calls
  rcases call_effect t made with ⟨answer, _, effect⟩ | ⟨_, unchanged⟩
  · exact effect.governed governed
  · rw [unchanged]
    exact governed

/-- An enforceable proposal of the highest class is ratified. -/
theorem Governed.ratified (governed : Governed t) (member : p ∈ t.proposals)
    (enforceable : p.Enforceable) (risk : p.effectiveRiskClass = .D3) :
    p.lifecycleState = .ratified := by
  rcases enforceable with testing | ratified | enforced
  · exact absurd testing (governed.pending p member risk)
  · exact ratified
  · exact absurd enforced (governed.reached p member)

/-! ## What a call leaves of a ratified proposal -/

/-- A proposal that a call finds and leaves as it is: it was not touched, and neither
were the decisions on it. -/
structure Spared (t t' : Tables) (made : Call) (p : Proposal) : Prop where
  stored : p ∈ t.proposals
  untouched : ¬ Touches p made
  latest : latestDecision t' p.proposalId = latestDecision t p.proposalId

/-- The call ratified the proposal. -/
structure Ratifies (t t' : Tables) (args : Ratify) (p : Proposal) (authority : Text) : Prop where
  proposal : args.proposalId = some p.proposalId
  decision : args.decision = some (text "ratify")
  authorityRef : args.authorityRef = some authority
  stood : ∃ q, t.proposals.find p.proposalId = some q ∧ SamePolicy q p
  latest : ∃ r, latestDecision t' p.proposalId = some r ∧ r.decision = .ratify ∧
    r.authorityRef = authority

/-- A ratified proposal was spared by the call, or the call ratified it. -/
theorem Effect.ratified_cases (effect : Effect t made answer t') (governed : Governed t)
    (member : p ∈ t'.proposals) (state : p.lifecycleState = .ratified) :
    Spared t t' made p ∨ ∃ args authority, made = .ratify args ∧
      p.ratificationRef = some authority ∧ Ratifies t t' args p authority := by
  cases effect with
  | @inserted args new describes fresh unused =>
      rcases Table.mem_put.mp member with rfl | ⟨stored, _⟩
      · exact absurd (describes.state ▸ state) (proposedState_ne _ _).1
      · refine .inl ⟨stored, fun ⟨keyed, versioned⟩ => fresh p stored ?_, rfl⟩
        rw [describes.policyKey, Option.some.injEq] at keyed
        rw [describes.version, Option.some.injEq] at versioned
        exact ⟨keyed.symm, versioned.symm⟩
  | @rewritten args new old describes found same =>
      rcases Table.mem_put.mp member with rfl | ⟨stored, apart⟩
      · exact absurd (describes.state ▸ state) (proposedState_ne _ _).1
      · refine .inl ⟨stored, fun ⟨keyed, versioned⟩ => apart ?_, rfl⟩
        rw [describes.policyKey, Option.some.injEq] at keyed
        rw [describes.version, Option.some.injEq] at versioned
        exact governed.versions old found p stored ⟨same.1.trans keyed, same.2.trans versioned⟩
  | @ratified args v row found proposal decision authority unused =>
      have named := Table.key_of_find found
      have rows := Table.rows_put_of_fresh unused
      rcases Table.mem_put.mp member with rfl | ⟨stored, apart⟩
      · -- the decided row is ratified, so the decision was to ratify
        have ratify : row.decision = .ratify := by
          exact ratify_of_decidedState state
        refine .inr ⟨args, row.authorityRef, rfl, ?_, ?_⟩
        · simp [Proposal.decide, ratify]
        · refine ⟨?_, ?_, authority, ⟨v, ?_, ⟨rfl, rfl, rfl, rfl, rfl, rfl, rfl⟩⟩, ⟨row, ?_, ratify, rfl⟩⟩
          · exact proposal.trans (congrArg some named.symm)
          · rw [decision, ratify]
            rfl
          · exact (congrArg _ named).trans found
          · simp [latestDecision, rows, List.filter_append, Proposal.decide, named]
      · refine .inl ⟨stored, fun touched => apart ?_, ?_⟩
        · have same : some row.proposalId = some p.proposalId := proposal.symm.trans touched
          exact named.trans (Option.some.inj same)
        · have other : row.proposalId ≠ p.proposalId := fun same => apart (named.trans same)
          simp [latestDecision, rows, List.filter_append, other]
  | denied => exact .inl ⟨member, id, rfl⟩
  | issued => exact .inl ⟨member, id, rfl⟩
  | renewed => exact .inl ⟨member, id, rfl⟩

/-! ## Every ratified proposal stands ratified -/

theorem record_concat (calls : List Call) (made : Call) :
    record (calls ++ [made]) = (call (record calls) made).1 :=
  Runs.run_append _ calls [made]

/-- A call that does not touch a proposal leaves it ratified. -/
theorem StandsRatified.extend {calls : List Call} {authority : Text}
    (stands : StandsRatified calls p authority)
    (untouched : Accepted calls made → ¬ Touches p made)
    (latest : latestDecision (record (calls ++ [made])) p.proposalId =
      latestDecision (record calls) p.proposalId) :
    StandsRatified (calls ++ [made]) p authority where
  latest := latest ▸ stands.latest
  ratified := by
    obtain ⟨before, args, after, rfl, ratified⟩ := stands.ratified
    refine ⟨before, args, after ++ [made], by simp, { ratified with untouched := ?_ }⟩
    intro middle later early accepted
    rcases List.prefix_concat_iff.mp early with whole | early
    · obtain ⟨rfl, last⟩ := List.append_inj' whole rfl
      cases last
      exact untouched accepted
    · exact ratified.untouched middle later early accepted

theorem standsRatified (calls : List Call) : ∀ p ∈ (record calls).proposals,
    p.lifecycleState = .ratified →
    ∃ authority, p.ratificationRef = some authority ∧ StandsRatified calls p authority := by
  induction calls using List.reverseRecOn with
  | nil => exact fun p member => absurd member Table.not_mem_empty
  | append_singleton calls made ih =>
      intro p member state
      have last := record_concat calls made
      rcases call_effect (record calls) made with
          ⟨answer, answered, effect⟩ | ⟨refused, unchanged⟩
      · rw [last] at member
        rcases effect.ratified_cases (governed_record calls) member state with
          spared | ⟨args, authority, rfl, ref, ratifies⟩
        · obtain ⟨authority, ref, stands⟩ := ih p spared.stored state
          exact ⟨authority, ref, stands.extend (fun _ => spared.untouched) (last ▸ spared.latest)⟩
        · refine ⟨authority, ref, last ▸ ratifies.latest, calls, args, [], rfl, ?_⟩
          exact ⟨ratifies.proposal, ratifies.decision, ratifies.authorityRef, ⟨answer, answered⟩,
            ratifies.stood, fun middle later early => absurd early (by simp)⟩
      · rw [last, unchanged] at member
        obtain ⟨authority, ref, stands⟩ := ih p member state
        have same : record (calls ++ [made]) = record calls := last.trans unchanged
        exact ⟨authority, ref,
          stands.extend (fun ⟨answer, answered⟩ => absurd answered (refused answer)) (by rw [same])⟩

/-! ## Enforcement -/

/-- An answer with a decision selected a proposal and took its verdict. -/
theorem selected_of_answered {args : Enforce} {decided : Enforcement}
    (answered : (call t (.enforce args)).2 = .ok (.enforced decided))
    (found : decided.verdict ≠ .noEnforceablePolicy) :
    ∃ v, selected t args = some v ∧ decided.verdict = v.verdict ∧
      .enforced decided = answerOf args v.verdict := by
  have effect := effect_of_answered answered
  generalize (call t (.enforce args)).1 = after at effect
  cases effect with
  | denied => exact absurd rfl found
  | issued chosen => exact ⟨_, chosen, rfl, rfl⟩
  | renewed chosen => exact ⟨_, chosen, rfl, rfl⟩

/-- After any calls, an enforcement that allows the highest class enforces a proposal as
it was ratified, and names the authority that ratified it. -/
theorem allow_enforcedAsRatified {calls : List Call} {args : Enforce} {decided : Enforcement}
    {authorityRef : Option Text}
    (answered : (call (record calls) (.enforce args)).2 = .ok (.enforced decided))
    (allowed : decided.verdict = .decided .allow .D3 authorityRef) :
    EnforcedAsRatified calls args authorityRef := by
  obtain ⟨v, chosen, verdict, _⟩ := selected_of_answered answered (by simp [allowed])
  obtain ⟨stored, _, _, enforceable⟩ := selected_spec chosen
  rw [allowed, Proposal.verdict, Verdict.decided.injEq] at verdict
  obtain ⟨_, risk, named⟩ := verdict
  replace risk := risk.symm
  have state := (governed_record calls).ratified stored enforceable risk
  obtain ⟨authority, ref, stands⟩ := standsRatified calls v stored state
  rw [Proposal.authority, if_pos risk, ref] at named
  exact ⟨v, authority, chosen, named, stands⟩

/-! ## A ratified policy -/

namespace Sample

/-- A proposal for live authority. -/
def proposal : Propose where
  proposalId := 1
  now := 0
  policyKey := some (text "policy.release")
  version := some (text "1")
  title := some (text "Release")
  targetSubjectRef := some (text "subject")
  targetPentas := none
  policyBody := some (text "\x7b\x7d")
  requestedRiskClass := some (text "D3")
  operatingMode := some (text "live")
  metadata := none

def ratification (ratificationId : Uuid) (authority : String) : Ratify where
  ratificationId
  now := 1
  proposalId := some 1
  decision := some (text "ratify")
  authorityRef := some (text authority)
  decisionBody := none

def enforcement : Enforce where
  receiptId := 1
  now := 2
  met := fun _ => 0
  policyKey := some (text "policy.release")
  targetSubjectRef := some (text "subject")
  targetSystem := some (text "gateway")
  enforcementAction := some (text "release")
  correlationId := some (text "correlation")
  evidence := none

/-- A policy is proposed and ratified. -/
def ratified : List Call :=
  [.propose proposal, .ratify (ratification 1 "council")]

end Sample

/-- A ratified policy is enforced on behalf of the authority that ratified it. -/
theorem ratified_enforcedAsRatified :
    EnforcedAsRatified Sample.ratified Sample.enforcement (some (text "council")) :=
  have answered : (call (record Sample.ratified) (.enforce Sample.enforcement)).2 =
      .ok (answerOf Sample.enforcement (.decided .allow .D3 (some (text "council")))) := by
    decide +kernel
  allow_enforcedAsRatified answered rfl

end Chlom.Police
