import Chlom.Police.Ratified

/-!
# Receipts of repeated enforcements

The first enforcement under a receipt key writes the receipt, and a later one renews
only its evidence.  The receipt therefore keeps the decision of the first, which is
that of a later one as long as the selected proposal, its risk class and its
ratification are the same.
-/

namespace Chlom.Police

open Assurance (Text text Timestamp Uuid SqlError)
open Sql

/-! ## The property -/

/-- The stored receipt of an enforcement made after some calls shows the proposal and
the subject that were used and the decision that was answered. -/
def RecordsDecision (calls : List Call) (args : Enforce) (decided : Enforcement) : Prop :=
  ∃ key r v, Names args key ∧
    (record (calls ++ [.enforce args])).receipts.find key = some r ∧
    selected (record calls) args = some v ∧ r.proposalId = v.proposalId ∧
    some r.targetSubjectRef = args.targetSubjectRef ∧
    decided.verdict = .decided r.enforcementResult r.riskClass r.authorityRef

/-- An enforcement was the first under its key to find a proposal. -/
structure Issues (before : List Call) (first : Enforce) (key : ReceiptKey) (p : Proposal) :
    Prop where
  names : Names first key
  fresh : (record before).receipts.find key = none
  chosen : selected (record before) first = some p
  accepted : Accepted before (.enforce first)

/-- Two rows are of one proposal, for the same subject and of the same class, and one of
the highest class was ratified by the same authority. -/
structure SameGrounds (p q : Proposal) : Prop where
  proposalId : p.proposalId = q.proposalId
  targetSubjectRef : p.targetSubjectRef = q.targetSubjectRef
  riskClass : p.effectiveRiskClass = q.effectiveRiskClass
  ratificationRef : p.effectiveRiskClass = .D3 → p.ratificationRef = q.ratificationRef

/-- The proposal that is selected now has the same grounds as the one that the first
enforcement under the key selected. -/
def Unmoved (calls : List Call) (args : Enforce) : Prop :=
  ∀ before first after key p v, calls = before ++ .enforce first :: after → Names args key →
    Issues before first key p → selected (record calls) args = some v → SameGrounds p v

/-! ## The decision of a receipt -/

variable {t t' : Tables} {made : Call} {answer : Answer} {p v : Proposal} {key : ReceiptKey}
  {r : Receipt}

/-- A selected proposal is allowed. -/
theorem enforcementResult_selected {calls : List Call} {args : Enforce}
    (chosen : selected (record calls) args = some v) : v.enforcementResult = .allow := by
  obtain ⟨stored, _, _, enforceable⟩ := selected_spec chosen
  rw [Proposal.enforcementResult, if_neg]
  rintro ⟨risk, pending⟩
  exact pending (.inl ((governed_record calls).ratified stored enforceable risk))

theorem authority_eq_iff (risk : p.effectiveRiskClass = v.effectiveRiskClass) :
    p.authority = v.authority ↔
      (p.effectiveRiskClass = .D3 → p.ratificationRef = v.ratificationRef) := by
  unfold Proposal.authority
  rw [← risk]
  split
  · next highest => simp [highest]
  · next bounded => simp [bounded]

/-- A receipt of one proposal shows another one exactly if they have the same grounds. -/
theorem shows_iff_sameGrounds (shown : Shows r p)
    (result : p.enforcementResult = v.enforcementResult) : Shows r v ↔ SameGrounds p v := by
  obtain ⟨proposalId, subject, shownResult, risk, authority⟩ := shown
  constructor
  · intro other
    have sameRisk : p.effectiveRiskClass = v.effectiveRiskClass := risk.symm.trans other.riskClass
    refine ⟨proposalId.symm.trans other.proposalId, subject.symm.trans other.targetSubjectRef,
      sameRisk, (authority_eq_iff sameRisk).mp ?_⟩
    exact authority.symm.trans other.authorityRef
  · intro same
    refine ⟨proposalId.trans same.proposalId, subject.trans same.targetSubjectRef,
      shownResult.trans result, risk.trans same.riskClass, authority.trans ?_⟩
    exact (authority_eq_iff same.riskClass).mpr same.ratificationRef

/-! ## The first receipt of a key stays -/

theorem Shows.renew (shown : Shows r p) (evidence : Jsonb) : Shows (r.renew evidence) p := by
  obtain ⟨proposalId, subject, result, risk, authority⟩ := shown
  exact ⟨proposalId, subject, result, risk, authority⟩

theorem shows_renew_iff {evidence : Jsonb} : Shows (r.renew evidence) p ↔ Shows r p :=
  ⟨fun shown => shown.renew r.evidence, fun shown => shown.renew evidence⟩

theorem find_put_renew_of_ne {receipts : Table Receipt.toReceiptKey} {evidence : Jsonb}
    (apart : r.toReceiptKey ≠ key) : (receipts.put (r.renew evidence)).find key =
      receipts.find key :=
  Table.find_put_of_ne (show (r.renew evidence).toReceiptKey ≠ key from apart)

theorem find_put_renew_self {receipts : Table Receipt.toReceiptKey} {evidence : Jsonb} :
    (receipts.put (r.renew evidence)).find r.toReceiptKey = some (r.renew evidence) := by
  rw [Table.find_put]
  exact if_pos rfl

/-- A call renews at most the evidence of a stored receipt. -/
theorem Effect.receipt (effect : Effect t made answer t')
    (stored : t.receipts.find key = some r) :
    ∃ evidence, t'.receipts.find key = some (r.renew evidence) := by
  cases effect with
  | issued chosen names shows_ fresh =>
      refine ⟨r.evidence, (Table.find_put_of_ne ?_).trans stored⟩
      rintro rfl
      rw [fresh] at stored
      cases stored
  | @renewed args v other evidence chosen names found =>
      by_cases same : other.toReceiptKey = key
      · subst same
        rw [Table.find_key found, Option.some.injEq] at stored
        subst stored
        exact ⟨evidence, find_put_renew_self⟩
      · exact ⟨r.evidence, (find_put_renew_of_ne same).trans stored⟩
  | inserted => exact ⟨r.evidence, stored⟩
  | rewritten => exact ⟨r.evidence, stored⟩
  | ratified => exact ⟨r.evidence, stored⟩
  | denied => exact ⟨r.evidence, stored⟩

/-- A stored receipt keeps its decision through every run. -/
theorem receipt_run (stored : t.receipts.find key = some r) (calls : List Call) :
    ∃ evidence, (Runs.run call t calls).receipts.find key = some (r.renew evidence) := by
  refine Runs.invariant_run
    (fun t : Tables => ∃ evidence, t.receipts.find key = some (r.renew evidence))
    ?_ ⟨r.evidence, stored⟩ calls
  rintro t made ⟨evidence, stored⟩
  rcases call_effect t made with ⟨answer, _, effect⟩ | ⟨_, unchanged⟩
  · -- renewing twice is renewing once
    obtain ⟨later, stored⟩ := effect.receipt stored
    exact ⟨later, stored⟩
  · exact ⟨evidence, by rw [unchanged, stored]⟩

/-- The first enforcement under a key gave the result of every later one. -/
theorem Issues.same_result {before calls : List Call} {first args : Enforce}
    (issues : Issues before first key p) (chosen : selected (record calls) args = some v) :
    p.enforcementResult = v.enforcementResult :=
  (enforcementResult_selected issues.chosen).trans (enforcementResult_selected chosen).symm

theorem Names.unique {args : Enforce} {other : ReceiptKey} (names : Names args key)
    (names' : Names args other) : key = other := by
  ext1
  · exact Option.some.inj (names.correlationId.symm.trans names'.correlationId)
  · exact Option.some.inj (names.policyKey.symm.trans names'.policyKey)
  · exact Option.some.inj (names.targetSystem.symm.trans names'.targetSystem)
  · exact Option.some.inj (names.enforcementAction.symm.trans names'.enforcementAction)

/-- The first enforcement under a key leaves a receipt that shows its proposal. -/
theorem Issues.receipt {before : List Call} {first : Enforce} (issues : Issues before first key p) :
    ∃ r, (call (record before) (.enforce first)).1.receipts.find key = some r ∧ Shows r p := by
  obtain ⟨answer, answered⟩ := issues.accepted
  have effect := effect_of_answered answered
  generalize (call (record before) (.enforce first)).1 = after at effect
  cases effect with
  | denied none_ =>
      rw [issues.chosen] at none_
      cases none_
  | @issued args v receipt chosen names shows_ fresh =>
      obtain rfl := names.unique issues.names
      obtain rfl := Option.some.inj (chosen.symm.trans issues.chosen)
      exact ⟨receipt, Table.find_put_self, shows_⟩
  | renewed chosen names found =>
      obtain rfl := names.unique issues.names
      have stored := issues.fresh ▸ Table.find_key found
      cases stored

/-- Every receipt was issued by the first enforcement under its key. -/
theorem exists_issues (calls : List Call) (stored : (record calls).receipts.find key = some r) :
    ∃ before first after p, calls = before ++ .enforce first :: after ∧
      Issues before first key p := by
  induction calls using List.reverseRecOn generalizing r with
  | nil => cases stored
  | append_singleton calls made ih =>
      cases earlier : (record calls).receipts.find key with
      | some old =>
          obtain ⟨before, first, after, p, rfl, issues⟩ := ih earlier
          exact ⟨before, first, after ++ [made], p, by simp, issues⟩
      | none =>
          rw [record_concat] at stored
          rcases call_effect (record calls) made with ⟨answer, answered, effect⟩ | ⟨_, unchanged⟩
          · generalize (call (record calls) made).1 = last at effect stored
            cases effect with
            | @issued args v receipt chosen names shows_ fresh =>
                by_cases same : receipt.toReceiptKey = key
                · exact ⟨calls, args, [], v, rfl, same ▸ names, earlier, chosen, _, answered⟩
                · rw [Table.find_put_of_ne same, earlier] at stored
                  cases stored
            | @renewed args v other evidence chosen names found =>
                by_cases same : other.toReceiptKey = key
                · rw [← same, Table.find_key found] at earlier
                  cases earlier
                · rw [find_put_renew_of_ne same, earlier] at stored
                  cases stored
            | _ => exact absurd (earlier.symm.trans stored) nofun
          · rw [unchanged, earlier] at stored
            cases stored

/-- The receipt of a key shows the proposal that the first enforcement selected. -/
theorem shows_of_issues {before after : List Call} {first : Enforce}
    (issues : Issues before first key p)
    (stored : (record (before ++ .enforce first :: after)).receipts.find key = some r) :
    Shows r p := by
  obtain ⟨original, written, shown⟩ := issues.receipt
  obtain ⟨evidence, kept⟩ := receipt_run written after
  rw [record, Runs.run_append, Runs.run_cons, kept, Option.some.injEq] at stored
  subst stored
  exact shown.renew evidence

/-! ## When the receipt records the decision -/

/-- The receipt that an enforcement leaves shows its proposal exactly if the grounds have
not moved since the first enforcement under the key. -/
theorem shows_iff_unmoved {calls : List Call} {args : Enforce}
    (answered : (call (record calls) (.enforce args)).2 = .ok (answerOf args v.verdict))
    (chosen : selected (record calls) args = some v) :
    ∃ key r, Names args key ∧
      (record (calls ++ [.enforce args])).receipts.find key = some r ∧
      (Shows r v ↔ Unmoved calls args) := by
  have effect := effect_of_answered answered
  rw [record_concat]
  generalize (call (record calls) (.enforce args)).1 = after at effect
  generalize answerOf args v.verdict = given at effect
  cases effect with
  | denied none_ =>
      rw [chosen] at none_
      cases none_
  | @issued _ _ receipt other names shows_ fresh =>
      obtain rfl := Option.some.inj (other.symm.trans chosen)
      refine ⟨_, receipt, names, Table.find_put_self, iff_of_true shows_ ?_⟩
      -- no earlier enforcement issued a receipt under the key
      intro before first after key p v split named issues _
      obtain rfl := names.unique named
      obtain ⟨r, written, _⟩ := issues.receipt
      obtain ⟨evidence, kept⟩ := receipt_run written after
      rw [split, record, Runs.run_append, Runs.run_cons, kept] at fresh
      cases fresh
  | @renewed _ _ stored evidence other names found =>
      have kept := Table.find_key found
      obtain ⟨before, first, after, p, split, issues⟩ := exists_issues calls kept
      refine ⟨_, stored.renew evidence, names, find_put_renew_self, shows_renew_iff.trans ⟨?_, ?_⟩⟩
      · intro shown before' first' after' key p' v' split' named issues' chosen'
        obtain rfl := names.unique named
        obtain rfl := Option.some.inj (chosen'.symm.trans chosen)
        have shown' := shows_of_issues issues' (split' ▸ kept)
        exact (shows_iff_sameGrounds shown' (issues'.same_result chosen)).mp shown
      · intro unmoved
        have shown := shows_of_issues issues (split ▸ kept)
        have same := unmoved before first after _ p v split names issues chosen
        exact (shows_iff_sameGrounds shown (issues.same_result chosen)).mpr same

/-- Using a proposal, an answer is recorded by a receipt exactly if the receipt shows it. -/
theorem shows_iff_recorded {calls : List Call} {args : Enforce} {decided : Enforcement}
    (chosen : selected (record calls) args = some v) (verdict : decided.verdict = v.verdict) :
    Shows r v ↔ r.proposalId = v.proposalId ∧ some r.targetSubjectRef = args.targetSubjectRef ∧
      decided.verdict = .decided r.enforcementResult r.riskClass r.authorityRef := by
  obtain ⟨_, _, subject, _⟩ := selected_spec chosen
  rw [verdict, Proposal.verdict, Verdict.decided.injEq, ← subject, Option.some.injEq]
  constructor
  · rintro ⟨proposalId, subject, result, risk, authority⟩
    exact ⟨proposalId, subject, result.symm, risk.symm, authority.symm⟩
  · rintro ⟨proposalId, subject, result, risk, authority⟩
    exact ⟨proposalId, subject, result.symm, risk.symm, authority.symm⟩

/-- After any calls, the receipt of an enforcement that found a policy records its
decision exactly if the selected proposal has the grounds of the one that the first
enforcement under the key selected. -/
theorem recordsDecision_iff_unmoved {calls : List Call} {args : Enforce} {decided : Enforcement}
    (answered : (call (record calls) (.enforce args)).2 = .ok (.enforced decided))
    (found : decided.verdict ≠ .noEnforceablePolicy) :
    RecordsDecision calls args decided ↔ Unmoved calls args := by
  obtain ⟨v, chosen, verdict, answer⟩ := selected_of_answered answered found
  rw [answer] at answered
  obtain ⟨key, r, names, stored, shows_iff⟩ := shows_iff_unmoved answered chosen
  rw [← shows_iff, shows_iff_recorded chosen verdict]
  constructor
  · rintro ⟨key', r', v', names', stored', chosen', recorded⟩
    obtain rfl := names.unique names'
    obtain rfl := Option.some.inj (stored.symm.trans stored')
    obtain rfl := Option.some.inj (chosen.symm.trans chosen')
    exact recorded
  · exact fun recorded => ⟨key, r, v, names, stored, chosen, recorded⟩

/-! ## A policy that another authority ratifies -/

namespace Sample

/-- The policy is enforced, and another one is ratified by another authority. -/
def otherRatified : List Call :=
  ratified ++ [.enforce enforcement,
    .propose { proposal with proposalId := 2, policyKey := some (text "policy.audit") },
    .ratify { ratification 2 "assembly" with proposalId := some 2 }]

/-- The policy is enforced, proposed again and ratified by another authority. -/
def handedOver : List Call :=
  ratified ++ [.enforce enforcement, .propose proposal, .ratify (ratification 2 "assembly")]

end Sample

/-- A second enforcement is recorded when only another policy has changed. -/
theorem second_recorded :
    RecordsDecision Sample.otherRatified Sample.enforcement
        ⟨some (text "policy.release"), some (text "subject"), some (text "gateway"),
          .decided .allow .D3 (some (text "council"))⟩ ↔
      Unmoved Sample.otherRatified Sample.enforcement :=
  have answered : (call (record Sample.otherRatified) (.enforce Sample.enforcement)).2 =
      .ok (.enforced ⟨some (text "policy.release"), some (text "subject"), some (text "gateway"),
        .decided .allow .D3 (some (text "council"))⟩) := by
    decide +kernel
  recordsDecision_iff_unmoved answered nofun

/-- An enforcement on behalf of a new authority leaves the receipt of the old one. -/
theorem not_recordsDecision :
    ¬ ∀ (calls : List Call) (args : Enforce) (decided : Enforcement),
      (call (record calls) (.enforce args)).2 = .ok (.enforced decided) →
        decided.verdict ≠ .noEnforceablePolicy → RecordsDecision calls args decided := by
  intro every
  obtain ⟨key, r, v, names, stored, _, _, _, verdict⟩ := every Sample.handedOver Sample.enforcement
    ⟨some (text "policy.release"), some (text "subject"), some (text "gateway"),
      .decided .allow .D3 (some (text "assembly"))⟩ (by decide +kernel) nofun
  have kept : (record (Sample.handedOver ++ [.enforce Sample.enforcement])).receipts.rows.map
      Receipt.authorityRef = [some (text "council")] := by
    decide +kernel
  have member : r.authorityRef ∈ [some (text "council")] :=
    kept ▸ List.mem_map_of_mem (Table.mem_of_find stored)
  simp only [Verdict.decided.injEq] at verdict
  rw [← verdict.2.2] at member
  exact absurd member (by decide)

end Chlom.Police
