import Chlom.Workforce.Pay

/-!
# Who approves a pay entry

The guard of a pay entry looks for the approving assignment among the active ones.  An
assignment of the beneficiary in any other state is not found, the comparison with
nothing is not true, and the entry is written.
-/

namespace Chlom.Workforce

open Assurance (Text text Timestamp Uuid SqlError)
open Sql

variable {t t' : Tables} {p new : PayEntry} {made : Statement}

/-! ## The property and its condition -/

/-- No assignment of the beneficiary approved the entry. -/
def IndependentlyApproved (t : Tables) (p : PayEntry) : Prop :=
  ∀ assignmentId ∈ p.approvedByAssignmentId, ∀ a, t.assignments.find assignmentId = some a →
    a.subjectRef ≠ p.beneficiarySubjectRef

/-- The approving assignment is active if it is one of the beneficiary's. -/
def ActiveIfOwn (t : Tables) (p : PayEntry) : Prop :=
  ∀ assignmentId ∈ p.approvedByAssignmentId, ∀ a, t.assignments.find assignmentId = some a →
    a.subjectRef = p.beneficiarySubjectRef → a.state = .active

/-- The constraints of the pay entry table, beside its other rows. -/
structure Fits (t : Tables) (others : Table PayEntry.payEntryId) (p : PayEntry) : Prop where
  gross : 0 ≤ p.grossMinor ∧ p.grossMinor ≤ maxBigint
  movement : p.providerMoneyMovement = false
  receipt : p.state = .paidExternal → p.externalReceiptRef ≠ none
  fresh : others.find p.payEntryId = none
  key : ∀ other ∈ others.rows, other.payKey ≠ p.payKey
  beneficiary : t.registry.subjects.contains p.beneficiarySubjectRef = true
  contract : ∀ instrument ∈ p.contractInstrumentId,
    t.registry.instruments.contains instrument = true
  approver : ∀ approver ∈ p.approvedByAssignmentId, (t.assignments.find approver).isSome

/-- A statement writes a pay entry that keeps the constraints of its table. -/
inductive Offers (t : Tables) : Statement → PayEntry → Prop
  | insert {new : PayEntry} (fits : Fits t t.payEntries new) : Offers t (.insertPayEntry new) new
  | update {payEntryId : Uuid} {stored new : PayEntry} (found : t.payEntries.find payEntryId = some stored)
      (fits : Fits t (t.payEntries.erase payEntryId) new) :
      Offers t (.updatePayEntry payEntryId new) new

/-! ## What the guard accepts -/

theorem approverSubject_eq_some {subject : Text} : approverSubject t new = some subject ↔
    ∃ assignmentId a, new.approvedByAssignmentId = some assignmentId ∧
      t.assignments.find assignmentId = some a ∧ a.state = .active ∧ a.subjectRef = subject := by
  simp only [approverSubject, Option.bind_eq_some_iff, Option.map_eq_some_iff,
    Option.filter_eq_some_iff, decide_eq_true_eq]
  constructor
  · rintro ⟨assignmentId, named, a, ⟨found, active⟩, same⟩
    exact ⟨assignmentId, a, named, found, active, same⟩
  · rintro ⟨assignmentId, a, named, found, active, same⟩
    exact ⟨assignmentId, named, a, ⟨found, active⟩, same⟩

theorem paySelfApprovalGuard_ok : paySelfApprovalGuard new t = .ok () t' ↔
    approverSubject t new ≠ some new.beneficiarySubjectRef ∧
      (new.state = .paidExternal → new.externalReceiptRef ≠ none) ∧ t' = t := by
  rw [paySelfApprovalGuard, Dispatch.read_bind, require, Dispatch.ensure_bind_ok, require,
    Dispatch.ensure_ok, ne_eq, equals_eq_true]
  simp [eq_comm]

theorem writePayEntry_ok {others : Table PayEntry.payEntryId} :
    writePayEntry others new t = .ok () t' ↔
      approverSubject t new ≠ some new.beneficiarySubjectRef ∧ Fits t others new ∧
        t' = { t with payEntries := others.put new } := by
  rw [writePayEntry, fitsBigint, Dispatch.ensure_bind_ok, Dispatch.bind_unit_ok]
  simp only [paySelfApprovalGuard_ok, Dispatch.read_bind, check, unique, references,
    Dispatch.ensure_bind_ok, Option.all_eq_true]
  constructor
  · rintro ⟨small, _, ⟨apart, receipt, rfl⟩, gross, movement, -, fresh, key, beneficiary, contract,
      approver, written⟩
    cases written
    exact ⟨apart, ⟨⟨gross, small.2⟩, movement, receipt, fresh, key, beneficiary, contract, approver⟩,
      rfl⟩
  · rintro ⟨apart, fits, rfl⟩
    obtain ⟨⟨gross, small⟩, movement, receipt, fresh, key, beneficiary, contract, approver⟩ := fits
    have range : -maxBigint - 1 ≤ new.grossMinor := by
      have : 0 ≤ maxBigint := by decide
      omega
    exact ⟨⟨range, small⟩, t, ⟨apart, receipt, rfl⟩, gross, movement,
      Decidable.not_or_of_imp receipt, fresh, key, beneficiary, contract, approver, rfl⟩

/-- A pay entry that was written kept the constraints, and its guard found no active
assignment of the beneficiary. -/
theorem perform_ok (ran : perform made t = .ok (some p) t') :
    approverSubject t p ≠ some p.beneficiarySubjectRef ∧ Offers t made p ∧
      t'.assignments = t.assignments := by
  cases made with
  | insertAssignment new =>
      obtain ⟨_, -, absent⟩ := Dispatch.map_ok.mp ran
      cases absent
  | updateAssignment assignmentId new =>
      obtain ⟨_, -, absent⟩ := Dispatch.map_ok.mp ran
      cases absent
  | insertPayEntry new =>
      obtain ⟨_, done, same⟩ := Dispatch.map_ok.mp ran
      cases same
      rw [insertPayEntry, Dispatch.read_bind, writePayEntry_ok] at done
      obtain ⟨apart, fits, rfl⟩ := done
      exact ⟨apart, .insert fits, rfl⟩
  | updatePayEntry payEntryId new =>
      obtain ⟨written, done, same⟩ := Dispatch.map_ok.mp ran
      rw [updatePayEntry, Dispatch.read_bind] at done
      cases found : t.payEntries.find payEntryId with
      | none =>
          rw [found] at done
          cases done
          cases same
      | some stored =>
          rw [found] at done
          obtain ⟨middle, wrote, last⟩ := Dispatch.bind_unit_ok.mp done
          cases last
          cases same
          obtain ⟨apart, fits, rfl⟩ := writePayEntry_ok.mp wrote
          exact ⟨apart, .update found fits, rfl⟩

/-- The guard and the constraints are all that a written pay entry needs. -/
theorem perform_of_offers (offers : Offers t made p)
    (apart : approverSubject t p ≠ some p.beneficiarySubjectRef) :
    ∃ after, perform made t = .ok (some p) after := by
  cases offers with
  | insert fits =>
      have written : insertPayEntry p t = .ok () { t with payEntries := t.payEntries.put p } := by
        rw [insertPayEntry, Dispatch.read_bind, writePayEntry_ok]
        exact ⟨apart, fits, rfl⟩
      exact ⟨_, Dispatch.map_ok.mpr ⟨(), written, rfl⟩⟩
  | @update payEntryId stored _ found fits =>
      have written : updatePayEntry payEntryId p t =
          .ok true { t with payEntries := (t.payEntries.erase payEntryId).put p } := by
        rw [updatePayEntry, Dispatch.read_bind, found]
        exact Dispatch.bind_unit_ok.mpr ⟨_, writePayEntry_ok.mpr ⟨apart, fits, rfl⟩, rfl⟩
      exact ⟨_, Dispatch.map_ok.mpr ⟨true, written, rfl⟩⟩

/-! ## One statement -/

theorem approverSubject_ne_iff (own : ActiveIfOwn t p) :
    approverSubject t p ≠ some p.beneficiarySubjectRef ↔ IndependentlyApproved t p := by
  rw [ne_eq, approverSubject_eq_some]
  constructor
  · intro apart assignmentId named a found same
    exact apart ⟨assignmentId, a, named, found, own assignmentId named a found same, same⟩
  · rintro independent ⟨assignmentId, a, named, found, -, same⟩
    exact independent assignmentId named a found same

/-- An entry that names an own assignment in another state passes the guard. -/
theorem approverSubject_ne_of_not_own (inactive : ¬ ActiveIfOwn t p) :
    approverSubject t p ≠ some p.beneficiarySubjectRef ∧ ¬ IndependentlyApproved t p := by
  simp only [ActiveIfOwn, not_forall] at inactive
  obtain ⟨assignmentId, named, a, found, same, off⟩ := inactive
  constructor
  · rw [ne_eq, approverSubject_eq_some]
    rintro ⟨other, b, named', found', active, -⟩
    cases named.symm.trans named'
    cases found.symm.trans found'
    exact off active
  · exact fun independent => independent assignmentId named a found same

theorem independentlyApproved_congr (same : t'.assignments = t.assignments) :
    IndependentlyApproved t' p ↔ IndependentlyApproved t p := by
  rw [IndependentlyApproved, IndependentlyApproved, same]

/-- What a statement writes is independently approved exactly if what it offers names no
own assignment that is not active. -/
theorem written_iff : (∀ p, (execute t made).2 = .ok (some p) →
      IndependentlyApproved (execute t made).1 p) ↔
    ∀ p, Offers t made p → ActiveIfOwn t p := by
  constructor
  · intro independent p offers
    by_cases own : ActiveIfOwn t p
    · exact own
    · obtain ⟨apart, dependent⟩ := approverSubject_ne_of_not_own own
      obtain ⟨after, ran⟩ := perform_of_offers offers apart
      have executed : execute t made = (after, .ok (some p)) := statement_of_ok ran
      have after_ := independent p (by rw [executed])
      rw [executed, independentlyApproved_congr (perform_ok ran).2.2] at after_
      exact absurd after_ dependent
  · intro own p answered
    have ran := ok_of_statement answered
    obtain ⟨apart, offers, same⟩ := perform_ok ran
    have independent := (approverSubject_ne_iff (own p offers)).mp apart
    exact (independentlyApproved_congr same).mpr independent

/-! ## Runs -/

/-- In every run, each written pay entry is independently approved exactly if no pay entry
that keeps the constraints of its table names, when it is written, an assignment of its
own beneficiary that is not active. -/
theorem independentlyApproved_iff (start : Tables) (statements : List Statement) :
    (∀ before made after p, statements = before ++ made :: after →
      (execute (record start before) made).2 = .ok (some p) →
        IndependentlyApproved (record start (before ++ [made])) p) ↔
    ∀ before made after p, statements = before ++ made :: after →
      Offers (record start before) made p → ActiveIfOwn (record start before) p := by
  constructor
  · intro independent before made after p split offers
    refine written_iff.mp (fun q answered => ?_) p offers
    have approved := independent before made after q split answered
    rwa [record, Runs.run_append] at approved
  · intro own before made after p split answered
    rw [record, Runs.run_append]
    exact written_iff.mpr (fun q offers => own before made after q split offers) p answered

/-- An assignment that is not active yet, and an entry of its own subject it approves. -/
def pendingAssignment : Assignment where
  assignmentId := 1
  assignmentKey := text "assignment.worker"
  subjectRef := text "subject.worker"
  roleKey := text "penta.role.manager"
  unitKey := none
  managerAssignmentId := none
  startsAt := 0
  endsAt := none
  state := .pending

def selfApprovedEntry : PayEntry where
  payEntryId := 2
  payKey := text "pay.worker"
  beneficiarySubjectRef := text "subject.worker"
  contractInstrumentId := none
  approvedByAssignmentId := some 1
  grossMinor := 100000
  entryType := .fee
  state := .approved
  providerMoneyMovement := false
  externalReceiptRef := none

def sampleRegistry : Registry where
  subjects := [text "subject.worker"]
  roles := [text "penta.role.manager"]
  units := []
  instruments := []

theorem self_approval_accepted :
    ¬ ∀ (start : Tables) (statements before after : List Statement) (made : Statement)
      (p : PayEntry), statements = before ++ made :: after →
      (execute (record start before) made).2 = .ok (some p) →
        IndependentlyApproved (record start (before ++ [made])) p := by
  intro independent
  have approved := independent (.empty sampleRegistry)
    [.insertAssignment pendingAssignment, .insertPayEntry selfApprovedEntry]
    [.insertAssignment pendingAssignment] [] (.insertPayEntry selfApprovedEntry) selfApprovedEntry rfl
    (by decide +kernel)
  have found : (record (.empty sampleRegistry) [.insertAssignment pendingAssignment,
      .insertPayEntry selfApprovedEntry]).assignments.find 1 = some pendingAssignment := by
    decide +kernel
  exact approved 1 rfl pendingAssignment found rfl

end Chlom.Workforce
