import Chlom.Library.Runs
import Chlom.Sql

/-!
# Assignments and pay entries of the workforce

An assignment gives a subject a role and goes through lifecycle states.  A pay entry
names its beneficiary and may name the assignment that approved it; a trigger judges
every written entry before the constraints of its table do.
-/

namespace Chlom.Workforce

open Assurance (Text text Timestamp Uuid SqlError)
open Sql

/-! ## Rows -/

inductive AssignmentState where
  | pending | active | paused | suspended | expired | retired
  deriving DecidableEq

inductive EntryType where
  | stipend | fee | milestone | royaltyAccrual | reimbursement | credit | adjustment
  deriving DecidableEq

inductive PayState where
  | proposed | approved | eligible | held | paidExternal | cancelled
  deriving DecidableEq

structure Assignment where
  assignmentId : Uuid
  assignmentKey : Text
  subjectRef : Text
  roleKey : Text
  unitKey : Option Text
  managerAssignmentId : Option Uuid
  startsAt : Timestamp
  endsAt : Option Timestamp
  state : AssignmentState
  deriving DecidableEq

structure PayEntry where
  payEntryId : Uuid
  payKey : Text
  beneficiarySubjectRef : Text
  contractInstrumentId : Option Uuid
  approvedByAssignmentId : Option Uuid
  grossMinor : Int
  entryType : EntryType
  state : PayState
  providerMoneyMovement : Bool
  externalReceiptRef : Option Text
  deriving DecidableEq

/-- The keys of the rows of other tables that assignments and entries refer to. -/
structure Registry where
  subjects : List Text
  roles : List Text
  units : List Text
  instruments : List Uuid

structure Tables where
  registry : Registry
  assignments : Table Assignment.assignmentId
  payEntries : Table PayEntry.payEntryId

def Tables.empty (registry : Registry) : Tables :=
  ⟨registry, .empty, .empty⟩

/-! ## Assignments -/

/-- Write an assignment beside the others of its table. -/
def writeAssignment (others : Table Assignment.assignmentId) (new : Assignment) :
    Sql Tables Unit := do
  let t ← Dispatch.read id
  check (∀ ends ∈ new.endsAt, new.startsAt < ends) "penta_workforce_assignments_check"
  unique (others.find new.assignmentId = none) "assignment_id"
  unique (∀ other ∈ others.rows, other.assignmentKey ≠ new.assignmentKey) "assignment_key"
  references (t.registry.subjects.contains new.subjectRef = true) "subject_ref"
  references (t.registry.roles.contains new.roleKey = true) "role_key"
  references (new.unitKey.all fun unit => t.registry.units.contains unit) "unit_key"
  references (new.managerAssignmentId.all fun manager =>
    manager = new.assignmentId || (others.find manager).isSome) "manager_assignment_id"
  Dispatch.write fun t => { t with assignments := others.put new }

def insertAssignment (new : Assignment) : Sql Tables Unit := do
  let assignments ← Dispatch.read Tables.assignments
  writeAssignment assignments new

/-- Nothing refers to an assignment but itself. -/
def Unreferenced (t : Tables) (assignmentId : Uuid) : Prop :=
  (∀ entry ∈ t.payEntries.rows, entry.approvedByAssignmentId ≠ some assignmentId) ∧
    ∀ other ∈ t.assignments.rows, other.assignmentId ≠ assignmentId →
      other.managerAssignmentId ≠ some assignmentId

instance (t : Tables) (assignmentId : Uuid) : Decidable (Unreferenced t assignmentId) :=
  inferInstanceAs (Decidable (_ ∧ _))

/-- Rewrite the assignment of an identifier, which the new row may change. -/
def updateAssignment (assignmentId : Uuid) (new : Assignment) : Sql Tables Unit := do
  let t ← Dispatch.read id
  Dispatch.ifSome (t.assignments.find assignmentId) fun _ => do
    references (new.assignmentId = assignmentId ∨ Unreferenced t assignmentId) "assignment_id"
    writeAssignment (t.assignments.erase assignmentId) new

/-! ## Pay entries -/

/-- The subject of the approving assignment, null unless that assignment is active. -/
def approverSubject (t : Tables) (new : PayEntry) : Option Text :=
  new.approvedByAssignmentId.bind fun assignmentId =>
    ((t.assignments.find assignmentId).filter fun a => a.state = .active).map Assignment.subjectRef

/-- The guard of every written pay entry. -/
def paySelfApprovalGuard (new : PayEntry) : Sql Tables Unit := do
  let t ← Dispatch.read id
  -- a comparison with null is not true and raises nothing
  require (Sql.equals (approverSubject t new) (some new.beneficiarySubjectRef) ≠ some true)
    "PentaPay self-approval is prohibited"
  require (¬ (new.state = .paidExternal ∧ new.externalReceiptRef = none))
    "external payment receipt required"

/-- Write a pay entry beside the others of its table. -/
def writePayEntry (others : Table PayEntry.payEntryId) (new : PayEntry) : Sql Tables Unit := do
  fitsBigint new.grossMinor
  paySelfApprovalGuard new
  let t ← Dispatch.read id
  check (0 ≤ new.grossMinor) "penta_pay_entries_gross_minor_check"
  check (new.providerMoneyMovement = false) "penta_pay_entries_provider_money_movement_check"
  check (new.state ≠ .paidExternal ∨ new.externalReceiptRef ≠ none) "penta_pay_entries_check"
  unique (others.find new.payEntryId = none) "pay_entry_id"
  unique (∀ other ∈ others.rows, other.payKey ≠ new.payKey) "pay_key"
  references (t.registry.subjects.contains new.beneficiarySubjectRef = true)
    "beneficiary_subject_ref"
  references (new.contractInstrumentId.all fun instrument =>
    t.registry.instruments.contains instrument) "contract_instrument_id"
  references (new.approvedByAssignmentId.all fun approver =>
    (t.assignments.find approver).isSome) "approved_by_assignment_id"
  Dispatch.write fun t => { t with payEntries := others.put new }

def insertPayEntry (new : PayEntry) : Sql Tables Unit := do
  let payEntries ← Dispatch.read Tables.payEntries
  writePayEntry payEntries new

/-- Rewrite the pay entry of an identifier, and tell whether there was one. -/
def updatePayEntry (payEntryId : Uuid) (new : PayEntry) : Sql Tables Bool := do
  let payEntries ← Dispatch.read Tables.payEntries
  match payEntries.find payEntryId with
  | none => pure false
  | some _ => do
      writePayEntry (payEntries.erase payEntryId) new
      pure true

/-! ## Statements -/

inductive Statement where
  | insertAssignment (new : Assignment)
  | updateAssignment (assignmentId : Uuid) (new : Assignment)
  | insertPayEntry (new : PayEntry)
  | updatePayEntry (payEntryId : Uuid) (new : PayEntry)

/-- Perform a statement, and tell the pay entry that it wrote, if any. -/
def perform : Statement → Sql Tables (Option PayEntry)
  | .insertAssignment new => (fun _ => none) <$> Workforce.insertAssignment new
  | .updateAssignment assignmentId new =>
      (fun _ => none) <$> Workforce.updateAssignment assignmentId new
  | .insertPayEntry new => (fun _ => some new) <$> Workforce.insertPayEntry new
  | .updatePayEntry payEntryId new =>
      (fun written => if written then some new else none) <$> Workforce.updatePayEntry payEntryId new

/-- Make one statement, whose exception undoes it. -/
def execute (t : Tables) (made : Statement) : Tables × Except SqlError (Option PayEntry) :=
  statement (perform made) t

/-- The tables after a list of statements. -/
abbrev record (start : Tables) (statements : List Statement) : Tables :=
  Runs.run execute start statements

end Chlom.Workforce
