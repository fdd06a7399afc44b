import Chlom.Library.Locking.Transactions
import Chlom.Sql

/-!
# Cost budgets and the events booked on them

An event is inserted by a plain statement.  A trigger locks the budget of the event
first, books the amount on it, and closes the budget to further events once its hard
limit is spent.  The constraints of the event table are checked after the trigger, so
a statement that they refuse has already written to the budget.
-/

namespace Chlom.Cost

open Assurance (Text text Uuid SqlError)
open Sql (raiseException maxBigint)
open Locking

/-! ## Rows -/

/-- A non-negative amount of a `bigint` column. -/
abbrev Minor := Fin (2 ^ 63)

/-- The amount that a computed value fits, if it does. -/
def toMinor (value : Int) : Option Minor :=
  if h : 0 ≤ value ∧ value < 2 ^ 63 then some ⟨value.toNat, by omega⟩ else none

inductive BudgetState where
  | planned | active | held | exhausted | closed
  deriving DecidableEq

inductive EventKind where
  | commit | release | spend | refund
  deriving DecidableEq

def EventKind.text : EventKind → Text
  | .commit => Assurance.text "commit"
  | .release => Assurance.text "release"
  | .spend => Assurance.text "spend"
  | .refund => Assurance.text "refund"

/-- The kind that a text names, if any. -/
def EventKind.ofText (value : Text) : Option EventKind :=
  [.commit, .release, .spend, .refund].find? fun kind : EventKind => kind.text = value

structure Budget where
  budgetId : Uuid
  softLimitMinor : Minor
  hardLimitMinor : Minor
  committedMinor : Minor
  spentMinor : Minor
  state : BudgetState
  soft_le_hard : softLimitMinor ≤ hardLimitMinor
  deriving DecidableEq

/-- A budget with new amounts.  Once its hard limit is spent it is exhausted. -/
def Budget.setAmounts (b : Budget) (committed spent : Minor) : Budget :=
  { b with
    committedMinor := committed
    spentMinor := spent
    state := if b.hardLimitMinor ≤ spent then .exhausted else b.state }

structure CostEvent where
  eventId : Uuid
  eventKey : Text
  budgetId : Uuid
  eventKind : EventKind
  amountMinor : Int
  deriving DecidableEq

/-- The stored rows.  Events stand in the order of their insertion. -/
structure Tables where
  budgets : Table Budget.budgetId
  events : List CostEvent

/-- The columns of an event to insert, any of which may be null, and whether the
subject, assignment and instrument that it refers to exist. -/
structure NewEvent where
  eventId : Uuid
  eventKey : Option Text
  budgetId : Option Uuid
  eventKind : Option Text
  amountMinor : Option Int
  referencesExist : Bool

/-- The columns of a budget to insert.  Its amounts are left to their default. -/
structure NewBudget where
  budgetId : Uuid
  softLimitMinor : Int
  hardLimitMinor : Int
  state : BudgetState

/-! ## Locks -/

/-- The locks of a statement: the row of a budget, and the entries of an event in the
indexes of its table. -/
inductive Lock where
  | budget (budgetId : Uuid)
  | eventId (eventId : Uuid)
  | eventKey (eventKey : Text)
  deriving DecidableEq

def eventsOf (t : Tables) (budgetId : Uuid) : List CostEvent :=
  t.events.filter fun e => e.budgetId = budgetId

/-- A budget is read and written, and its events inserted, under the lock of its row;
an entry of an index protects the events under it. -/
def parts : Parts Tables Lock where
  Part
    | .budget _ => Option Budget × List CostEvent
    | .eventId _ => List CostEvent
    | .eventKey _ => List CostEvent
  part
    | .budget budgetId => fun t => (t.budgets.find budgetId, eventsOf t budgetId)
    | .eventId eventId => fun t => t.events.filter fun e => e.eventId = eventId
    | .eventKey eventKey => fun t => t.events.filter fun e => e.eventKey = eventKey

abbrev Statement (α : Type) := Prog Tables Lock SqlError α

def raised (message : String) : SqlError := .raised message raiseException

def bigintOutOfRange : SqlError := .raised "bigint out of range" "22003"

/-! ## Inserting an event -/

/-- The amounts of a budget after an event.  An unknown amount makes its result
unknown, and a comparison with it refuses nothing. -/
def book (b : Budget) (kind : Option EventKind) (amount : Option Int) :
    Statement (Option Int × Option Int) :=
  let committed : Int := b.committedMinor.val
  let spent : Int := b.spentMinor.val
  match kind with
  | some .commit => pure (amount.map (committed + ·), some spent)
  | some .release => do
      Prog.ensure (∀ a ∈ amount, a ≤ committed) (raised "release exceeds committed amount")
      pure (amount.map (committed - ·), some spent)
  | some .spend => pure (some committed, amount.map (spent + ·))
  | some .refund => do
      Prog.ensure (∀ a ∈ amount, a ≤ spent) (raised "refund exceeds spent amount")
      pure (some committed, amount.map (spent - ·))
  | none => pure (some committed, some spent)

def withinBigint (value : Int) : Prop :=
  -maxBigint - 1 ≤ value ∧ value ≤ maxBigint

instance (value : Int) : Decidable (withinBigint value) :=
  inferInstanceAs (Decidable (_ ∧ _))

/-- The trigger before the insertion of an event. -/
def costGuard (new : NewEvent) : Statement Unit := do
  let budgetId ← Prog.okOr new.budgetId (raised "budget is not active")
  Prog.acquire (.budget budgetId)
  let found ← Prog.query fun t => t.budgets.find budgetId
  let b ← Prog.okOr (found.filter fun b => b.state = .active) (raised "budget is not active")
  let (committed, spent) ← book b (new.eventKind.bind EventKind.ofText) new.amountMinor
  Prog.ensure (∀ c ∈ committed, ∀ s ∈ spent, withinBigint c ∧ withinBigint s ∧ withinBigint (c + s))
    bigintOutOfRange
  Prog.ensure (∀ c ∈ committed, ∀ s ∈ spent, c + s ≤ b.hardLimitMinor.val)
    (raised "PentaCost hard limit exceeded")
  let c ← Prog.okOr committed (.notNullViolation "committed_minor")
  let s ← Prog.okOr spent (.notNullViolation "spent_minor")
  let c ← Prog.okOr (toMinor c) (.checkViolation "penta_cost_budgets_committed_minor_check")
  let s ← Prog.okOr (toMinor s) (.checkViolation "penta_cost_budgets_spent_minor_check")
  Prog.update fun t => { t with budgets := t.budgets.put (b.setAmounts c s) }

/-- Insert an event, whose constraints are checked after the trigger. -/
def insertEvent (new : NewEvent) : Statement Unit := do
  costGuard new
  let eventKey ← Prog.okOr new.eventKey (.notNullViolation "event_key")
  let budgetId ← Prog.okOr new.budgetId (.notNullViolation "budget_id")
  let eventKind ← Prog.okOr new.eventKind (.notNullViolation "event_kind")
  let amountMinor ← Prog.okOr new.amountMinor (.notNullViolation "amount_minor")
  let eventKind ← Prog.okOr (EventKind.ofText eventKind)
    (.checkViolation "penta_cost_events_event_kind_check")
  Prog.ensure (0 < amountMinor) (.checkViolation "penta_cost_events_amount_minor_check")
  Prog.acquire (.eventId new.eventId)
  let sameId ← Prog.query fun t => t.events.filter fun e => e.eventId = new.eventId
  Prog.ensure (sameId = []) (.uniqueViolation "event_id")
  Prog.acquire (.eventKey eventKey)
  let sameKey ← Prog.query fun t => t.events.filter fun e => e.eventKey = eventKey
  Prog.ensure (sameKey = []) (.uniqueViolation "event_key")
  Prog.update fun t =>
    { t with events := t.events ++ [⟨new.eventId, eventKey, budgetId, eventKind, amountMinor⟩] }
  -- the references are checked at the end of the statement
  Prog.ensure (new.referencesExist = true) (.foreignKeyViolation "penta_cost_events")

/-- Insert a budget with nothing committed or spent. -/
def insertBudget (new : NewBudget) : Statement Unit := do
  let soft ← Prog.okOr (toMinor new.softLimitMinor)
    (.checkViolation "penta_cost_budgets_soft_limit_minor_check")
  let hard ← Prog.okOr (toMinor new.hardLimitMinor)
    (.checkViolation "penta_cost_budgets_hard_limit_minor_check")
  if h : soft ≤ hard then do
    let row : Budget :=
      { budgetId := new.budgetId
        softLimitMinor := soft
        hardLimitMinor := hard
        committedMinor := 0
        spentMinor := 0
        state := new.state
        soft_le_hard := h }
    Prog.acquire (.budget new.budgetId)
    let found ← Prog.query fun t => t.budgets.find new.budgetId
    Prog.ensure (found = none) (.uniqueViolation "budget_id")
    Prog.update fun t => { t with budgets := t.budgets.put row }
  else Prog.raise (.checkViolation "penta_cost_budgets_check")

/-- A statement of a transaction. -/
inductive Insert where
  | budget (new : NewBudget)
  | event (new : NewEvent)

def insert : Insert → Statement Unit
  | .budget new => insertBudget new
  | .event new => insertEvent new

/-- The sessions after a schedule of their steps. -/
abbrev sessions {Session : Type} [DecidableEq Session] (start : Tables)
    (schedule : List (Action Insert Session)) :
    System Tables Lock SqlError Unit Insert Session :=
  Runs.run (step insert) (.initial start) schedule

end Chlom.Cost
