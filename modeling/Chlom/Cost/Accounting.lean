import Mathlib.Algebra.Ring.Int.Defs
import Chlom.Cost.Effects

/-!
# Budgets and their event log

Whatever transactions insert events side by side, and whichever statements fail, the
amounts of a budget are the totals of its stored events and stay within its hard
limit, and no stored event took back more than was outstanding before it.
-/

namespace Chlom.Cost

open Assurance (Uuid text)
open Locking

/-! ## The property -/

def committedTotal (events : List CostEvent) : Int :=
  (events.map fun e => e.eventKind.committedChange e.amountMinor).sum

def spentTotal (events : List CostEvent) : Int :=
  (events.map fun e => e.eventKind.spentChange e.amountMinor).sum

/-- A budget agrees with its stored events. -/
structure Balanced (t : Tables) (b : Budget) : Prop where
  nonneg : 0 ≤ committedTotal (eventsOf t b.budgetId) ∧ 0 ≤ spentTotal (eventsOf t b.budgetId)
  committed : (b.committedMinor.val : Int) = committedTotal (eventsOf t b.budgetId)
  spent : (b.spentMinor.val : Int) = spentTotal (eventsOf t b.budgetId)
  within : b.committedMinor.val + b.spentMinor.val ≤ b.hardLimitMinor.val
  covered : ∀ before e after, eventsOf t b.budgetId = before ++ e :: after →
    e.eventKind.Covered e.amountMinor (committedTotal before) (spentTotal before)

/-- A budget agrees with its events, and without a budget there are none. -/
structure Accounted (t : Tables) (budgetId : Uuid) : Prop where
  present : ∀ b, t.budgets.find budgetId = some b → Balanced t b
  absent : t.budgets.find budgetId = none → eventsOf t budgetId = []

/-! ## What one event keeps -/

variable {t t' : Tables} {budgetId : Uuid} {b : Budget} {e : CostEvent}

@[simp]
theorem committedTotal_append {events more : List CostEvent} :
    committedTotal (events ++ more) = committedTotal events + committedTotal more := by
  simp [committedTotal]

@[simp]
theorem spentTotal_append {events more : List CostEvent} :
    spentTotal (events ++ more) = spentTotal events + spentTotal more := by
  simp [spentTotal]

theorem committedTotal_singleton :
    committedTotal [e] = e.eventKind.committedChange e.amountMinor := by
  simp [committedTotal]

theorem spentTotal_singleton : spentTotal [e] = e.eventKind.spentChange e.amountMinor := by
  simp [spentTotal]

theorem eventsOf_append {budgets : Table Budget.budgetId} :
    eventsOf ⟨budgets, t.events ++ [e]⟩ budgetId =
      if e.budgetId = budgetId then eventsOf t budgetId ++ [e] else eventsOf t budgetId := by
  by_cases same : e.budgetId = budgetId <;> simp [eventsOf, same]

/-- A budget whose own events and row are the same stays balanced. -/
theorem Balanced.congr (balanced : Balanced t b) (same : eventsOf t' b.budgetId = eventsOf t b.budgetId) :
    Balanced t' b := by
  obtain ⟨nonneg, committed, spent, within, covered⟩ := balanced
  rw [← same] at nonneg committed spent covered
  exact ⟨nonneg, committed, spent, within, covered⟩

/-- A budget without amounts and events is balanced. -/
theorem Balanced.opened (events : eventsOf t b.budgetId = []) (committed : b.committedMinor = 0)
    (spent : b.spentMinor = 0) : Balanced t b := by
  constructor
  · simp [events, committedTotal, spentTotal]
  · simp [events, committed, committedTotal]
  · simp [events, spent, spentTotal]
  · simp [committed, spent]
  · intro before e after whole
    simp [events] at whole

theorem Books.balanced {committed spent : Minor} (books : Books t t' e b committed spent)
    (before : Balanced t b) : Balanced t' (b.setAmounts committed spent) := by
  have named : b.budgetId = e.budgetId := Table.key_of_find books.found
  have events : eventsOf t' b.budgetId = eventsOf t b.budgetId ++ [e] := by
    rw [books.after, eventsOf_append, if_pos named.symm]
  have committedEq : (committed.val : Int) = committedTotal (eventsOf t' b.budgetId) := by
    rw [events, committedTotal_append, committedTotal_singleton, books.committed, before.committed]
  have spentEq : (spent.val : Int) = spentTotal (eventsOf t' b.budgetId) := by
    rw [events, spentTotal_append, spentTotal_singleton, books.spent, before.spent]
  refine ⟨?_, committedEq, spentEq, books.within, ?_⟩
  · change 0 ≤ committedTotal (eventsOf t' b.budgetId) ∧ 0 ≤ spentTotal (eventsOf t' b.budgetId)
    omega
  · intro earlier other after whole
    change eventsOf t' b.budgetId = _ at whole
    rw [events] at whole
    cases after using List.reverseRecOn with
    | nil =>
        obtain ⟨rfl, last⟩ := List.append_inj' whole rfl
        obtain rfl := List.singleton_inj.mp last
        rw [← before.committed, ← before.spent]
        exact books.covered
    | append_singleton middle last _ =>
        have split : eventsOf t b.budgetId ++ [e] = (earlier ++ other :: middle) ++ [last] := by
          simpa using whole
        exact before.covered earlier other middle (List.append_inj' split rfl).1

theorem Books.accounted {committed spent : Minor} (books : Books t t' e b committed spent)
    (before : Accounted t budgetId) : Accounted t' budgetId := by
  by_cases same : e.budgetId = budgetId
  · subst same
    have balanced := books.balanced (before.present b books.found)
    have named : b.budgetId = e.budgetId := Table.key_of_find books.found
    have found : t'.budgets.find e.budgetId = some (b.setAmounts committed spent) := by
      rw [books.after, ← named]
      exact Table.find_put_self
    constructor
    · intro other present
      rw [found] at present
      cases present
      exact balanced
    · intro missing
      rw [found] at missing
      cases missing
  · have named : b.budgetId ≠ budgetId := by rwa [Table.key_of_find books.found]
    have found : t'.budgets.find budgetId = t.budgets.find budgetId := by
      rw [books.after]
      exact Table.find_put_of_ne named
    have events : eventsOf t' budgetId = eventsOf t budgetId := by
      rw [books.after, eventsOf_append, if_neg same]
    constructor
    · intro other present
      rw [found] at present
      obtain rfl := Table.key_of_find present
      exact (before.present other present).congr events
    · intro missing
      rw [found] at missing
      rw [events]
      exact before.absent missing

/-- A new budget has no events. -/
theorem accounted_putBudget (fresh : t.budgets.find b.budgetId = none)
    (committed : b.committedMinor = 0) (spent : b.spentMinor = 0) (before : Accounted t budgetId) :
    Accounted { t with budgets := t.budgets.put b } budgetId := by
  by_cases same : b.budgetId = budgetId
  · subst same
    constructor
    · intro other present
      obtain rfl : b = other := by simpa using present
      exact .opened (before.absent fresh) committed spent
    · intro missing
      simp at missing
  · constructor
    · intro other present
      rw [Table.find_put_of_ne same] at present
      exact (before.present other present).congr rfl
    · intro missing
      rw [Table.find_put_of_ne same] at missing
      exact before.absent missing

theorem accounted_insert {held held' : List Lock} {input : Insert} (before : Accounted t budgetId)
    (runs : Runs parts (insert input) t held ⟨t', held', .ok ()⟩) : Accounted t' budgetId := by
  cases input with
  | budget new =>
      obtain ⟨row, fresh, committed, spent, rfl⟩ := insertBudget_ok runs
      exact accounted_putBudget fresh committed spent before
  | event new =>
      obtain ⟨e, b, committed, spent, books, _⟩ := insertEvent_ok runs
      exact books.accounted before

/-- For every schedule of transactions, a budget that was opened without amounts is
balanced in the committed tables and in what every transaction sees. -/
theorem balanced_visible {Session : Type} [DecidableEq Session] {start : Tables}
    (unbooked : eventsOf start budgetId = [])
    (opened : ∀ b, start.budgets.find budgetId = some b →
      b.committedMinor = 0 ∧ b.spentMinor = 0)
    (schedule : List (Action Insert Session)) {state : Tables}
    (visible : (sessions start schedule).Visible state)
    (found : state.budgets.find budgetId = some b) : Balanced state b := by
  have accounted : Accounted state budgetId := by
    refine visible_invariant parts guarded_insert (Accounted · budgetId) ?_ ?_ schedule
      visible
    · intro s held input value s' held' before runs
      exact accounted_insert before runs
    · constructor
      · intro b present
        obtain rfl := Table.key_of_find present
        exact .opened unbooked (opened b present).1 (opened b present).2
      · exact fun _ => unbooked
  exact accounted.present b found

/-! ## Two transactions side by side -/

namespace Sample

def budget : Budget where
  budgetId := 1
  softLimitMinor := ⟨5, by decide⟩
  hardLimitMinor := ⟨10, by decide⟩
  committedMinor := ⟨0, by decide⟩
  spentMinor := ⟨0, by decide⟩
  state := .active
  soft_le_hard := by decide

def tables : Tables where
  budgets := Table.empty.put budget
  events := []

/-- An event of the sample budget, whose number is its identifier and its key. -/
def event (number : Nat) (kind : EventKind) (amount : Int) : NewEvent where
  eventId := BitVec.ofNat 128 number
  eventKey := some (List.replicate number 'e')
  budgetId := some 1
  eventKind := some kind.text
  amountMinor := some amount
  referencesExist := true

/-- Issue a statement and take all its steps. -/
def inserting (session : Bool) (new : NewEvent) : List (Action Insert Bool) :=
  .issue session (.event new) :: List.replicate 10 (.advance session)

/-- One transaction commits a spend while another waits for the budget, whose own spend
is then refused, and whose commitment is stored. -/
def schedule : List (Action Insert Bool) :=
  inserting false (event 1 .spend 4) ++ inserting true (event 2 .spend 8) ++
    .commit false :: List.replicate 10 (.advance true) ++ inserting true (event 3 .commit 6) ++
    [.commit true]

end Sample

/-- The sample schedule stores one event of each transaction. -/
theorem sample_balanced : Balanced (sessions Sample.tables Sample.schedule).committed
    { Sample.budget with committedMinor := 6, spentMinor := 4 } :=
  balanced_visible (show eventsOf Sample.tables 1 = [] from rfl) (fun b present => by
    obtain rfl : Sample.budget = b := Option.some.inj present
    exact ⟨rfl, rfl⟩) Sample.schedule (.inl rfl) (by decide +kernel)

end Chlom.Cost
