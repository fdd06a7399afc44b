import Chlom.Cost.Accounting

/-!
# When spent money can be refunded

An event that spends a budget up to its hard limit exhausts it, and nothing makes an
exhausted budget active again.  The trigger then refuses refunds along with all other
events, although it has a branch that books them.
-/

namespace Chlom.Cost

open Assurance (Uuid text)
open Locking

/-! ## The property -/

/-- A refund is accepted, lowers the spent amount by what it refunds, and leaves room to
spend that much again. -/
def Refundable (t : Tables) (budgetId : Uuid) (amount : Int) (refund spend : NewEvent) : Prop :=
  ∃ t₁, (insertEvent refund).statement t = (t₁, .ok ()) ∧
    (∃ b b₁, t.budgets.find budgetId = some b ∧ t₁.budgets.find budgetId = some b₁ ∧
      (b₁.spentMinor.val : Int) = b.spentMinor.val - amount) ∧
    ∃ t₂, (insertEvent spend).statement t₁ = (t₂, .ok ())

/-- Two new events refund an amount of a budget and spend it again. -/
def Takes (t : Tables) (budgetId : Uuid) (amount : Int) (refund spend : NewEvent) : Prop :=
  ∃ e f : CostEvent, refund.Describes e ∧ spend.Describes f ∧
    (e.eventKind = .refund ∧ e.budgetId = budgetId ∧ e.amountMinor = amount) ∧
    (f.eventKind = .spend ∧ f.budgetId = budgetId ∧ f.amountMinor = amount) ∧
    (∀ other ∈ t.events, other.eventId ≠ e.eventId ∧ other.eventKey ≠ e.eventKey) ∧
    ∀ other ∈ t.events ++ [e], other.eventId ≠ f.eventId ∧ other.eventKey ≠ f.eventKey

/-! ## Active and exhausted budgets -/

variable {t t' : Tables} {budgetId : Uuid} {b : Budget}

/-- What becomes of a budget that was opened active. -/
def ActiveOrExhausted (t : Tables) (budgetId : Uuid) : Prop :=
  ∃ b, t.budgets.find budgetId = some b ∧
    (b.state = .active ∨ b.state = .exhausted ∧ b.hardLimitMinor ≤ b.spentMinor)

theorem activeOrExhausted_insert {held held' : List Lock} {input : Insert}
    (before : ActiveOrExhausted t budgetId)
    (runs : Runs parts (insert input) t held ⟨t', held', .ok ()⟩) :
    ActiveOrExhausted t' budgetId := by
  obtain ⟨b, found, state⟩ := before
  cases input with
  | budget new =>
      obtain ⟨row, fresh, _, _, rfl⟩ := insertBudget_ok runs
      have apart : row.budgetId ≠ budgetId := by
        rintro rfl
        rw [fresh] at found
        cases found
      exact ⟨b, (Table.find_put_of_ne apart).trans found, state⟩
  | event new =>
      obtain ⟨e, booked, committed, spent, books, _⟩ := insertEvent_ok runs
      rw [books.after]
      by_cases same : booked.budgetId = budgetId
      · subst same
        refine ⟨_, Table.find_put_self, ?_⟩
        by_cases full : booked.hardLimitMinor ≤ spent
        · exact .inr ⟨if_pos full, full⟩
        · exact .inl ((if_neg full).trans books.active)
      · have apart : (booked.setAmounts committed spent).budgetId ≠ budgetId := same
        exact ⟨b, (Table.find_put_of_ne apart).trans found, state⟩

theorem activeOrExhausted_visible {Session : Type} [DecidableEq Session] {start : Tables}
    (opened : ∃ b, start.budgets.find budgetId = some b ∧ b.state = .active)
    (schedule : List (Action Insert Session)) {state : Tables}
    (visible : (sessions start schedule).Visible state) : ActiveOrExhausted state budgetId := by
  refine visible_invariant parts guarded_insert (ActiveOrExhausted · budgetId) ?_ ?_
    schedule visible
  · intro s held input value s' held' before runs
    exact activeOrExhausted_insert before runs
  · obtain ⟨b, found, active⟩ := opened
    exact ⟨b, found, .inl active⟩

/-! ## Refunds -/

/-- The event that a new event became is the one it describes. -/
theorem NewEvent.Describes.books {new : NewEvent} {e : CostEvent} (describes : new.Describes e)
    (accepted : (insertEvent new).statement t = (t', .ok ())) :
    ∃ b committed spent, t.budgets.find e.budgetId = some b ∧ b.state = .active ∧
      (committed.val : Int) = b.committedMinor.val + e.eventKind.committedChange e.amountMinor ∧
      (spent.val : Int) = b.spentMinor.val + e.eventKind.spentChange e.amountMinor ∧
      committed.val + spent.val ≤ b.hardLimitMinor.val ∧
      t'.budgets.find e.budgetId = some (b.setAmounts committed spent) := by
  obtain ⟨_, runs⟩ := runs_of_statement parts accepted
  obtain ⟨e', b, committed, spent, books, named, amount, kind⟩ := insertEvent_ok runs
  obtain same_budget := Option.some.inj (named.symm.trans describes.budgetId)
  obtain same_amount := Option.some.inj (amount.symm.trans describes.amountMinor)
  obtain same_kind := Option.some.inj (kind.symm.trans describes.kind)
  have found := books.found
  have key : b.budgetId = e.budgetId := (Table.key_of_find found).trans same_budget
  rw [same_budget] at found
  refine ⟨b, committed, spent, found, books.active, ?_, ?_, books.within, ?_⟩
  · rw [← same_kind, ← same_amount]
    exact books.committed
  · rw [← same_kind, ← same_amount]
    exact books.spent
  · rw [books.after, ← key]
    exact Table.find_put_self

theorem refundable_iff_active {amount : Int} {refund spend : NewEvent}
    (takes : Takes t budgetId amount refund spend) (found : t.budgets.find budgetId = some b)
    (positive : 0 < amount) (covered : amount ≤ b.spentMinor.val) :
    Refundable t budgetId amount refund spend ↔
      b.state = .active ∧ b.committedMinor.val + b.spentMinor.val ≤ b.hardLimitMinor.val := by
  obtain ⟨e, f, refunds, spends, ⟨refundKind, refundBudget, rfl⟩, ⟨spendKind, rfl, spendAmount⟩,
    fresh, freshAfter⟩ := takes
  constructor
  · rintro ⟨t₁, refunded, _, t₂, spent⟩
    obtain ⟨b', c₁, s₁, found', active, committed₁, spent₁, _, after⟩ := refunds.books refunded
    obtain ⟨b₁, c₂, s₂, found₁, _, committed₂, spent₂, within, _⟩ := spends.books spent
    rw [refundBudget] at found' after
    rw [found] at found'
    cases found'
    rw [after] at found₁
    cases found₁
    simp only [refundKind, spendKind, EventKind.committedChange, EventKind.spentChange,
      spendAmount, Budget.setAmounts] at committed₁ spent₁ committed₂ spent₂ within
    refine ⟨active, ?_⟩
    omega
  · rintro ⟨active, within⟩
    -- the refund lowers the spent amount, and the spend restores it
    have lower : ∃ lowered : Minor, (lowered.val : Int) = b.spentMinor.val - e.amountMinor := by
      have := b.spentMinor.isLt
      exact ⟨⟨(b.spentMinor.val - e.amountMinor).toNat, by omega⟩, by simp; omega⟩
    obtain ⟨lowered, loweredEq⟩ := lower
    have open_ : ¬ b.hardLimitMinor ≤ lowered := by
      rw [Fin.le_def]
      omega
    obtain ⟨t₁, first⟩ : ∃ t₁, Books t t₁ e b b.committedMinor lowered := by
      refine ⟨_, by rw [refundBudget]; exact found, active, positive, ?_, by omega, fresh, rfl,
        ?_, ?_⟩
      · rw [refundKind]
        exact ⟨fun kind => (by cases kind), fun _ => covered⟩
      · simp [refundKind, EventKind.committedChange]
      · rw [refundKind]
        exact loweredEq
    have key : b.budgetId = f.budgetId := Table.key_of_find found
    have found₁ : t₁.budgets.find f.budgetId = some (b.setAmounts b.committedMinor lowered) := by
      rw [first.after, ← key]
      exact Table.find_put_self
    obtain ⟨t₂, second⟩ : ∃ t₂, Books t₁ t₂ f (b.setAmounts b.committedMinor lowered)
        b.committedMinor b.spentMinor := by
      refine ⟨_, found₁, (if_neg open_).trans active, by omega, ?_, within, ?_, rfl, ?_, ?_⟩
      · rw [spendKind]
        exact ⟨fun kind => (by cases kind), fun kind => (by cases kind)⟩
      · rw [first.after]
        exact freshAfter
      · simp [spendKind, EventKind.committedChange, Budget.setAmounts]
      · simp only [spendKind, EventKind.spentChange, Budget.setAmounts]
        omega
    refine ⟨t₁, statement_insertEvent refunds first, ?_, t₂, statement_insertEvent spends second⟩
    exact ⟨b, _, found, found₁, loweredEq⟩

/-- In every state that transactions reach from one in which a budget is active, a
refund is possible exactly while the budget is not exhausted, provided its amounts are
within its hard limit. -/
theorem refundable_iff {Session : Type} [DecidableEq Session] {start : Tables}
    (opened : ∃ b, start.budgets.find budgetId = some b ∧ b.state = .active)
    (schedule : List (Action Insert Session)) {state : Tables}
    (visible : (sessions start schedule).Visible state)
    (found : state.budgets.find budgetId = some b) {amount : Int} (positive : 0 < amount)
    (covered : amount ≤ b.spentMinor.val) {refund spend : NewEvent}
    (takes : Takes state budgetId amount refund spend) :
    Refundable state budgetId amount refund spend ↔
      b.state ≠ .exhausted ∧
        b.committedMinor.val + b.spentMinor.val ≤ b.hardLimitMinor.val := by
  rw [refundable_iff_active takes found positive covered]
  obtain ⟨b', found', state⟩ := activeOrExhausted_visible opened schedule visible
  rw [found] at found'
  cases found'
  rcases state with active | ⟨exhausted, _⟩
  · simp [active]
  · simp [exhausted]

/-! ## A budget spent up to its limit -/

namespace Sample

/-- One transaction that books one event. -/
def booking (new : NewEvent) : List (Action Insert Bool) :=
  inserting false new ++ [.commit false]

theorem event_describes (number : Nat) (kind : EventKind) (amount : Int) :
    (event number kind amount).Describes
      ⟨BitVec.ofNat 128 number, List.replicate number 'e', 1, kind, amount⟩ :=
  ⟨rfl, rfl, rfl, rfl, rfl, rfl⟩

/-- The tables after one spend. -/
def spent (amount : Int) : Tables :=
  (sessions tables (booking (event 1 .spend amount))).committed

theorem takes_spent (amount : Int)
    (stored : (spent amount).events.map (fun e => (e.eventId, e.eventKey)) =
      [(1, List.replicate 1 'e')]) :
    Takes (spent amount) 1 1 (event 2 .refund 1) (event 3 .spend 1) := by
  have only : ∀ other ∈ (spent amount).events,
      other.eventId = 1 ∧ other.eventKey = List.replicate 1 'e' := by
    intro other member
    have listed := List.mem_map_of_mem (f := fun e => (e.eventId, e.eventKey)) member
    rw [stored] at listed
    simpa using listed
  unfold Takes
  refine ⟨_, _, event_describes 2 .refund 1, event_describes 3 .spend 1, ⟨rfl, rfl, rfl⟩,
    ⟨rfl, rfl, rfl⟩, fun other member => ?_, fun other member => ?_⟩
  · obtain ⟨id, key⟩ := only other member
    rw [id, key]
    decide
  · rcases List.mem_append.mp member with earlier | last
    · obtain ⟨id, key⟩ := only other earlier
      rw [id, key]
      decide
    · rw [List.mem_singleton.mp last]
      decide

end Sample

/-- A budget spent in part can be refunded. -/
theorem partly_spent_refundable :
    Refundable (Sample.spent 4) 1 1 (Sample.event 2 .refund 1) (Sample.event 3 .spend 1) ↔
      ({ Sample.budget with spentMinor := 4 } : Budget).state ≠ .exhausted ∧ 0 + 4 ≤ 10 :=
  refundable_iff
    (show ∃ b, Sample.tables.budgets.find 1 = some b ∧ b.state = .active from
      ⟨Sample.budget, rfl, rfl⟩)
    (Sample.booking (Sample.event 1 .spend 4)) (.inl rfl) (by decide +kernel) (by decide)
    (by decide) (Sample.takes_spent 4 (by decide +kernel))

/-- A budget spent up to its limit cannot. -/
theorem not_refundable :
    ¬ ∀ (start : Tables) (budgetId : Uuid) (schedule : List (Action Insert Bool)) (state : Tables)
      (b : Budget) (amount : Int) (refund spend : NewEvent),
      (∃ b, start.budgets.find budgetId = some b ∧ b.state = .active) →
      (sessions start schedule).Visible state → state.budgets.find budgetId = some b →
      0 < amount → amount ≤ b.spentMinor.val → Takes state budgetId amount refund spend →
      Refundable state budgetId amount refund spend := by
  intro every
  have takes := Sample.takes_spent 10 (by decide +kernel)
  have found : (Sample.spent 10).budgets.find 1 =
      some { Sample.budget with spentMinor := 10, state := .exhausted } := by
    decide +kernel
  have refundable := every Sample.tables 1 (Sample.booking (Sample.event 1 .spend 10)) _ _ 1 _ _
    ⟨Sample.budget, rfl, rfl⟩ (.inl rfl) found (by decide) (by decide) takes
  have active := ((refundable_iff_active takes found (by decide) (by decide)).mp refundable).1
  cases active

end Chlom.Cost
