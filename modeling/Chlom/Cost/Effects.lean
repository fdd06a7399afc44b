import Chlom.Cost.Ledger

/-!
# What an inserted event does to its budget

Every statement writes only under the locks that it acquires.  An event that is
accepted found its budget active, and books its amount on it within the hard limit.
-/

namespace Chlom.Cost

open Assurance (Text Uuid SqlError)
open Locking

/-! ## Amounts -/

/-- What an event of a kind adds to the committed amount. -/
def EventKind.committedChange (kind : EventKind) (amount : Int) : Int :=
  match kind with
  | .commit => amount
  | .release => -amount
  | .spend | .refund => 0

/-- What an event of a kind adds to the spent amount. -/
def EventKind.spentChange (kind : EventKind) (amount : Int) : Int :=
  match kind with
  | .spend => amount
  | .refund => -amount
  | .commit | .release => 0

/-- What an event takes back is outstanding. -/
def EventKind.Covered (kind : EventKind) (amount committed spent : Int) : Prop :=
  (kind = .release → amount ≤ committed) ∧ (kind = .refund → amount ≤ spent)

theorem toMinor_eq_some {value : Int} {minor : Minor} :
    toMinor value = some minor ↔ (minor.val : Int) = value := by
  unfold toMinor
  split
  · next fits =>
      have back : ((value.toNat : Nat) : Int) = value := Int.toNat_of_nonneg fits.1
      rw [Option.some.injEq, Fin.ext_iff, ← Int.ofNat_inj]
      simp only [back]
      exact eq_comm
  · next outside =>
      have := minor.isLt
      simp only [reduceCtorEq, false_iff]
      omega

theorem EventKind.ofText_text (kind : EventKind) : EventKind.ofText kind.text = some kind := by
  cases kind <;> decide

/-! ## Locks -/

variable {s s' : Tables} {held held' : List Lock}

theorem find_of_agree {t : Tables} {budgetId : Uuid} (member : Lock.budget budgetId ∈ held)
    (agree : AgreeOn parts held s t) : t.budgets.find budgetId = s.budgets.find budgetId :=
  (congrArg Prod.fst (agree (.budget budgetId) member)).symm

theorem local_putBudget {b : Budget} (member : Lock.budget b.budgetId ∈ held) :
    Local parts held fun t => { t with budgets := t.budgets.put b } := by
  apply Local.of_cases
  intro name
  cases name with
  | budget budgetId =>
      by_cases same : b.budgetId = budgetId
      · subst same
        exact .inr ⟨member, fun part => (some b, part.2),
          fun _ => Prod.ext Table.find_put_self rfl⟩
      · exact .inl fun _ => Prod.ext (Table.find_put_of_ne same) rfl
  | _ => exact .inl fun _ => rfl

theorem local_appendEvent {e : CostEvent} (budget : Lock.budget e.budgetId ∈ held)
    (eventId : Lock.eventId e.eventId ∈ held) (eventKey : Lock.eventKey e.eventKey ∈ held) :
    Local parts held fun t => { t with events := t.events ++ [e] } := by
  apply Local.of_cases
  intro name
  cases name with
  | budget other =>
      by_cases same : e.budgetId = other
      · subst same
        exact .inr ⟨budget, fun part => (part.1, part.2 ++ [e].filter _),
          fun _ => Prod.ext rfl (List.filter_append ..)⟩
      · exact .inl fun _ => Prod.ext rfl (filter_concat (by simp [same]))
  | eventId other =>
      by_cases same : e.eventId = other
      · subst same
        exact .inr ⟨eventId, fun part : List CostEvent => part ++ [e].filter _,
          fun _ => List.filter_append ..⟩
      · exact .inl fun _ => filter_concat (by simp [same])
  | eventKey other =>
      by_cases same : e.eventKey = other
      · subst same
        exact .inr ⟨eventKey, fun part : List CostEvent => part ++ [e].filter _,
          fun _ => List.filter_append ..⟩
      · exact .inl fun _ => filter_concat (by simp [same])

theorem safe_book {ends : List Lock → Option Int × Option Int → Prop} {b : Budget}
    {kind : Option EventKind} {amount : Option Int} (every : ∀ amounts, ends held amounts) :
    Safe parts ends held (book b kind amount) := by
  rcases kind with _ | _ | _ | _ | _ <;>
    simp only [book, safe_bind, safe_ensure, safe_pure, every, implies_true]

theorem guarded_insertEvent (new : NewEvent) : Guarded parts (insertEvent new) := by
  unfold Guarded insertEvent costGuard
  simp only [safe_bind, safe_okOr, safe_acquire, safe_query, safe_ensure, safe_update]
  intro budgetId named seen b active
  apply safe_book
  intro amounts _ _ c _ s _ c _ s _
  obtain ⟨found, _⟩ := Option.filter_eq_some_iff.mp active
  obtain rfl := Table.key_of_find found
  refine ⟨local_putBudget (b := b.setAmounts c s) (by simp [Budget.setAmounts]), ?_⟩
  intro eventKey _ budgetId' named' kindText _ amount _ kind _ _ _ _ _ _
  obtain rfl : b.budgetId = budgetId' := Option.some.inj (named.symm.trans named')
  exact ⟨local_appendEvent (by simp) (by simp) (by simp), fun _ => trivial⟩

theorem guarded_insertBudget (new : NewBudget) : Guarded parts (insertBudget new) := by
  unfold Guarded insertBudget
  simp only [safe_bind, safe_okOr]
  intro soft _ hard _
  split
  · simp only [safe_bind, safe_acquire, safe_query, safe_ensure, safe_update]
    intro seen _
    exact ⟨local_putBudget (by simp), trivial⟩
  · trivial

theorem guarded_insert (input : Insert) : Guarded parts (insert input) := by
  cases input with
  | budget new => exact guarded_insertBudget new
  | event new => exact guarded_insertEvent new

/-! ## Accepted events -/

/-- What an accepted event found, and what it left. -/
structure Books (t t' : Tables) (e : CostEvent) (b : Budget) (committed spent : Minor) : Prop where
  found : t.budgets.find e.budgetId = some b
  active : b.state = .active
  positive : 0 < e.amountMinor
  covered : e.eventKind.Covered e.amountMinor b.committedMinor.val b.spentMinor.val
  within : committed.val + spent.val ≤ b.hardLimitMinor.val
  fresh : ∀ other ∈ t.events, other.eventId ≠ e.eventId ∧ other.eventKey ≠ e.eventKey
  after : t' = ⟨t.budgets.put (b.setAmounts committed spent), t.events ++ [e]⟩
  committed : (committed.val : Int) =
    b.committedMinor.val + e.eventKind.committedChange e.amountMinor
  spent : (spent.val : Int) = b.spentMinor.val + e.eventKind.spentChange e.amountMinor

/-- The amounts of a known event. -/
theorem runs_book {b : Budget} {kind : EventKind} {amount : Int} {amounts : Option Int × Option Int} :
    Runs parts (book b (some kind) (some amount)) s held ⟨s', held', .ok amounts⟩ ↔
      kind.Covered amount b.committedMinor.val b.spentMinor.val ∧ s' = s ∧ held' = held ∧
        amounts = (some (b.committedMinor.val + kind.committedChange amount),
          some (b.spentMinor.val + kind.spentChange amount)) := by
  cases kind <;>
    simp [book, EventKind.Covered, EventKind.committedChange, EventKind.spentChange,
      Int.sub_eq_add_neg]

theorem costGuard_ok {new : NewEvent} {budgetId : Uuid} {kind : EventKind} {amount : Int}
    (named : new.budgetId = some budgetId)
    (known : new.eventKind.bind EventKind.ofText = some kind) (booked : new.amountMinor = some amount)
    (runs : Runs parts (costGuard new) s held ⟨s', held', .ok ()⟩) :
    held' = .budget budgetId :: held ∧ ∃ (b : Budget) (committed spent : Minor),
      s.budgets.find budgetId = some b ∧ b.state = .active ∧
      kind.Covered amount b.committedMinor.val b.spentMinor.val ∧
      (committed.val : Int) = b.committedMinor.val + kind.committedChange amount ∧
      (spent.val : Int) = b.spentMinor.val + kind.spentChange amount ∧
      committed.val + spent.val ≤ b.hardLimitMinor.val ∧
      s' = { s with budgets := s.budgets.put (b.setAmounts committed spent) } := by
  rw [costGuard, runs_okOr_bind_ok] at runs
  obtain ⟨_, same, runs⟩ := runs
  obtain rfl := Option.some.inj (named.symm.trans same)
  rw [runs_acquire_bind,
    runs_query_bind_of_agree fun seen agree => find_of_agree (by simp) agree,
    runs_okOr_bind_ok] at runs
  obtain ⟨b, filtered, runs⟩ := runs
  obtain ⟨found, active⟩ := Option.filter_eq_some_iff.mp filtered
  rw [known, booked, runs_bind_ok] at runs
  obtain ⟨middle, held'', amounts, book, runs⟩ := runs
  obtain ⟨covered, rfl, rfl, rfl⟩ := runs_book.mp book
  simp only [runs_ensure_bind_ok, runs_okOr_bind_ok, Option.mem_def, Option.some.injEq,
    forall_eq', exists_eq_left', toMinor_eq_some] at runs
  obtain ⟨_, within, committed, committedEq, spent, spentEq, ended⟩ := runs
  cases ended
  refine ⟨rfl, b, committed, spent, found, by simpa using active, covered, committedEq, spentEq,
    ?_, rfl⟩
  omega

theorem sameId_of_agree {t : Tables} {eventId : Uuid} (member : Lock.eventId eventId ∈ held)
    (agree : AgreeOn parts held s t) :
    (t.events.filter fun e => e.eventId = eventId) = s.events.filter fun e => e.eventId = eventId :=
  (agree (.eventId eventId) member).symm

theorem sameKey_of_agree {t : Tables} {eventKey : Text} (member : Lock.eventKey eventKey ∈ held)
    (agree : AgreeOn parts held s t) :
    (t.events.filter fun e => e.eventKey = eventKey) =
      s.events.filter fun e => e.eventKey = eventKey :=
  (agree (.eventKey eventKey) member).symm

/-- An accepted event books itself on its budget. -/
theorem insertEvent_ok {new : NewEvent}
    (runs : Runs parts (insertEvent new) s held ⟨s', held', .ok ()⟩) :
    ∃ e b committed spent, Books s s' e b committed spent ∧ new.budgetId = some e.budgetId ∧
      new.amountMinor = some e.amountMinor ∧
      new.eventKind.bind EventKind.ofText = some e.eventKind := by
  rw [insertEvent, runs_bind_ok] at runs
  obtain ⟨middle, held'', _, guard, runs⟩ := runs
  simp only [runs_okOr_bind_ok, runs_ensure_bind_ok, runs_acquire_bind] at runs
  obtain ⟨eventKey, keyed, budgetId, named, kindText, kinded, amount, booked, kind, known, positive,
    runs⟩ := runs
  have kind_known : new.eventKind.bind EventKind.ofText = some kind := by rw [kinded, ← known]; rfl
  obtain ⟨rfl, b, committed, spent, found, active, covered, committedEq, spentEq, within, rfl⟩ :=
    costGuard_ok named kind_known booked guard
  rw [runs_query_bind_of_agree fun seen agree => sameId_of_agree (by simp) agree,
    runs_ensure_bind_ok, runs_acquire_bind,
    runs_query_bind_of_agree fun seen agree => sameKey_of_agree (by simp) agree,
    runs_ensure_bind_ok, runs_update_bind] at runs
  obtain ⟨freshId, freshKey, runs⟩ := runs
  obtain ⟨_, rfl, rfl⟩ := runs_ensure_ok.mp runs
  refine ⟨⟨new.eventId, eventKey, budgetId, kind, amount⟩, b, committed, spent, ?_, named, booked,
    kind_known⟩
  refine ⟨found, active, positive, covered, within, fun other member => ⟨?_, ?_⟩, rfl, committedEq,
    spentEq⟩
  · intro same
    have listed := List.filter_eq_nil_iff.mp freshId other member
    simp [same] at listed
  · intro same
    have listed := List.filter_eq_nil_iff.mp freshKey other member
    simp [same] at listed

theorem insertBudget_ok {new : NewBudget}
    (runs : Runs parts (insertBudget new) s held ⟨s', held', .ok ()⟩) :
    ∃ row : Budget, s.budgets.find row.budgetId = none ∧ row.committedMinor = 0 ∧
      row.spentMinor = 0 ∧ s' = { s with budgets := s.budgets.put row } := by
  simp only [insertBudget, runs_okOr_bind_ok] at runs
  obtain ⟨soft, _, hard, _, runs⟩ := runs
  split at runs
  · rw [runs_acquire_bind,
      runs_query_bind_of_agree fun seen agree => find_of_agree (by simp) agree,
      runs_ensure_bind_ok] at runs
    obtain ⟨fresh, ended⟩ := runs
    cases ended
    exact ⟨_, fresh, rfl, rfl, rfl⟩
  · cases runs

/-! ## Inserting without interference -/

/-- The columns of a new event are those of a stored one. -/
structure NewEvent.Describes (new : NewEvent) (e : CostEvent) : Prop where
  eventId : new.eventId = e.eventId
  eventKey : new.eventKey = some e.eventKey
  budgetId : new.budgetId = some e.budgetId
  eventKind : new.eventKind = some e.eventKind.text
  amountMinor : new.amountMinor = some e.amountMinor
  referencesExist : new.referencesExist = true

theorem NewEvent.Describes.kind {new : NewEvent} {e : CostEvent} (describes : new.Describes e) :
    new.eventKind.bind EventKind.ofText = some e.eventKind := by
  rw [describes.eventKind, Option.bind_some, EventKind.ofText_text]

theorem eval_book {t : Tables} {b : Budget} {kind : EventKind} {amount : Int}
    (covered : kind.Covered amount b.committedMinor.val b.spentMinor.val) :
    (book b (some kind) (some amount)).eval t =
      (.ok (some (b.committedMinor.val + kind.committedChange amount),
        some (b.spentMinor.val + kind.spentChange amount)), t) := by
  cases kind with
  | commit => rfl
  | release =>
      simp [book, covered.1 rfl, EventKind.committedChange, EventKind.spentChange,
        Int.sub_eq_add_neg]
  | spend => rfl
  | refund =>
      simp [book, covered.2 rfl, EventKind.committedChange, EventKind.spentChange,
        Int.sub_eq_add_neg]

theorem withinBigint_val {amount : Nat} (within : amount < 2 ^ 63) : withinBigint amount := by
  unfold withinBigint Sql.maxBigint
  omega

theorem eval_costGuard {t t' : Tables} {new : NewEvent} {e : CostEvent} {b : Budget}
    {committed spent : Minor} (describes : new.Describes e)
    (books : Books t t' e b committed spent) :
    (costGuard new).eval t =
      (.ok (), { t with budgets := t.budgets.put (b.setAmounts committed spent) }) := by
  have active : (t.budgets.find e.budgetId).filter (fun b => b.state = .active) = some b := by
    rw [books.found]
    simp [books.active]
  have bounded : withinBigint committed.val ∧ withinBigint spent.val ∧
      withinBigint (committed.val + spent.val) := by
    refine ⟨withinBigint_val committed.isLt, withinBigint_val spent.isLt, ?_⟩
    exact_mod_cast withinBigint_val (lt_of_le_of_lt books.within b.hardLimitMinor.isLt)
  have within : (committed.val : Int) + spent.val ≤ b.hardLimitMinor.val := by
    exact_mod_cast books.within
  rw [costGuard, Prog.eval_okOr_bind_some describes.budgetId, Prog.eval_acquire_bind,
    Prog.eval_query_bind, Prog.eval_okOr_bind_some active, describes.kind, describes.amountMinor,
    Prog.eval_bind, eval_book books.covered]
  dsimp only
  rw [← books.committed, ← books.spent]
  simp only [Option.mem_def, Option.some.injEq, forall_eq', Prog.eval_ensure_bind, bounded, within,
    if_true, and_self]
  rw [Prog.eval_okOr_bind_some rfl, Prog.eval_okOr_bind_some rfl,
    Prog.eval_okOr_bind_some (toMinor_eq_some.mpr rfl),
    Prog.eval_okOr_bind_some (toMinor_eq_some.mpr rfl), Prog.eval_update]

/-- An event that can be booked is accepted. -/
theorem statement_insertEvent {t t' : Tables} {new : NewEvent} {e : CostEvent} {b : Budget}
    {committed spent : Minor} (describes : new.Describes e)
    (books : Books t t' e b committed spent) : (insertEvent new).statement t = (t', .ok ()) := by
  have freshId : (t.events.filter fun other => other.eventId = e.eventId) = [] := by
    simpa using fun other member => (books.fresh other member).1
  have freshKey : (t.events.filter fun other => other.eventKey = e.eventKey) = [] := by
    simpa using fun other member => (books.fresh other member).2
  apply Prog.statement_ok.mpr
  rw [insertEvent, Prog.eval_bind, eval_costGuard describes books]
  dsimp only
  rw [Prog.eval_okOr_bind_some describes.eventKey, Prog.eval_okOr_bind_some describes.budgetId,
    Prog.eval_okOr_bind_some describes.eventKind, Prog.eval_okOr_bind_some describes.amountMinor,
    Prog.eval_okOr_bind_some (EventKind.ofText_text e.eventKind)]
  rw [describes.eventId]
  simp [books.positive, freshId, freshKey, describes.referencesExist, books.after]

end Chlom.Cost
