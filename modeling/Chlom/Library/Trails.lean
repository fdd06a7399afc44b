import Mathlib.Data.List.Chain
import Mathlib.Data.List.Pairwise

/-!
# Logs judged by their last entry

A log grows one entry at a time, and whether an entry may come next depends only
on the last one before it.  Laws between neighbours follow from the judgement,
transitive laws hold between all entries in order, and the entries that pass a
filter form such a log of their own when nothing else comes between them.
-/

/-- A log in which every entry was judged by the last one before it. -/
inductive Trail {α : Type} (Step : Option α → α → Prop) : List α → Prop
  | nil : Trail Step []
  | snoc {log : List α} {next : α} (before : Trail Step log) (step : Step log.getLast? next) :
      Trail Step (log ++ [next])

namespace Trail

variable {α : Type} {Step : Option α → α → Prop} {log : List α}

theorem snoc_iff {next : α} :
    Trail Step (log ++ [next]) ↔ Trail Step log ∧ Step log.getLast? next := by
  refine ⟨fun trail => ?_, fun both => both.1.snoc both.2⟩
  generalize whole : log ++ [next] = extended at trail
  cases trail with
  | nil => simp at whole
  | snoc before step =>
      obtain ⟨rfl, last⟩ := List.append_inj' whole rfl
      obtain rfl := List.singleton_inj.mp last
      exact ⟨before, step⟩

/-- The first entry was judged with nothing before it. -/
theorem head (trail : Trail Step log) {first : α} (headEq : log.head? = some first) :
    Step none first := by
  induction trail with
  | nil => cases headEq
  | @snoc log next before step ih =>
      cases log with
      | nil =>
          obtain rfl := Option.some.inj headEq
          exact step
      | cons entry rest => exact ih headEq

/-- Every other entry was judged by its predecessor. -/
theorem isChain (trail : Trail Step log) :
    log.IsChain fun prior next => Step (some prior) next := by
  induction trail with
  | nil => exact List.isChain_nil
  | @snoc log next before step ih =>
      apply List.isChain_append.mpr
      refine ⟨ih, List.isChain_singleton _, ?_⟩
      intro prior lastEq entry headEq
      rw [Option.mem_def] at lastEq
      obtain rfl : next = entry := by simpa using headEq
      rw [lastEq] at step
      exact step

/-- What the first judgement says of its entry, and every later one hands on, holds
of all entries. -/
theorem forall_of_chain {P : α → Prop} (trail : Trail Step log)
    (first : ∀ {next}, Step none next → P next)
    (later : ∀ {prior next}, Step (some prior) next → P prior → P next) :
    ∀ entry ∈ log, P entry := by
  induction trail with
  | nil => simp
  | @snoc log next before step ih =>
      intro entry member
      rcases List.mem_append.mp member with earlier | last
      · exact ih entry earlier
      · rw [List.mem_singleton.mp last]
        cases lastEq : log.getLast? with
        | none =>
            rw [lastEq] at step
            exact first step
        | some prior =>
            rw [lastEq] at step
            exact later step (ih prior (List.mem_of_getLast? lastEq))

/-- What every judgement says of the entry it lets in holds of all entries. -/
theorem forall_of_step {P : α → Prop} (trail : Trail Step log)
    (holds : ∀ {prior next}, Step prior next → P next) : ∀ entry ∈ log, P entry :=
  trail.forall_of_chain (fun step => holds step) fun step _ => holds step

theorem imp {Step' : Option α → α → Prop} (trail : Trail Step log)
    (weaker : ∀ {prior next}, Step prior next → Step' prior next) : Trail Step' log := by
  induction trail with
  | nil => exact .nil
  | snoc before step ih => exact ih.snoc (weaker step)

/-- Entries may be seen through a function that the judgement respects. -/
theorem map {β : Type} {Step' : Option β → β → Prop} (trail : Trail Step log) (f : α → β)
    (respects : ∀ {prior next}, Step prior next → Step' (prior.map f) (f next)) :
    Trail Step' (log.map f) := by
  induction trail with
  | nil => exact .nil
  | snoc before step ih =>
      rw [List.map_append]
      apply ih.snoc
      rw [List.getLast?_map]
      exact respects step

/-- A transitive law between neighbours holds between all entries in order. -/
theorem pairwise {R : α → α → Prop} [IsTrans α R] (trail : Trail Step log)
    (follows : ∀ {prior next}, Step (some prior) next → R prior next) : log.Pairwise R :=
  List.isChain_iff_pairwise.mp (trail.isChain.imp fun _ _ step => follows step)

variable {keep : α → Bool} {Early : α → Prop}

/-- Nothing that passes the filter comes before an early entry. -/
theorem filter_eq_nil_of_early (trail : Trail Step log)
    (early_skipped : ∀ {entry}, Early entry → keep entry = false)
    (early_back : ∀ {prior next}, Step (some prior) next → Early next → Early prior)
    {last : α} (lastEq : log.getLast? = some last) (early : Early last) :
    log.filter keep = [] := by
  induction trail generalizing last with
  | nil => rfl
  | @snoc log next before step ih =>
      obtain rfl : next = last := by simpa using lastEq
      rw [List.filter_append, List.filter_singleton, early_skipped early, Bool.cond_false,
        List.append_nil]
      cases priorEq : log.getLast? with
      | none =>
          rw [List.getLast?_eq_none_iff.mp priorEq]
          rfl
      | some prior =>
          rw [priorEq] at step
          exact ih priorEq (early_back step early)

/-- The entries that pass a filter form a log of their own when each of them comes
right after another one or after early entries only. -/
theorem filter (keep : α → Bool) (Early : α → Prop) (trail : Trail Step log)
    (early_skipped : ∀ {entry}, Early entry → keep entry = false)
    (early_back : ∀ {prior next}, Step (some prior) next → Early next → Early prior)
    (adjoins : ∀ {prior next}, Step (some prior) next → keep next = true →
      keep prior = true ∨ Early prior) :
    Trail (fun prior next => ∃ whole, Step whole next ∧ keep next = true ∧
      whole.filter keep = prior) (log.filter keep) := by
  induction trail with
  | nil => exact .nil
  | @snoc log next before step ih =>
      rw [List.filter_append, List.filter_singleton]
      cases kept : keep next with
      | false => simpa using ih
      | true =>
          apply ih.snoc
          refine ⟨log.getLast?, step, kept, ?_⟩
          cases lastEq : log.getLast? with
          | none =>
              rw [List.getLast?_eq_none_iff.mp lastEq]
              rfl
          | some last =>
              rw [lastEq] at step
              rcases adjoins step kept with keptLast | early
              · obtain ⟨earlier, rfl⟩ := List.getLast?_eq_some_iff.mp lastEq
                simp [List.filter_append, keptLast]
              · rw [before.filter_eq_nil_of_early early_skipped early_back lastEq early]
                simp [early_skipped early]

end Trail
