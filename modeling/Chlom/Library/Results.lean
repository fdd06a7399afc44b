import Mathlib.Data.List.Forall2
import Mathlib.Data.List.Perm.Basic

/-!
# Results of checks over lists

A check that may fail is run over a list.  It succeeds exactly when it succeeds for
every item, so the order of the items and the items left out do not change what the
others give.
-/

namespace Results

variable {ε α β : Type}

theorem bind_eq_ok {first : Except ε α} {next : α → Except ε β} {result : β} :
    first >>= next = .ok result ↔ ∃ value, first = .ok value ∧ next value = .ok result := by
  cases first with
  | ok value => exact ⟨fun ran => ⟨value, rfl, ran⟩, fun ⟨_, same, ran⟩ => by cases same; exact ran⟩
  | error e => exact ⟨nofun, fun ⟨_, failed, _⟩ => nomatch failed⟩

theorem map_eq_ok {computed : Except ε α} {f : α → β} {result : β} :
    f <$> computed = .ok result ↔ ∃ value, computed = .ok value ∧ f value = result := by
  cases computed with
  | ok value =>
      exact ⟨fun ran => ⟨value, rfl, Except.ok.inj ran⟩, fun ⟨_, same, equal⟩ => by
        cases same
        exact congrArg Except.ok equal⟩
  | error e => exact ⟨nofun, fun ⟨_, failed, _⟩ => nomatch failed⟩

/-- Two computations that read the same and then agree in what is shown of them. -/
theorem map_congr_of_reads {γ δ : Type} {shown : γ → δ} {first : Except ε α} {second : Except ε β}
    {make other : α → β → γ}
    (agree : ∀ a b, first = .ok a → shown (make a b) = shown (other a b)) :
    (do let a ← first; let b ← second; return make a b : Except ε γ).map shown =
      (do let a ← first; let b ← second; return other a b : Except ε γ).map shown := by
  cases first with
  | error e => rfl
  | ok a =>
      cases second with
      | error e => rfl
      | ok b => exact congrArg Except.ok (agree a b rfl)

/-- Go through a list with a state and the position, until a step fails. -/
def runFrom {σ : Type} (step : Nat → σ → α → Except ε σ) : Nat → σ → List α → Except ε σ
  | _, s, [] => .ok s
  | index, s, item :: rest => do
      let s ← step index s item
      runFrom step (index + 1) s rest

variable {f : α → Except ε β}

/-- A check of a list gives one result for each item. -/
theorem mapM_eq_ok {items : List α} {results : List β} :
    items.mapM f = .ok results ↔ List.Forall₂ (fun item result => f item = .ok result) items results := by
  induction items generalizing results with
  | nil =>
      rw [List.mapM_nil, List.forall₂_nil_left_iff]
      exact ⟨fun ran => (Except.ok.inj ran).symm, fun same => congrArg Except.ok same.symm⟩
  | cons item items ih =>
      rw [List.mapM_cons, bind_eq_ok]
      constructor
      · rintro ⟨result, ran, rest⟩
        obtain ⟨others, ranRest, same⟩ := bind_eq_ok.mp rest
        cases same
        exact .cons ran (ih.mp ranRest)
      · intro all
        cases all with
        | cons ran rest => exact ⟨_, ran, bind_eq_ok.mpr ⟨_, ih.mpr rest, rfl⟩⟩

theorem ok_of_mem {items : List α} {results : List β} (ran : items.mapM f = .ok results) {item : α}
    (member : item ∈ items) : ∃ result, f item = .ok result := by
  have all := mapM_eq_ok.mp ran
  clear ran
  induction all with
  | nil => cases member
  | cons head _ ih =>
      rcases List.mem_cons.mp member with rfl | member
      · exact ⟨_, head⟩
      · exact ih member

/-- Results that are determined by their items. -/
theorem eq_map_of_mapM {g : α → β} {items : List α} {results : List β}
    (ran : items.mapM f = .ok results)
    (each : ∀ item ∈ items, ∀ result, f item = .ok result → result = g item) :
    results = items.map g := by
  have all := mapM_eq_ok.mp ran
  clear ran
  induction all with
  | nil => rfl
  | cons head _ ih =>
      rw [List.map_cons, each _ List.mem_cons_self _ head,
        ih fun item member => each item (List.mem_cons_of_mem _ member)]

/-- A reordered list gives the same results in another order. -/
theorem mapM_perm {items others : List α} (same : items.Perm others) {results : List β}
    (ran : items.mapM f = .ok results) :
    ∃ reordered, others.mapM f = .ok reordered ∧ results.Perm reordered := by
  have composed : Relation.Comp (List.Forall₂ fun result item => f item = .ok result) List.Perm
      results others := ⟨items, (mapM_eq_ok.mp ran).flip, same⟩
  rw [List.forall₂_comp_perm_eq_perm_comp_forall₂] at composed
  obtain ⟨reordered, permuted, all⟩ := composed
  exact ⟨reordered, mapM_eq_ok.mpr all.flip, permuted⟩

/-- The results of the items that satisfy a condition are the results that do. -/
theorem mapM_filter {p : α → Bool} {q : β → Bool}
    (agree : ∀ item result, f item = .ok result → p item = q result) {items : List α}
    {results : List β} (ran : items.mapM f = .ok results) :
    (items.filter p).mapM f = .ok (results.filter q) := by
  have all := mapM_eq_ok.mp ran
  rw [mapM_eq_ok]
  clear ran
  induction all with
  | nil => exact .nil
  | @cons item result _ _ head _ ih =>
      cases kept : p item with
      | true =>
          rw [List.filter_cons_of_pos kept, List.filter_cons_of_pos (agree item result head ▸ kept)]
          exact .cons head ih
      | false =>
          rw [List.filter_cons_of_neg (by simp [kept]),
            List.filter_cons_of_neg (by simp [← agree item result head, kept])]
          exact ih

end Results
