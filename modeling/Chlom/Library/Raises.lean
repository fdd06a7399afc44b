import Chlom.Library.Reports
import Chlom.Library.Results

/-!
# The kinds of errors of a computation

A computation raises only errors of a kind if each of its parts does.  The rules follow
the shape of a computation, so what a long sequence can fail with is read off its parts,
and so is the exact condition under which it fails at all.
-/

namespace Raises

variable {σ ε α β : Type} {P Q : ε → Prop}

/-! ## Computations without a state -/

/-- Every error of the computation is of a kind. -/
def Only (P : ε → Prop) (computed : Except ε α) : Prop :=
  ∀ error, computed = .error error → P error

theorem Only.ok {value : α} : Only P (.ok value : Except ε α) :=
  nofun

theorem Only.of_eq_ok {computed : Except ε α} {value : α} (ran : computed = .ok value) :
    Only P computed := by
  rw [ran]
  exact .ok

theorem Only.pure {value : α} : Only P (Pure.pure value : Except ε α) :=
  nofun

theorem only_error {error : ε} : Only P (.error error : Except ε α) ↔ P error := by
  constructor
  · exact fun only => only error rfl
  · rintro holds _ ⟨rfl⟩
    exact holds

theorem Only.mono {computed : Except ε α} (only : Only P computed) (weaker : ∀ e, P e → Q e) :
    Only Q computed :=
  fun error failed => weaker error (only error failed)

theorem Only.bind_of_ok {first : Except ε α} {next : α → Except ε β} (only : Only P first)
    (rest : ∀ value, first = .ok value → Only P (next value)) : Only P (first >>= next) := by
  intro error failed
  cases ran : first with
  | ok value =>
      rw [ran] at failed
      exact rest value ran error failed
  | error raised =>
      rw [ran] at failed
      cases failed
      exact only error ran

theorem Only.bind {first : Except ε α} {next : α → Except ε β} (only : Only P first)
    (rest : ∀ value, Only P (next value)) : Only P (first >>= next) :=
  only.bind_of_ok fun value _ => rest value

theorem Only.map {computed : Except ε α} {f : α → β} (only : Only P computed) :
    Only P (f <$> computed) := by
  intro error failed
  cases computed with
  | ok value => cases failed
  | error raised =>
      cases failed
      exact only error rfl

theorem Only.forM {items : List α} {check : α → Except ε Unit}
    (each : ∀ item ∈ items, Only P (check item)) : Only P (items.forM check) := by
  induction items with
  | nil => exact .pure
  | cons item rest ih =>
      change Only P (check item >>= fun _ => rest.forM check)
      refine (each item List.mem_cons_self).bind fun _ => ?_
      exact ih fun other member => each other (List.mem_cons_of_mem _ member)

/-- An error of a kind ends the computation. -/
def Ends (P : ε → Prop) (computed : Except ε α) : Prop :=
  ∃ error, computed = .error error ∧ P error

@[simp]
theorem ends_ok {value : α} : Ends P (.ok value : Except ε α) ↔ False :=
  ⟨nofun, nofun⟩

@[simp]
theorem ends_pure {value : α} : Ends P (Pure.pure value : Except ε α) ↔ False :=
  ⟨nofun, nofun⟩

@[simp]
theorem ends_error {error : ε} : Ends P (.error error : Except ε α) ↔ P error := by
  constructor
  · rintro ⟨_, ⟨rfl⟩, holds⟩
    exact holds
  · exact fun holds => ⟨error, rfl, holds⟩

/-- A sequence is ended by its first part, or the first part gives a value and the rest ends
it. -/
theorem ends_bind {first : Except ε α} {next : α → Except ε β} :
    Ends P (first >>= next) ↔ Ends P first ∨ ∃ value, first = .ok value ∧ Ends P (next value) := by
  cases first with
  | ok value =>
      constructor
      · exact fun ends => .inr ⟨value, rfl, ends⟩
      · rintro (impossible | ⟨_, ⟨rfl⟩, ends⟩)
        · exact (ends_ok.mp impossible).elim
        · exact ends
  | error raised =>
      change Ends P (.error raised) ↔ _
      constructor
      · exact fun ends => .inl (ends_error.mpr (ends_error.mp ends))
      · rintro (ends | ⟨_, impossible, _⟩)
        · exact ends_error.mpr (ends_error.mp ends)
        · cases impossible

theorem ends_map {computed : Except ε α} {f : α → β} : Ends P (f <$> computed) ↔ Ends P computed := by
  cases computed with
  | ok value => exact ⟨nofun, nofun⟩
  | error raised =>
      change Ends P (.error raised) ↔ _
      rw [ends_error, ends_error]

/-- A part that raises no error of the kind can be passed over. -/
theorem ends_bind_of_only {first : Except ε α} {next : α → Except ε β}
    (only : Only (fun error => ¬ P error) first) :
    Ends P (first >>= next) ↔ ∃ value, first = .ok value ∧ Ends P (next value) := by
  rw [ends_bind, or_iff_right]
  rintro ⟨error, failed, holds⟩
  exact only error failed holds

/-- Going through a list is ended by the step for one item, everything before it passed. -/
theorem ends_runFrom {step : Nat → σ → α → Except ε σ} {index : Nat} {s : σ} {items : List α} :
    Ends P (Results.runFrom step index s items) ↔
      ∃ before item after middle, items = before ++ item :: after ∧
        Results.runFrom step index s before = .ok middle ∧
        Ends P (step (index + before.length) middle item) := by
  induction items generalizing index s with
  | nil =>
      refine iff_of_false (fun ends => ends_ok.mp ends) ?_
      rintro ⟨before, item, after, _, split, _⟩
      cases before <;> cases split
  | cons first rest ih =>
      rw [Results.runFrom, ends_bind]
      constructor
      · rintro (ends | ⟨next, ran, ends⟩)
        · exact ⟨[], first, rest, s, rfl, rfl, ends⟩
        · obtain ⟨before, item, after, middle, rfl, ranBefore, ends⟩ := ih.mp ends
          refine ⟨first :: before, item, after, middle, rfl, ?_, ?_⟩
          · exact Results.bind_eq_ok.mpr ⟨next, ran, ranBefore⟩
          · rwa [List.length_cons, Nat.add_comm before.length, ← Nat.add_assoc]
      · rintro ⟨before, item, after, middle, split, ranBefore, ends⟩
        cases before with
        | nil =>
            cases split
            cases ranBefore
            exact .inl ends
        | cons other before =>
            cases split
            obtain ⟨next, ran, ranRest⟩ := Results.bind_eq_ok.mp ranBefore
            rw [List.length_cons, Nat.add_comm before.length, ← Nat.add_assoc] at ends
            exact .inr ⟨next, ran, ih.mpr ⟨before, item, after, middle, rfl, ranRest, ends⟩⟩

theorem Only.not_ends {computed : Except ε α} (only : Only (fun error => ¬ P error) computed) :
    ¬ Ends P computed :=
  fun ⟨error, failed, holds⟩ => only error failed holds

theorem only_iff_not_ends {computed : Except ε α} :
    Only P computed ↔ ¬ Ends (fun error => ¬ P error) computed := by
  constructor
  · rintro only ⟨error, failed, other⟩
    exact other (only error failed)
  · intro never error failed
    exact Classical.byContradiction fun other => never ⟨error, failed, other⟩

/-! ## Computations over a state -/

/-- Every error of the body is of a kind, whatever state it starts from. -/
def Stops (P : ε → Prop) (body : Dispatch σ ε α) : Prop :=
  ∀ s error s', body s = .error error s' → P error

theorem Stops.pure {value : α} : Stops P (Pure.pure value : Dispatch σ ε α) :=
  nofun

theorem Stops.mono {body : Dispatch σ ε α} (stops : Stops P body) (weaker : ∀ e, P e → Q e) :
    Stops Q body :=
  fun s error s' failed => weaker error (stops s error s' failed)

theorem Stops.read {query : σ → α} : Stops P (Dispatch.read query : Dispatch σ ε α) :=
  nofun

theorem Stops.write {update : σ → σ} : Stops P (Dispatch.write update : Dispatch σ ε Unit) :=
  nofun

theorem Stops.ofExcept {computed : Except ε α} (only : Only P computed) :
    Stops P (Dispatch.ofExcept computed : Dispatch σ ε α) := by
  intro s error s' failed
  cases computed with
  | ok value => cases failed
  | error raised =>
      cases failed
      exact only error rfl

theorem Stops.ensure {condition : Prop} [Decidable condition] {error : ε} (holds : P error) :
    Stops P (Dispatch.ensure condition error : Dispatch σ ε Unit) := by
  intro s raised s' failed
  rw [Dispatch.ensure_error] at failed
  obtain ⟨_, rfl, _⟩ := failed
  exact holds

theorem Stops.okOr {found : Option α} {error : ε} (holds : P error) :
    Stops P (Dispatch.okOr found error : Dispatch σ ε α) := by
  intro s raised s' failed
  cases found with
  | none =>
      cases failed
      exact holds
  | some value => cases failed

theorem Stops.bind {body : Dispatch σ ε α} {next : α → Dispatch σ ε β} (first : Stops P body)
    (rest : ∀ value, Stops P (next value)) : Stops P (body >>= next) := by
  intro s error s' failed
  rcases Dispatch.bind_error.mp failed with stopped | ⟨value, middle, _, later⟩
  · exact first s error s' stopped
  · exact rest value middle error s' later

/-! ## When a computation fails -/

/-- The body fails exactly under a condition, whatever state it starts from. -/
def Fails (condition : Prop) (body : Dispatch σ ε α) : Prop :=
  ∀ s, (∃ error s', body s = .error error s') ↔ condition

variable {C D : Prop}

theorem Fails.congr {body : Dispatch σ ε α} (fails : Fails C body) (same : C ↔ D) : Fails D body :=
  fun s => (fails s).trans same

theorem Fails.pure {value : α} : Fails False (Pure.pure value : Dispatch σ ε α) :=
  fun _ => ⟨nofun, nofun⟩

theorem Fails.write {update : σ → σ} : Fails False (Dispatch.write update : Dispatch σ ε Unit) :=
  fun _ => ⟨nofun, nofun⟩

theorem Fails.ofExcept {computed : Except ε α} :
    Fails (∃ error, computed = .error error) (Dispatch.ofExcept computed : Dispatch σ ε α) := by
  intro s
  cases computed with
  | ok value => exact ⟨nofun, nofun⟩
  | error raised => exact ⟨fun _ => ⟨raised, rfl⟩, fun _ => ⟨raised, s, rfl⟩⟩

theorem Fails.of_eq_ok {computed : Except ε α} {value : α} (ran : computed = .ok value) :
    Fails False (Dispatch.ofExcept computed : Dispatch σ ε α) := by
  refine Fails.ofExcept.congr ⟨?_, nofun⟩
  rintro ⟨error, failed⟩
  rw [ran] at failed
  cases failed

/-- A sequence fails if either part does. -/
theorem Fails.bind {body : Dispatch σ ε α} {next : α → Dispatch σ ε β} (first : Fails C body)
    (rest : ∀ value, Fails D (next value)) : Fails (C ∨ D) (body >>= next) := by
  intro s
  constructor
  · rintro ⟨error, s', failed⟩
    rcases Dispatch.bind_error.mp failed with stopped | ⟨value, middle, _, later⟩
    · exact .inl ((first s).mp ⟨error, s', stopped⟩)
    · exact .inr ((rest value middle).mp ⟨error, s', later⟩)
  · intro condition
    cases ran : body s with
    | error error s' => exact ⟨error, s', Dispatch.bind_error.mpr (.inl ran)⟩
    | ok value middle =>
        rcases condition with now | later
        · obtain ⟨error, s', failed⟩ := (first s).mpr now
          rw [ran] at failed
          cases failed
        · obtain ⟨error, s', failed⟩ := (rest value middle).mpr later
          exact ⟨error, s', Dispatch.bind_error.mpr (.inr ⟨value, middle, ran, failed⟩)⟩

/-- A part that does not fail can be passed over. -/
theorem Fails.after {body : Dispatch σ ε α} {next : α → Dispatch σ ε β} (first : Fails False body)
    (rest : ∀ value, Fails D (next value)) : Fails D (body >>= next) :=
  (first.bind rest).congr (Iff.of_eq (false_or D))

/-! ## How a computation ends -/

/-- From a state, an error of a kind ends the body. -/
def EndsAt (P : ε → Prop) (body : Dispatch σ ε α) (s : σ) : Prop :=
  ∃ error s', body s = .error error s' ∧ P error

/-- From a state, the body gives a value. -/
def GivesAt (body : Dispatch σ ε α) (s : σ) (value : α) : Prop := ∃ s', body s = .ok value s'

theorem Stops.not_endsAt {body : Dispatch σ ε α} (stops : Stops (fun error => ¬ P error) body)
    (s : σ) : ¬ EndsAt P body s :=
  fun ⟨error, s', failed, holds⟩ => stops s error s' failed holds

/-- Where the rest ends under a condition on the value only, the state between the parts does
not matter. -/
theorem endsAt_bind {body : Dispatch σ ε α} {next : α → Dispatch σ ε β} {C : α → Prop}
    (rest : ∀ value s, EndsAt P (next value) s ↔ C value) {s : σ} :
    EndsAt P (body >>= next) s ↔ EndsAt P body s ∨ ∃ value, GivesAt body s value ∧ C value := by
  constructor
  · rintro ⟨error, s', failed, holds⟩
    rcases Dispatch.bind_error.mp failed with stopped | ⟨value, middle, ran, later⟩
    · exact .inl ⟨error, s', stopped, holds⟩
    · exact .inr ⟨value, ⟨middle, ran⟩, (rest value middle).mp ⟨error, s', later, holds⟩⟩
  · rintro (⟨error, s', stopped, holds⟩ | ⟨value, ⟨middle, ran⟩, holdsAfter⟩)
    · exact ⟨error, s', Dispatch.bind_error.mpr (.inl stopped), holds⟩
    · obtain ⟨error, s', later, holds⟩ := (rest value middle).mpr holdsAfter
      exact ⟨error, s', Dispatch.bind_error.mpr (.inr ⟨value, middle, ran, later⟩), holds⟩

theorem endsAt_ofExcept {computed : Except ε α} {s : σ} :
    EndsAt P (Dispatch.ofExcept computed) s ↔ Ends P computed := by
  cases computed with
  | ok value => exact ⟨nofun, nofun⟩
  | error raised =>
      constructor
      · rintro ⟨_, _, ⟨rfl, rfl⟩, holds⟩
        exact ⟨raised, rfl, holds⟩
      · rintro ⟨_, ⟨rfl⟩, holds⟩
        exact ⟨raised, s, rfl, holds⟩

theorem givesAt_pure {value result : α} {s : σ} :
    GivesAt (Pure.pure value : Dispatch σ ε α) s result ↔ value = result := by
  constructor
  · rintro ⟨_, ran⟩
    exact (EStateM.Result.ok.inj ran).1
  · rintro rfl
    exact ⟨s, rfl⟩

theorem givesAt_ofExcept {computed : Except ε α} {s : σ} {result : α} :
    GivesAt (Dispatch.ofExcept computed) s result ↔ computed = .ok result := by
  constructor
  · rintro ⟨_, ran⟩
    exact (Dispatch.ofExcept_ok.mp ran).1
  · rintro rfl
    exact ⟨s, rfl⟩

/-- Where the rest gives a value under a condition on what it is given, the state between the
parts does not matter. -/
theorem givesAt_bind {body : Dispatch σ ε α} {next : α → Dispatch σ ε β} {result : β}
    {C : α → Prop} (rest : ∀ value s, GivesAt (next value) s result ↔ C value) {s : σ} :
    GivesAt (body >>= next) s result ↔ ∃ value, GivesAt body s value ∧ C value := by
  constructor
  · rintro ⟨s', ran⟩
    obtain ⟨value, middle, ranFirst, ranRest⟩ := Dispatch.bind_ok.mp ran
    exact ⟨value, ⟨middle, ranFirst⟩, (rest value middle).mp ⟨s', ranRest⟩⟩
  · rintro ⟨value, ⟨middle, ranFirst⟩, holds⟩
    obtain ⟨s', ranRest⟩ := (rest value middle).mpr holds
    exact ⟨s', Dispatch.bind_ok.mpr ⟨value, middle, ranFirst, ranRest⟩⟩

section Reporting

variable {μ : Type}

theorem givesAt_report_bind {wrong : Prop} [Decidable wrong] {message : μ}
    {next : Unit → Dispatch (List μ) ε β} {result : β}
    (rest : ∀ s, GivesAt (next ()) s result ↔ C) {s : List μ} :
    GivesAt (Reports.report wrong message >>= next) s result ↔ C := by
  rw [givesAt_bind (C := fun _ => C) fun _ => rest]
  exact ⟨fun ⟨_, _, holds⟩ => holds, fun holds => ⟨(), ⟨_, rfl⟩, holds⟩⟩

theorem endsAt_report_bind {wrong : Prop} [Decidable wrong] {message : μ}
    {next : Unit → Dispatch (List μ) ε β}
    (rest : ∀ s, EndsAt P (next ()) s ↔ C) {s : List μ} :
    EndsAt P (Reports.report wrong message >>= next) s ↔ C := by
  rw [endsAt_bind (C := fun _ => C) fun _ => rest]
  constructor
  · rintro (⟨_, _, impossible, _⟩ | ⟨_, _, holds⟩)
    · cases impossible
    · exact holds
  · exact fun holds => .inr ⟨(), ⟨_, rfl⟩, holds⟩

theorem Fails.report {wrong : Prop} [Decidable wrong] {message : μ} :
    Fails False (Reports.report wrong message : Dispatch (List μ) ε Unit) :=
  .write

theorem Fails.reportAll {found : List μ} :
    Fails False (Reports.reportAll found : Dispatch (List μ) ε Unit) :=
  .write

/-- A caught error does not end the body. -/
theorem Fails.recover {computed : Except ε α} {caught : ε → Option (List μ)} {default : α} :
    Fails (Ends (fun error => caught error = none) computed)
      (Reports.recover computed caught default) := by
  intro s
  cases computed with
  | ok value => exact ⟨nofun, fun impossible => (ends_ok.mp impossible).elim⟩
  | error raised =>
      unfold Reports.recover
      rw [ends_error]
      cases found : caught raised with
      | some messages => simp [found]
      | none => simp [found]

theorem Stops.report {wrong : Prop} [Decidable wrong] {message : μ} :
    Stops P (Reports.report wrong message : Dispatch (List μ) ε Unit) :=
  .write

theorem Stops.reportAll {found : List μ} :
    Stops P (Reports.reportAll found : Dispatch (List μ) ε Unit) :=
  .write

/-- Only errors that are not caught end the body. -/
theorem Stops.recover {computed : Except ε α} {caught : ε → Option (List μ)} {default : α}
    (only : Only (fun error => caught error = none → P error) computed) :
    Stops P (Reports.recover computed caught default) := by
  intro s error s' failed
  cases computed with
  | ok value => cases failed
  | error raised =>
      simp only [Reports.recover] at failed
      split at failed
      · cases failed
      · next found =>
          cases failed
          exact only _ rfl found

end Reporting

end Raises
