import Chlom.Library.Dispatch

/-!
# Coupled runs of call bodies

A relational program logic for bodies that run on two storages at once.  Two
bodies are coupled when from related storages they either both succeed, with one
value and related storages, or both fail with one error.  The rules follow the
syntax of a body: reads must agree, writes must preserve the relation, and
guards must ask the same question on both sides.
-/

namespace Dispatch

variable {σ ε α β : Type}

/-- From storages related by `P` the bodies give one answer, and where they
succeed they leave storages related by `Q`. -/
def Coupled (P Q : σ → σ → Prop) (first second : Dispatch σ ε α) : Prop :=
  ∀ s t, P s t →
    (∃ value s' t', first s = .ok value s' ∧ second t = .ok value t' ∧ Q s' t') ∨
      ∃ failure s' t', first s = .error failure s' ∧ second t = .error failure t'

namespace Coupled

variable {P M Q : σ → σ → Prop}

theorem pure (value : α) : @Coupled σ ε α P P (Pure.pure value) (Pure.pure value) :=
  fun s t related => .inl ⟨value, s, t, rfl, rfl, related⟩

theorem bind {first second : Dispatch σ ε α} {next other : α → Dispatch σ ε β}
    (body : Coupled P M first second) (rest : ∀ value, Coupled M Q (next value) (other value)) :
    Coupled P Q (first >>= next) (second >>= other) := by
  intro s t related
  rcases body s t related with
    ⟨value, s', t', ran, otherRan, between⟩ | ⟨failure, s', t', ran, otherRan⟩
  · rw [bind_of_ok ran, bind_of_ok otherRan]
    exact rest value s' t' between
  · exact .inr ⟨failure, s', t', bind_of_error ran, bind_of_error otherRan⟩

/-- A first part that keeps the relation. -/
theorem keep {first second : Dispatch σ ε α} {next other : α → Dispatch σ ε β}
    (body : Coupled P P first second) (rest : ∀ value, Coupled P Q (next value) (other value)) :
    Coupled P Q (first >>= next) (second >>= other) :=
  body.bind rest

/-- A weaker relation may be asked for before, and a stronger one given after. -/
theorem mono {P' Q' : σ → σ → Prop} {first second : Dispatch σ ε α}
    (body : Coupled P Q first second) (before : ∀ {s t}, P' s t → P s t)
    (after : ∀ {s t}, Q s t → Q' s t) : Coupled P' Q' first second := by
  intro s t related
  rcases body s t (before related) with ⟨value, s', t', ran, otherRan, done⟩ | failed
  · exact .inl ⟨value, s', t', ran, otherRan, after done⟩
  · exact .inr failed

theorem ensure (condition : Prop) [Decidable condition] (error : ε) :
    Coupled P P (Dispatch.ensure condition error) (Dispatch.ensure condition error) := by
  intro s t related
  by_cases holds : condition
  · exact .inl ⟨(), s, t, ensure_ok.mpr ⟨holds, rfl⟩, ensure_ok.mpr ⟨holds, rfl⟩, related⟩
  · exact .inr ⟨error, s, t, ensure_error.mpr ⟨holds, rfl, rfl⟩,
      ensure_error.mpr ⟨holds, rfl, rfl⟩⟩

theorem okOr (value : Option α) (error : ε) :
    Coupled P P (Dispatch.okOr value error) (Dispatch.okOr value error) := by
  intro s t related
  cases value with
  | none => exact .inr ⟨error, s, t, rfl, rfl⟩
  | some found => exact .inl ⟨found, s, t, rfl, rfl, related⟩

theorem read {query : σ → α} (agree : ∀ {s t}, P s t → query s = query t) :
    @Coupled σ ε α P P (Dispatch.read query) (Dispatch.read query) :=
  fun s t related => .inl ⟨query s, s, t, rfl, agree related ▸ rfl, related⟩

theorem write {update : σ → σ} (kept : ∀ {s t}, P s t → Q (update s) (update t)) :
    @Coupled σ ε Unit P Q (Dispatch.write update) (Dispatch.write update) :=
  fun s t related => .inl ⟨(), update s, update t, rfl, rfl, kept related⟩

theorem onlyIf (condition : Prop) [Decidable condition] {first second : Dispatch σ ε Unit}
    (body : Coupled P P first second) :
    Coupled P P (Dispatch.onlyIf condition first) (Dispatch.onlyIf condition second) := by
  unfold Dispatch.onlyIf
  split
  · exact body
  · exact pure ()

/-- Coupled bodies give callers one outcome. -/
theorem outcome_eq {first second : Dispatch σ ε α} (body : Coupled P Q first second) {s t : σ}
    (related : P s t) : outcome (first s) = outcome (second t) := by
  rcases body s t related with
    ⟨value, s', t', ran, otherRan, _⟩ | ⟨failure, s', t', ran, otherRan⟩
  · rw [ran, otherRan]
    rfl
  · rw [ran, otherRan]
    rfl

/-- Inside a storage layer the relation survives a failure as well. -/
theorem withStorageLayer {first second : Dispatch σ ε α} (body : Coupled P Q first second)
    (weaker : ∀ {s t}, P s t → Q s t) {s t : σ} (related : P s t) :
    outcome (Dispatch.withStorageLayer first s) = outcome (Dispatch.withStorageLayer second t) ∧
      Q (finalState (Dispatch.withStorageLayer first s))
        (finalState (Dispatch.withStorageLayer second t)) := by
  rcases body s t related with
    ⟨value, s', t', ran, otherRan, after⟩ | ⟨failure, s', t', ran, otherRan⟩
  · simpa [Dispatch.withStorageLayer, ran, otherRan, outcome, finalState] using after
  · simpa [Dispatch.withStorageLayer, ran, otherRan, outcome, finalState] using weaker related

end Coupled

end Dispatch
