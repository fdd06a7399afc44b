import Mathlib.Logic.Basic

/-!
# Fallible calls on a storage

A call body reads and writes a storage and may stop with an error; what it
wrote before the error stays written.  The storage layer around a dispatched
call undoes those writes.  The rules below turn the success of a body into the
conjunction of its guards, and show that a body whose writes all come after its
guards leaves nothing behind when it fails.
-/

/-- A call body over a storage `σ`, with errors `ε` and result `α`. -/
abbrev Dispatch (σ ε α : Type) := EStateM ε σ α

namespace Dispatch

variable {σ ε α β : Type}

/-- Stop with an error unless the condition holds. -/
def ensure (condition : Prop) [Decidable condition] (error : ε) : Dispatch σ ε Unit :=
  fun s => if condition then .ok () s else .error error s

/-- Read something off the storage. -/
def read (query : σ → α) : Dispatch σ ε α :=
  fun s => .ok (query s) s

/-- Change the storage. -/
def write (update : σ → σ) : Dispatch σ ε Unit :=
  fun s => .ok () (update s)

/-- Unwrap an optional value or stop with an error. -/
def okOr (value : Option α) (error : ε) : Dispatch σ ε α :=
  fun s => match value with
    | some found => .ok found s
    | none => .error error s

/-- Go on with the value of a computation or stop with its error. -/
def ofExcept (computed : Except ε α) : Dispatch σ ε α :=
  fun s => match computed with
    | .ok value => .ok value s
    | .error error => .error error s

/-- Run a check only under a condition. -/
def onlyIf (condition : Prop) [Decidable condition] (body : Dispatch σ ε Unit) :
    Dispatch σ ε Unit :=
  if condition then body else pure ()

/-- Run a check or a write on a value that may be absent. -/
def ifSome (value : Option α) (body : α → Dispatch σ ε Unit) : Dispatch σ ε Unit :=
  match value with
  | none => pure ()
  | some found => body found

/-- Run a body on one part of a larger storage. -/
def zoom {τ δ : Type} (view : τ → σ) (update : τ → σ → τ) (mapError : ε → δ)
    (body : Dispatch σ ε α) : Dispatch τ δ α :=
  fun s => match body (view s) with
    | .ok value part => .ok value (update s part)
    | .error error part => .error (mapError error) (update s part)

/-- Run a body inside a storage layer, which discards the writes of a failure. -/
def withStorageLayer (body : Dispatch σ ε α) : Dispatch σ ε α :=
  fun s => match body s with
    | .ok value s' => .ok value s'
    | .error error _ => .error error s

/-- Run a body.  If it fails its writes are undone, and a handler runs if it catches the
error. -/
def rescue (catches : ε → Bool) (body : Dispatch σ ε α) (handler : ε → Dispatch σ ε α) :
    Dispatch σ ε α :=
  fun s => match body s with
    | .ok value s' => .ok value s'
    | .error error _ => if catches error then handler error s else .error error s

section Rescue

variable {catches : ε → Bool} {body : Dispatch σ ε α} {handler : ε → Dispatch σ ε α} {s s' : σ}
  {value : α} {error : ε}

theorem rescue_of_ok (ran : body s = .ok value s') :
    rescue catches body handler s = .ok value s' := by
  rw [rescue, ran]

theorem rescue_of_caught (ran : body s = .error error s') (caught : catches error = true) :
    rescue catches body handler s = handler error s := by
  simp only [rescue, ran, caught, if_true]

/-- A rescued body succeeds by itself or by its handler. -/
theorem rescue_ok : rescue catches body handler s = .ok value s' ↔ body s = .ok value s' ∨
    ∃ error middle, body s = .error error middle ∧ catches error = true ∧
      handler error s = .ok value s' := by
  cases ran : body s with
  | ok found after => simp [rescue, ran]
  | error error middle => by_cases caught : catches error = true <;> simp [rescue, ran, caught]

end Rescue

/-- The storage a run leaves behind. -/
def finalState : EStateM.Result ε σ α → σ
  | .ok _ s => s
  | .error _ s => s

/-- The outcome a caller sees. -/
def outcome : EStateM.Result ε σ α → Except ε α
  | .ok value _ => .ok value
  | .error error _ => .error error

/-- Run a body for its outcome, which is no failure of the caller. -/
def attempt (body : Dispatch σ ε α) : Dispatch σ ε (Except ε α) :=
  fun s => .ok (outcome (body s)) (finalState (body s))

/-- A successful outcome leaves the final storage behind. -/
theorem eq_ok_of_outcome {ran : EStateM.Result ε σ α} {value : α}
    (succeeded : outcome ran = .ok value) : ran = .ok value (finalState ran) := by
  cases ran with
  | ok found s =>
      obtain rfl := Except.ok.inj succeeded
      rfl
  | error failure s => cases succeeded

theorem ended_ok {ran : EStateM.Result ε σ α} {s : σ} {value : α} :
    (finalState ran, outcome ran) = (s, .ok value) ↔ ran = .ok value s := by
  cases ran <;> simp [finalState, outcome, and_comm]

theorem ended_error {ran : EStateM.Result ε σ α} {s : σ} {failure : ε} :
    (finalState ran, outcome ran) = (s, .error failure) ↔ ran = .error failure s := by
  cases ran <;> simp [finalState, outcome, and_comm]

/-- What holds before a storage layer and after every success inside it holds
after the layer. -/
theorem finalState_withStorageLayer {P : σ → Prop} {body : Dispatch σ ε α} {s : σ} (start : P s)
    (keeps : ∀ value s', body s = .ok value s' → P s') :
    P (finalState (withStorageLayer body s)) := by
  rw [withStorageLayer]
  cases ran : body s with
  | ok value s' => exact keeps value s' ran
  | error failure s' => exact start

/-! ## Success of a body is the conjunction of its guards -/

section Success

variable {s s' : σ} {result : β}

theorem bind_ok {body : Dispatch σ ε α} {next : α → Dispatch σ ε β} :
    (body >>= next) s = .ok result s' ↔
      ∃ value middle, body s = .ok value middle ∧ next value middle = .ok result s' := by
  change EStateM.bind body next s = _ ↔ _
  unfold EStateM.bind
  cases body s <;> simp [and_assoc]

theorem bind_of_ok {body : Dispatch σ ε α} {value : α} {next : α → Dispatch σ ε β}
    (ran : body s = .ok value s') : (body >>= next) s = next value s' := by
  change EStateM.bind body next s = _
  simp [EStateM.bind, ran]

theorem bind_of_error {body : Dispatch σ ε α} {failure : ε} {next : α → Dispatch σ ε β}
    (ran : body s = .error failure s') : (body >>= next) s = .error failure s' := by
  change EStateM.bind body next s = _
  simp [EStateM.bind, ran]

theorem map_ok {body : Dispatch σ ε α} {f : α → β} :
    (f <$> body) s = .ok result s' ↔ ∃ value, body s = .ok value s' ∧ f value = result := by
  change EStateM.map f body s = _ ↔ _
  unfold EStateM.map
  cases body s <;> simp [and_assoc, and_comm]

theorem bind_unit_ok {body : Dispatch σ ε Unit} {next : Unit → Dispatch σ ε β} :
    (body >>= next) s = .ok result s' ↔
      ∃ middle, body s = .ok () middle ∧ next () middle = .ok result s' := by
  rw [bind_ok]
  exact ⟨fun ⟨_, middle, ran, rest⟩ => ⟨middle, ran, rest⟩,
    fun ⟨middle, ran, rest⟩ => ⟨(), middle, ran, rest⟩⟩

@[simp]
theorem pure_apply {value : α} : (pure value : Dispatch σ ε α) s = .ok value s :=
  rfl

@[simp]
theorem ensure_ok {condition : Prop} [Decidable condition] {error : ε} {value : Unit} :
    ensure condition error s = .ok value s' ↔ condition ∧ s' = s := by
  unfold ensure
  split <;> simp_all [eq_comm]

@[simp]
theorem ensure_bind_ok {condition : Prop} [Decidable condition] {error : ε}
    {next : Unit → Dispatch σ ε β} :
    (ensure condition error >>= next) s = .ok result s' ↔
      condition ∧ next () s = .ok result s' := by
  simp only [bind_ok, ensure_ok]
  constructor
  · rintro ⟨_, _, ⟨holds, rfl⟩, rest⟩
    exact ⟨holds, rest⟩
  · rintro ⟨holds, rest⟩
    exact ⟨(), s, ⟨holds, rfl⟩, rest⟩

@[simp]
theorem okOr_bind_ok {value : Option α} {error : ε} {next : α → Dispatch σ ε β} :
    (okOr value error >>= next) s = .ok result s' ↔
      ∃ found, value = some found ∧ next found s = .ok result s' := by
  rw [bind_ok]
  cases value with
  | none => simp [okOr]
  | some found => simp [okOr, and_assoc]

theorem ofExcept_ok {computed : Except ε α} {value : α} :
    ofExcept computed s = .ok value s' ↔ computed = .ok value ∧ s' = s := by
  cases computed with
  | ok found => simp [ofExcept, eq_comm]
  | error failure => simp [ofExcept]

@[simp]
theorem ofExcept_bind_ok {computed : Except ε α} {next : α → Dispatch σ ε β} :
    (ofExcept computed >>= next) s = .ok result s' ↔
      ∃ value, computed = .ok value ∧ next value s = .ok result s' := by
  rw [bind_ok]
  cases computed with
  | ok found => simp [ofExcept, and_assoc]
  | error failure => simp [ofExcept]

/-- A body that leaves the storage alone whenever it succeeds. -/
class ReadOnly (body : Dispatch σ ε α) : Prop where
  unchanged : ∀ {s s' : σ} {value : α}, body s = .ok value s' → s' = s

namespace ReadOnly

instance pure (value : α) : ReadOnly (Pure.pure value : Dispatch σ ε α) where
  unchanged ran := (EStateM.Result.ok.inj ran).2.symm

instance ensure (condition : Prop) [Decidable condition] (error : ε) :
    @ReadOnly σ ε Unit (Dispatch.ensure condition error) where
  unchanged ran := (ensure_ok.mp ran).2

instance okOr (value : Option α) (error : ε) : @ReadOnly σ ε α (Dispatch.okOr value error) where
  unchanged ran := by
    cases value with
    | none => cases ran
    | some found => exact (EStateM.Result.ok.inj ran).2.symm

instance ofExcept (computed : Except ε α) : @ReadOnly σ ε α (Dispatch.ofExcept computed) where
  unchanged ran := (ofExcept_ok.mp ran).2

instance read (query : σ → α) : @ReadOnly σ ε α (Dispatch.read query) where
  unchanged ran := (EStateM.Result.ok.inj ran).2.symm

instance bind {body : Dispatch σ ε α} {next : α → Dispatch σ ε β} [first : ReadOnly body]
    [second : ∀ value, ReadOnly (next value)] : ReadOnly (body >>= next) where
  unchanged ran := by
    obtain ⟨value, middle, ranFirst, ranSecond⟩ := Dispatch.bind_ok.mp ran
    rw [(second value).unchanged ranSecond, first.unchanged ranFirst]

instance onlyIf (condition : Prop) [Decidable condition] (body : Dispatch σ ε Unit)
    [readOnly : ReadOnly body] : ReadOnly (Dispatch.onlyIf condition body) := by
  unfold Dispatch.onlyIf
  split
  · exact readOnly
  · exact pure ()

instance ifSome (value : Option α) (body : α → Dispatch σ ε Unit)
    [readOnly : ∀ found, ReadOnly (body found)] : ReadOnly (Dispatch.ifSome value body) := by
  cases value with
  | none => exact pure ()
  | some found => exact readOnly found

end ReadOnly

theorem ifSome_bind_ok {value : Option α} {body : α → Dispatch σ ε Unit}
    {next : Unit → Dispatch σ ε β} :
    (ifSome value body >>= next) s = .ok result s' ↔
      ∃ middle, (∀ found, value = some found → body found s = .ok () middle) ∧
        (value = none → middle = s) ∧ next () middle = .ok result s' := by
  rw [bind_unit_ok]
  cases value with
  | none => simp [ifSome, pure, EStateM.pure, eq_comm]
  | some found => simp [ifSome]

theorem ReadOnly.bind_ok {body : Dispatch σ ε Unit} [readOnly : ReadOnly body]
    {next : Unit → Dispatch σ ε β} :
    (body >>= next) s = .ok result s' ↔ body s = .ok () s ∧ next () s = .ok result s' := by
  rw [bind_unit_ok]
  constructor
  · rintro ⟨middle, ran, rest⟩
    obtain rfl := readOnly.unchanged ran
    exact ⟨ran, rest⟩
  · rintro ⟨ran, rest⟩
    exact ⟨s, ran, rest⟩

/-- A conditional check holds wherever its condition does. -/
theorem onlyIf_bind_ok {condition : Prop} [Decidable condition] {body : Dispatch σ ε Unit}
    [ReadOnly body] {next : Unit → Dispatch σ ε β} :
    (onlyIf condition body >>= next) s = .ok result s' ↔
      (condition → body s = .ok () s) ∧ next () s = .ok result s' := by
  rw [ReadOnly.bind_ok]
  by_cases holds : condition <;> simp [onlyIf, holds]

/-- A check of a value that may be absent holds of the value that is present. -/
theorem ifSome_check_bind_ok {value : Option α} {body : α → Dispatch σ ε Unit}
    [∀ found, ReadOnly (body found)] {next : Unit → Dispatch σ ε β} :
    (ifSome value body >>= next) s = .ok result s' ↔
      (∀ found, value = some found → body found s = .ok () s) ∧ next () s = .ok result s' := by
  rw [ReadOnly.bind_ok]
  cases value <;> simp [ifSome]

theorem zoom_ok {τ δ : Type} {view : τ → σ} {update : τ → σ → τ} {mapError : ε → δ}
    {body : Dispatch σ ε α} {value : α} {whole whole' : τ} :
    zoom view update mapError body whole = .ok value whole' ↔
      ∃ part, body (view whole) = .ok value part ∧ whole' = update whole part := by
  unfold zoom
  cases body (view whole) <;> simp [eq_comm, and_assoc]

@[simp]
theorem read_bind {query : σ → α} {next : α → Dispatch σ ε β} :
    (read query >>= next) s = next (query s) s :=
  rfl

@[simp]
theorem write_bind {update : σ → σ} {next : Unit → Dispatch σ ε β} :
    (write update >>= next) s = next () (update s) :=
  rfl

@[simp]
theorem write_apply {update : σ → σ} :
    (write update : Dispatch σ ε Unit) s = .ok () (update s) :=
  rfl

theorem ensure_bind_pos {condition : Prop} [Decidable condition] {error : ε}
    {next : Unit → Dispatch σ ε β} (holds : condition) :
    (ensure condition error >>= next) s = next () s := by
  change EStateM.bind (ensure condition error) next s = _
  simp [EStateM.bind, ensure, holds]

theorem ensure_bind_neg {condition : Prop} [Decidable condition] {error : ε}
    {next : Unit → Dispatch σ ε β} (fails : ¬ condition) :
    (ensure condition error >>= next) s = .error error s := by
  change EStateM.bind (ensure condition error) next s = _
  simp [EStateM.bind, ensure, fails]

theorem ofExcept_bind_of_ok {computed : Except ε α} {value : α} {next : α → Dispatch σ ε β}
    (found : computed = .ok value) : (ofExcept computed >>= next) s = next value s := by
  subst found
  rfl

theorem okOr_bind_some {value : Option α} {found : α} {error : ε} {next : α → Dispatch σ ε β}
    (present : value = some found) :
    (okOr value error >>= next) s = next found s := by
  subst present
  rfl

end Success

/-! ## Failure of a body is the failure of one of its guards -/

section Failure

variable {s s' : σ} {failure : ε}

theorem bind_error {body : Dispatch σ ε α} {next : α → Dispatch σ ε β} :
    (body >>= next) s = .error failure s' ↔
      body s = .error failure s' ∨
        ∃ value middle, body s = .ok value middle ∧ next value middle = .error failure s' := by
  change EStateM.bind body next s = _ ↔ _
  unfold EStateM.bind
  cases body s <;> simp [and_assoc]

theorem ensure_error {condition : Prop} [Decidable condition] {error : ε} :
    ensure condition error s = .error failure s' ↔ ¬ condition ∧ error = failure ∧ s = s' := by
  unfold ensure
  split <;> simp_all

theorem ensure_bind_error {condition : Prop} [Decidable condition] {error : ε}
    {next : Unit → Dispatch σ ε β} :
    (ensure condition error >>= next) s = .error failure s' ↔
      (¬ condition ∧ error = failure ∧ s = s') ∨
        (condition ∧ next () s = .error failure s') := by
  by_cases holds : condition
  · simp [ensure_bind_pos, holds]
  · simp [ensure_bind_neg, holds]

theorem okOr_bind_error {value : Option α} {error : ε} {next : α → Dispatch σ ε β} :
    (okOr value error >>= next) s = .error failure s' ↔
      (value = none ∧ error = failure ∧ s = s') ∨
        ∃ found, value = some found ∧ next found s = .error failure s' := by
  cases value with
  | none => simp [bind_error, okOr]
  | some found => simp [okOr_bind_some]

end Failure

/-! ## Bodies that write only after their last guard -/

/-- A body that never stops with an error. -/
class Infallible (body : Dispatch σ ε α) : Prop where
  succeeds : ∀ s, ∃ value s', body s = .ok value s'

/-- A body that leaves the storage alone whenever it stops with an error. -/
class Atomic (body : Dispatch σ ε α) : Prop where
  unchanged : ∀ {s s' : σ} {failure : ε}, body s = .error failure s' → s' = s

namespace Infallible

instance pure (value : α) : Infallible (Pure.pure value : Dispatch σ ε α) where
  succeeds s := ⟨value, s, rfl⟩

instance read (query : σ → α) : @Infallible σ ε α (Dispatch.read query) where
  succeeds s := ⟨query s, s, rfl⟩

instance write (update : σ → σ) : @Infallible σ ε Unit (Dispatch.write update) where
  succeeds s := ⟨(), update s, rfl⟩

instance bind {body : Dispatch σ ε α} {next : α → Dispatch σ ε β} [first : Infallible body]
    [second : ∀ value, Infallible (next value)] : Infallible (body >>= next) where
  succeeds s := by
    obtain ⟨value, middle, ran⟩ := first.succeeds s
    obtain ⟨result, s', rest⟩ := (second value).succeeds middle
    exact ⟨result, s', bind_ok.mpr ⟨value, middle, ran, rest⟩⟩

instance ifSome (value : Option α) (body : α → Dispatch σ ε Unit)
    [infallible : ∀ found, Infallible (body found)] : Infallible (Dispatch.ifSome value body) := by
  cases value with
  | none => exact pure ()
  | some found => exact infallible found

instance onlyIf (condition : Prop) [Decidable condition] (body : Dispatch σ ε Unit)
    [infallible : Infallible body] : Infallible (Dispatch.onlyIf condition body) := by
  unfold Dispatch.onlyIf
  split
  · exact infallible
  · exact pure ()

end Infallible

namespace Atomic

instance ensure (condition : Prop) [Decidable condition] (error : ε) :
    @Atomic σ ε Unit (Dispatch.ensure condition error) where
  unchanged ran := (ensure_error.mp ran).2.2.symm

instance okOr (value : Option α) (error : ε) : @Atomic σ ε α (Dispatch.okOr value error) where
  unchanged ran := by
    cases value with
    | none => exact (EStateM.Result.error.inj ran).2.symm
    | some found => cases ran

instance ofExcept (computed : Except ε α) : @Atomic σ ε α (Dispatch.ofExcept computed) where
  unchanged ran := by
    cases computed with
    | ok value => cases ran
    | error failure => exact (EStateM.Result.error.inj ran).2.symm

instance infallible {body : Dispatch σ ε α} [always : Infallible body] : Atomic body where
  unchanged {s _ _} ran := by
    obtain ⟨value, after, succeeded⟩ := always.succeeds s
    cases succeeded.symm.trans ran

/-- A check may come before anything atomic. -/
theorem check {body : Dispatch σ ε α} {next : α → Dispatch σ ε β} [first : Atomic body]
    [readOnly : ReadOnly body] (second : ∀ value, Atomic (next value)) :
    Atomic (body >>= next) where
  unchanged ran := by
    rcases bind_error.mp ran with stopped | ⟨value, middle, ranFirst, ranSecond⟩
    · exact first.unchanged stopped
    · rw [(second value).unchanged ranSecond, readOnly.unchanged ranFirst]

/-- Anything that cannot fail may come after an atomic body. -/
instance bind_infallible {body : Dispatch σ ε α} {next : α → Dispatch σ ε β}
    [first : Atomic body] [second : ∀ value, Infallible (next value)] :
    Atomic (body >>= next) where
  unchanged ran := by
    rcases bind_error.mp ran with stopped | ⟨value, middle, _, ranSecond⟩
    · exact first.unchanged stopped
    · obtain ⟨result, after, succeeded⟩ := (second value).succeeds middle
      cases succeeded.symm.trans ranSecond

instance ifSome (value : Option α) (body : α → Dispatch σ ε Unit)
    [atomic : ∀ found, Atomic (body found)] : Atomic (Dispatch.ifSome value body) := by
  cases value with
  | none =>
      change Atomic (Pure.pure () : Dispatch σ ε Unit)
      infer_instance
  | some found => exact atomic found

instance onlyIf (condition : Prop) [Decidable condition] (body : Dispatch σ ε Unit)
    [atomic : Atomic body] : Atomic (Dispatch.onlyIf condition body) := by
  unfold Dispatch.onlyIf
  split
  · exact atomic
  · infer_instance

instance ite (condition : Prop) [Decidable condition] (first second : Dispatch σ ε α)
    [firstAtomic : Atomic first] [secondAtomic : Atomic second] :
    Atomic (if condition then first else second) := by
  split
  · exact firstAtomic
  · exact secondAtomic

/-- Checks alone leave nothing behind, whichever of them fails. -/
instance bind_check {body : Dispatch σ ε α} {next : α → Dispatch σ ε β} [Atomic body]
    [ReadOnly body] [second : ∀ value, Atomic (next value)] : Atomic (body >>= next) :=
  check second

end Atomic

end Dispatch
