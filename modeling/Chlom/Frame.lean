import Chlom.Library.Dispatch
import Chlom.Library.Runs
import Mathlib.Order.Lattice

/-!
# Dispatching pallet calls on a chain

What the runtime contributes to every pallet: the origin of a call, the current
block, the verdict of the pallet's privileged origin, and the storage layer in
which each dispatched call runs.  A chain is driven by block advances and
submitted calls; the privileged-origin verdict may differ from one submission to
the next, since grants are recorded, revoked and expire outside the pallet.
-/

namespace Chlom.Frame

/-- Who a call claims to come from. -/
inductive RawOrigin (AccountId : Type) where
  | root
  | signed (account : AccountId)
  | none
  deriving DecidableEq

inductive DispatchError (ε : Type) where
  | badOrigin
  | module (error : ε)
  deriving DecidableEq

/-- The error of one pallet among those of a runtime. -/
def DispatchError.map {ε δ : Type} (wrap : ε → δ) : DispatchError ε → DispatchError δ
  | .badOrigin => .badOrigin
  | .module error => .module (wrap error)

/-- The environment a call runs in. -/
structure Env (AccountId BlockNumber : Type) where
  blockNumber : BlockNumber
  permits : RawOrigin AccountId → Bool

variable {AccountId BlockNumber σ ε Call : Type}

/-- The pallet's configured `EnsureOrigin`. -/
def ensureOrigin (env : Env AccountId BlockNumber) (origin : RawOrigin AccountId) :
    Dispatch σ (DispatchError ε) Unit :=
  Dispatch.ensure (env.permits origin = true) .badOrigin

/-- The account that signed the call, if one did. -/
def RawOrigin.signer : RawOrigin AccountId → Option AccountId
  | .signed account => some account
  | _ => .none

def ensureSigned (origin : RawOrigin AccountId) : Dispatch σ (DispatchError ε) AccountId :=
  Dispatch.okOr origin.signer .badOrigin

/-- `ensure!` with an error of the pallet. -/
def ensure (condition : Prop) [Decidable condition] (error : ε) :
    Dispatch σ (DispatchError ε) Unit :=
  Dispatch.ensure condition (.module error)

/-- `ok_or` with an error of the pallet. -/
def okOr {α : Type} (value : Option α) (error : ε) : Dispatch σ (DispatchError ε) α :=
  Dispatch.okOr value (.module error)

instance ensure_readOnly (condition : Prop) [Decidable condition] (error : ε) :
    Dispatch.ReadOnly (ensure condition error : Dispatch σ (DispatchError ε) Unit) :=
  Dispatch.ReadOnly.ensure _ _

instance okOr_readOnly {α : Type} (value : Option α) (error : ε) :
    Dispatch.ReadOnly (okOr value error : Dispatch σ (DispatchError ε) α) :=
  Dispatch.ReadOnly.okOr _ _

instance ensureOrigin_readOnly (env : Env AccountId BlockNumber) (origin : RawOrigin AccountId) :
    Dispatch.ReadOnly (ensureOrigin env origin : Dispatch σ (DispatchError ε) Unit) :=
  Dispatch.ReadOnly.ensure _ _

instance ensureOrigin_atomic (env : Env AccountId BlockNumber) (origin : RawOrigin AccountId) :
    Dispatch.Atomic (ensureOrigin env origin : Dispatch σ (DispatchError ε) Unit) :=
  Dispatch.Atomic.ensure _ _

instance ensureSigned_readOnly (origin : RawOrigin AccountId) :
    Dispatch.ReadOnly (ensureSigned origin : Dispatch σ (DispatchError ε) AccountId) :=
  Dispatch.ReadOnly.okOr _ _

instance ensureSigned_atomic (origin : RawOrigin AccountId) :
    Dispatch.Atomic (ensureSigned origin : Dispatch σ (DispatchError ε) AccountId) :=
  Dispatch.Atomic.okOr _ _

instance ensure_atomic (condition : Prop) [Decidable condition] (error : ε) :
    Dispatch.Atomic (ensure condition error : Dispatch σ (DispatchError ε) Unit) :=
  Dispatch.Atomic.ensure _ _

instance okOr_atomic {α : Type} (value : Option α) (error : ε) :
    Dispatch.Atomic (okOr value error : Dispatch σ (DispatchError ε) α) :=
  Dispatch.Atomic.okOr _ _

@[simp]
theorem signer_eq_some {origin : RawOrigin AccountId} {account : AccountId} :
    origin.signer = some account ↔ origin = .signed account := by
  cases origin <;> simp [RawOrigin.signer]

section Success

variable {β : Type} {s s' : σ} {result : β}

@[simp]
theorem ensureOrigin_bind_ok {env : Env AccountId BlockNumber} {origin : RawOrigin AccountId}
    {next : Unit → Dispatch σ (DispatchError ε) β} :
    (ensureOrigin env origin >>= next) s = .ok result s' ↔
      env.permits origin = true ∧ next () s = .ok result s' :=
  Dispatch.ensure_bind_ok

@[simp]
theorem ensureSigned_bind_ok {origin : RawOrigin AccountId}
    {next : AccountId → Dispatch σ (DispatchError ε) β} :
    (ensureSigned origin >>= next) s = .ok result s' ↔
      ∃ account, origin = .signed account ∧ next account s = .ok result s' := by
  simp [ensureSigned]

@[simp]
theorem ensure_bind_ok {condition : Prop} [Decidable condition] {error : ε}
    {next : Unit → Dispatch σ (DispatchError ε) β} :
    (ensure condition error >>= next) s = .ok result s' ↔
      condition ∧ next () s = .ok result s' :=
  Dispatch.ensure_bind_ok

@[simp]
theorem ensure_ok {condition : Prop} [Decidable condition] {error : ε} {value : Unit} :
    (ensure condition error : Dispatch σ (DispatchError ε) Unit) s = .ok value s' ↔
      condition ∧ s' = s :=
  Dispatch.ensure_ok

@[simp]
theorem okOr_bind_ok {α : Type} {value : Option α} {error : ε}
    {next : α → Dispatch σ (DispatchError ε) β} :
    (okOr value error >>= next) s = .ok result s' ↔
      ∃ found, value = some found ∧ next found s = .ok result s' :=
  Dispatch.okOr_bind_ok

/-- Guards that hold drop out of a body. -/
theorem ensureOrigin_bind_pos {env : Env AccountId BlockNumber} {origin : RawOrigin AccountId}
    {next : Unit → Dispatch σ (DispatchError ε) β} (permitted : env.permits origin = true) :
    (ensureOrigin env origin >>= next) s = next () s :=
  Dispatch.ensure_bind_pos permitted

theorem ensureSigned_bind_signed {account : AccountId}
    {next : AccountId → Dispatch σ (DispatchError ε) β} :
    ensureSigned (.signed account) >>= next = next account :=
  rfl

theorem ensure_bind_pos {condition : Prop} [Decidable condition] {error : ε}
    {next : Unit → Dispatch σ (DispatchError ε) β} (holds : condition) :
    (ensure condition error >>= next) s = next () s :=
  Dispatch.ensure_bind_pos holds

end Success

section Failure

variable {β : Type} {s s' : σ} {failure : DispatchError ε}

theorem ensure_bind_error {condition : Prop} [Decidable condition] {error : ε}
    {next : Unit → Dispatch σ (DispatchError ε) β} :
    (ensure condition error >>= next) s = .error failure s' ↔
      (¬ condition ∧ .module error = failure ∧ s = s') ∨
        (condition ∧ next () s = .error failure s') :=
  Dispatch.ensure_bind_error

theorem okOr_bind_error {α : Type} {value : Option α} {error : ε}
    {next : α → Dispatch σ (DispatchError ε) β} :
    (okOr value error >>= next) s = .error failure s' ↔
      (value = none ∧ .module error = failure ∧ s = s') ∨
        ∃ found, value = some found ∧ next found s = .error failure s' :=
  Dispatch.okOr_bind_error

end Failure

/-! ## Chains -/

/-- The current block and the storage of the pallets under consideration. -/
structure World (BlockNumber σ : Type) where
  now : BlockNumber
  storage : σ

/-- One thing that happens on a chain: time passes, up to a given block, or a
call is submitted and judged by the pallet's privileged origin. -/
inductive Input (AccountId BlockNumber Call : Type) where
  | advance (block : BlockNumber)
  | submit (permits : RawOrigin AccountId → Bool) (origin : RawOrigin AccountId) (call : Call)

/-- The body of every call of a pallet. -/
abbrev Pallet (AccountId BlockNumber σ ε Call : Type) :=
  Env AccountId BlockNumber → RawOrigin AccountId → Call → Dispatch σ (DispatchError ε) Unit

variable [LinearOrder BlockNumber]

/-- Take one input.  The block number never decreases, and a failed call leaves
its storage layer behind unwritten. -/
def step (pallet : Pallet AccountId BlockNumber σ ε Call) (w : World BlockNumber σ) :
    Input AccountId BlockNumber Call →
      World BlockNumber σ × Option (Except (DispatchError ε) Unit)
  | .advance block => ({ w with now := max w.now block }, none)
  | .submit permits origin call =>
      let ran := Dispatch.withStorageLayer (pallet ⟨w.now, permits⟩ origin call) w.storage
      ({ w with storage := Dispatch.finalState ran }, some (Dispatch.outcome ran))

/-- The chain after a list of inputs. -/
abbrev run (pallet : Pallet AccountId BlockNumber σ ε Call) (w : World BlockNumber σ)
    (inputs : List (Input AccountId BlockNumber Call)) : World BlockNumber σ :=
  Runs.run (step pallet) w inputs

/-- The inputs of a run with the result of every submitted call. -/
abbrev trace (pallet : Pallet AccountId BlockNumber σ ε Call) (w : World BlockNumber σ)
    (inputs : List (Input AccountId BlockNumber Call)) :
    List (Input AccountId BlockNumber Call × Option (Except (DispatchError ε) Unit)) :=
  Runs.trace (step pallet) w inputs

section Step

variable {pallet : Pallet AccountId BlockNumber σ ε Call} {w : World BlockNumber σ}

/-- A step lets time pass, changes nothing, or commits a successful call. -/
theorem step_cases (pallet : Pallet AccountId BlockNumber σ ε Call) (w : World BlockNumber σ)
    (input : Input AccountId BlockNumber Call) :
    (∃ block, input = .advance block ∧ (step pallet w input).1 = ⟨max w.now block, w.storage⟩) ∨
    (step pallet w input).1 = w ∨
    (∃ permits origin call s', input = .submit permits origin call ∧
      pallet ⟨w.now, permits⟩ origin call w.storage = .ok () s' ∧
        (step pallet w input).1 = ⟨w.now, s'⟩) := by
  cases input with
  | advance block => exact .inl ⟨block, rfl, rfl⟩
  | submit permits origin call =>
      right
      simp only [step]
      cases ran : pallet ⟨w.now, permits⟩ origin call w.storage with
      | ok value s' =>
          refine .inr ⟨permits, origin, call, s', rfl, ran, ?_⟩
          simp [Dispatch.withStorageLayer, ran, Dispatch.finalState]
      | error error s' =>
          left
          simp [Dispatch.withStorageLayer, ran, Dispatch.finalState]

/-- A successful call commits what it wrote. -/
theorem step_submit_ok {permits : RawOrigin AccountId → Bool} {origin : RawOrigin AccountId}
    {call : Call} {s' : σ} (ran : pallet ⟨w.now, permits⟩ origin call w.storage = .ok () s') :
    (step pallet w (.submit permits origin call)).1 = ⟨w.now, s'⟩ := by
  simp [step, Dispatch.withStorageLayer, ran, Dispatch.finalState]

/-- A run through a successful call goes on from what the call wrote. -/
theorem run_through_submit {inputs later : List (Input AccountId BlockNumber Call)}
    {permits : RawOrigin AccountId → Bool} {origin : RawOrigin AccountId} {call : Call} {s' : σ}
    (ran : pallet ⟨(run pallet w inputs).now, permits⟩ origin call (run pallet w inputs).storage =
      .ok () s') :
    run pallet w (inputs ++ .submit permits origin call :: later) =
      run pallet ⟨(run pallet w inputs).now, s'⟩ later := by
  rw [run, Runs.run_append, Runs.run_cons, step_submit_ok ran]

theorem now_le_step (pallet : Pallet AccountId BlockNumber σ ε Call) (w : World BlockNumber σ)
    (input : Input AccountId BlockNumber Call) : w.now ≤ (step pallet w input).1.now := by
  obtain ⟨block, rfl, after⟩ | after | ⟨permits, origin, call, s', rfl, ran, after⟩ :=
    step_cases pallet w input
  · rw [after]
    exact le_max_left _ _
  · rw [after]
  · rw [after]

/-- A property of the current block and the storage that survives the passing
of time and every successful call. -/
structure Invariant (pallet : Pallet AccountId BlockNumber σ ε Call)
    (Inv : BlockNumber → σ → Prop) : Prop where
  passes : ∀ {now later : BlockNumber} {s : σ}, now ≤ later → Inv now s → Inv later s
  keeps : ∀ {env : Env AccountId BlockNumber} {origin : RawOrigin AccountId} {call : Call}
    {s s' : σ}, Inv env.blockNumber s → pallet env origin call s = .ok () s' →
      Inv env.blockNumber s'

/-- An invariant holds after every run that starts under it. -/
theorem Invariant.run {Inv : BlockNumber → σ → Prop} (invariant : Invariant pallet Inv)
    (start : Inv w.now w.storage) (inputs : List (Input AccountId BlockNumber Call)) :
    Inv (run pallet w inputs).now (run pallet w inputs).storage := by
  refine Runs.invariant_run
    (fun current : World BlockNumber σ => Inv current.now current.storage) ?_ start inputs
  intro current input holds
  obtain ⟨block, rfl, after⟩ | after | ⟨permits, origin, call, s', rfl, ran, after⟩ :=
    step_cases pallet current input
  · rw [after]
    exact invariant.passes (le_max_left _ _) holds
  · rw [after]
    exact holds
  · rw [after]
    exact @Invariant.keeps _ _ _ _ _ _ _ _ invariant ⟨current.now, permits⟩ _ _ _ _ holds ran

/-- What every successful call under an invariant preserves lasts through every
run that starts under it. -/
theorem Invariant.lasts {Inv : BlockNumber → σ → Prop} (invariant : Invariant pallet Inv)
    {P : σ → Prop}
    (kept : ∀ {env : Env AccountId BlockNumber} {origin : RawOrigin AccountId} {call : Call}
      {s s' : σ}, Inv env.blockNumber s → pallet env origin call s = .ok () s' → P s → P s')
    (start : Inv w.now w.storage) (holds : P w.storage)
    (inputs : List (Input AccountId BlockNumber Call)) :
    P (Frame.run pallet w inputs).storage := by
  have both : Invariant pallet (fun now s => Inv now s ∧ P s) :=
    { passes := fun passed pair => ⟨invariant.passes passed pair.1, pair.2⟩
      keeps := fun pair ran => ⟨invariant.keeps pair.1 ran, kept pair.1 ran pair.2⟩ }
  exact (both.run ⟨start, holds⟩ inputs).2

theorem run_append (inputs later : List (Input AccountId BlockNumber Call)) :
    run pallet w (inputs ++ later) = run pallet (run pallet w inputs) later :=
  Runs.run_append w inputs later

/-- What a run makes of the storage began with an accepted call of it. -/
theorem exists_accepted (P : σ → Prop) {inputs : List (Input AccountId BlockNumber Call)}
    (start : ¬ P w.storage) (holds : P (run pallet w inputs).storage) :
    ∃ before permits origin call after s',
      inputs = before ++ .submit permits origin call :: after ∧
        ¬ P (run pallet w before).storage ∧
        pallet ⟨(run pallet w before).now, permits⟩ origin call (run pallet w before).storage =
          .ok () s' ∧ P s' := by
  obtain ⟨before, input, after, rfl, earlier, onset⟩ :=
    @Runs.exists_onset _ _ _ _ (fun current : World BlockNumber σ => P current.storage) _ _ start
      holds
  obtain ⟨block, rfl, stepped⟩ | stepped | ⟨permits, origin, call, s', rfl, ran, stepped⟩ :=
    step_cases pallet (run pallet w before) input
  · rw [stepped] at onset
    exact absurd onset earlier
  · rw [stepped] at onset
    exact absurd onset earlier
  · rw [stepped] at onset
    exact ⟨before, permits, origin, call, after, s', rfl, earlier, ran, onset⟩

/-- A preorder that every successful call follows relates the storage of a run to
what any continuation makes of it. -/
theorem preorder_run {Later : σ → σ → Prop} (reflexive : ∀ s, Later s s)
    (transitive : ∀ {s t u}, Later s t → Later t u → Later s u)
    (follows : ∀ {env : Env AccountId BlockNumber} {origin : RawOrigin AccountId} {call : Call}
      {s s' : σ}, pallet env origin call s = .ok () s' → Later s s')
    (inputs later : List (Input AccountId BlockNumber Call)) :
    Later (run pallet w inputs).storage (run pallet w (inputs ++ later)).storage := by
  rw [run_append]
  have always : Invariant pallet fun _ _ => True := ⟨fun _ _ => trivial, fun _ _ => trivial⟩
  exact always.lasts (fun _ done before => transitive before (follows done)) trivial
    (reflexive _) later

/-! ### Accepted calls -/

/-- The call of an entry of a trace, if it succeeded. -/
def acceptedCall : Input AccountId BlockNumber Call × Option (Except (DispatchError ε) Unit) →
    Option Call
  | (.submit _ _ call, some (.ok ())) => some call
  | _ => none

/-- The calls of a trace that succeeded, in order. -/
def accepted (entries : List (Input AccountId BlockNumber Call ×
    Option (Except (DispatchError ε) Unit))) : List Call :=
  entries.filterMap acceptedCall

/-- A property of the calls accepted so far and the storage that every
successful call extends. -/
structure LogInvariant (pallet : Pallet AccountId BlockNumber σ ε Call)
    (Inv : List Call → σ → Prop) : Prop where
  keeps : ∀ {env : Env AccountId BlockNumber} {origin : RawOrigin AccountId} {call : Call}
    {calls : List Call} {s s' : σ}, Inv calls s → pallet env origin call s = .ok () s' →
      Inv (calls ++ [call]) s'

/-- A log invariant holds of the calls that any run accepts. -/
theorem LogInvariant.run {Inv : List Call → σ → Prop} (invariant : LogInvariant pallet Inv)
    (start : Inv [] w.storage) (inputs : List (Input AccountId BlockNumber Call)) :
    Inv (accepted (trace pallet w inputs)) (Frame.run pallet w inputs).storage := by
  refine Runs.invariant_trace
    (fun entries current => Inv (accepted entries) (World.storage current)) ?_ start inputs
  intro entries current input holds
  rw [accepted, List.filterMap_append, ← accepted]
  cases input with
  | advance block =>
      change Inv (accepted entries ++ []) current.storage
      rw [List.append_nil]
      exact holds
  | submit permits origin call =>
      simp only [step]
      cases ran : pallet ⟨current.now, permits⟩ origin call current.storage with
      | ok value s' =>
          simp only [Dispatch.withStorageLayer, ran]
          exact invariant.keeps holds ran
      | error error s' =>
          simp only [Dispatch.withStorageLayer, ran]
          change Inv (accepted entries ++ []) current.storage
          rw [List.append_nil]
          exact holds

end Step

end Chlom.Frame
