import Mathlib.Data.List.Basic

/-!
# Programs that read and write under locks

A program acquires locks, reads the shared state, writes to it, and ends with a
value or a failure.  Each lock protects a part of the state.  When a program runs
beside others, what it reads is certain only in the parts whose locks it holds; a
safe program writes to no other parts.
-/

namespace Locking

/-- A program over the state `σ` with lock names `K`, failures `ε` and values `α`. -/
inductive Prog (σ K ε α : Type) where
  | done (value : α)
  | raise (failure : ε)
  | lock (name : K) (next : Prog σ K ε α)
  | read (next : σ → Prog σ K ε α)
  | write (update : σ → σ) (next : Prog σ K ε α)

/-- The part of the state that each lock protects. -/
structure Parts (σ K : Type) where
  Part : K → Type
  part : (name : K) → σ → Part name

variable {σ K ε α β : Type}

namespace Prog

def bind : Prog σ K ε α → (α → Prog σ K ε β) → Prog σ K ε β
  | done value, f => f value
  | raise failure, _ => raise failure
  | lock name next, f => lock name (next.bind f)
  | read next, f => read fun s => (next s).bind f
  | write update next, f => write update (next.bind f)

instance : Monad (Prog σ K ε) where
  pure := done
  bind := bind

theorem bind_assoc {γ : Type} (p : Prog σ K ε α) (f : α → Prog σ K ε β) (g : β → Prog σ K ε γ) :
    p >>= f >>= g = p >>= fun value => f value >>= g := by
  change (p.bind f).bind g = p.bind fun value => (f value).bind g
  induction p with
  | done value => rfl
  | raise failure => rfl
  | lock name next ih => exact congrArg (lock name) ih
  | read next ih => exact congrArg read (funext ih)
  | write update next ih => exact congrArg (write update) ih

def acquire (name : K) : Prog σ K ε Unit :=
  lock name (done ())

def query (f : σ → α) : Prog σ K ε α :=
  read fun s => done (f s)

def update (f : σ → σ) : Prog σ K ε Unit :=
  write f (done ())

def ensure (condition : Prop) [Decidable condition] (failure : ε) : Prog σ K ε Unit :=
  if condition then done () else raise failure

def okOr (value : Option α) (failure : ε) : Prog σ K ε α :=
  match value with
  | some found => done found
  | none => raise failure

/-! ## Running alone -/

/-- Run a program with the state to itself. -/
def eval : Prog σ K ε α → σ → Except ε α × σ
  | done value, s => (.ok value, s)
  | raise failure, s => (.error failure, s)
  | lock _ next, s => next.eval s
  | read next, s => (next s).eval s
  | write f next, s => next.eval (f s)

section Eval

variable {s : σ}

theorem eval_bind {p : Prog σ K ε α} {f : α → Prog σ K ε β} :
    (p >>= f).eval s =
      match p.eval s with
      | (.ok value, s') => (f value).eval s'
      | (.error failure, s') => (.error failure, s') := by
  change (p.bind f).eval s = _
  induction p generalizing s with
  | done value => rfl
  | raise failure => rfl
  | lock name next ih => exact ih
  | read next ih => exact ih s
  | write g next ih => exact ih

@[simp]
theorem eval_pure {value : α} : (pure value : Prog σ K ε α).eval s = (.ok value, s) :=
  rfl

@[simp]
theorem eval_acquire_bind {name : K} {f : Unit → Prog σ K ε β} :
    (acquire name >>= f).eval s = (f ()).eval s :=
  rfl

@[simp]
theorem eval_query_bind {g : σ → α} {f : α → Prog σ K ε β} :
    (query g >>= f).eval s = (f (g s)).eval s :=
  rfl

@[simp]
theorem eval_update {g : σ → σ} : (update g : Prog σ K ε Unit).eval s = (.ok (), g s) :=
  rfl

@[simp]
theorem eval_update_bind {g : σ → σ} {f : Unit → Prog σ K ε β} :
    (update g >>= f).eval s = (f ()).eval (g s) :=
  rfl

@[simp]
theorem eval_ensure {condition : Prop} [Decidable condition] {failure : ε} :
    (ensure condition failure : Prog σ K ε Unit).eval s =
      if condition then (.ok (), s) else (.error failure, s) := by
  by_cases holds : condition <;> simp [ensure, holds, eval]

@[simp]
theorem eval_ensure_bind {condition : Prop} [Decidable condition] {failure : ε}
    {f : Unit → Prog σ K ε β} :
    (ensure condition failure >>= f).eval s =
      if condition then (f ()).eval s else (.error failure, s) := by
  by_cases holds : condition <;> simp [eval_bind, holds]

theorem eval_bind_ok {p : Prog σ K ε α} {f : α → Prog σ K ε β} {value : β} {s' : σ} :
    (p >>= f).eval s = (.ok value, s') ↔
      ∃ first middle, p.eval s = (.ok first, middle) ∧ (f first).eval middle = (.ok value, s') := by
  rw [eval_bind]
  cases ended : p.eval s with
  | mk result middle =>
      cases result with
      | ok first => simp
      | error failure => simp

theorem eval_ensure_bind_ok {condition : Prop} [Decidable condition] {failure : ε}
    {f : Unit → Prog σ K ε β} {value : β} {s' : σ} :
    (ensure condition failure >>= f).eval s = (.ok value, s') ↔
      condition ∧ (f ()).eval s = (.ok value, s') := by
  by_cases holds : condition <;> simp [holds]

theorem eval_okOr_bind_ok {found : Option α} {failure : ε} {f : α → Prog σ K ε β} {value : β}
    {s' : σ} : (okOr found failure >>= f).eval s = (.ok value, s') ↔
      ∃ first, found = some first ∧ (f first).eval s = (.ok value, s') := by
  cases found with
  | none => simp [eval_bind, okOr, eval]
  | some first => simp [eval_bind, okOr, eval]

theorem eval_okOr_bind_some {found : Option α} {value : α} {failure : ε} {f : α → Prog σ K ε β}
    (present : found = some value) : (okOr found failure >>= f).eval s = (f value).eval s := by
  subst present
  rfl

end Eval

/-- Run a program as one statement, whose failure undoes its writes. -/
def statement (p : Prog σ K ε α) (s : σ) : σ × Except ε α :=
  match p.eval s with
  | (.ok value, s') => (s', .ok value)
  | (.error failure, _) => (s, .error failure)

theorem statement_ok {p : Prog σ K ε α} {s s' : σ} {value : α} :
    p.statement s = (s', .ok value) ↔ p.eval s = (.ok value, s') := by
  unfold statement
  cases ended : p.eval s with
  | mk result after =>
      cases result with
      | ok found => simp [and_comm]
      | error failure => simp

theorem statement_error {p : Prog σ K ε α} {s s' : σ} {failure : ε}
    (ran : p.statement s = (s', .error failure)) : s' = s := by
  unfold statement at ran
  split at ran
  · cases ran
  · cases ran
    rfl

end Prog

/-! ## Running beside others -/

variable {parts : Parts σ K}

/-- Two states have the same parts under some locks. -/
def AgreeOn (parts : Parts σ K) (held : List K) (s s' : σ) : Prop :=
  ∀ name ∈ held, parts.part name s = parts.part name s'

theorem AgreeOn.refl {held : List K} {s : σ} : AgreeOn parts held s s :=
  fun _ _ => rfl

theorem AgreeOn.symm {held : List K} {s s' : σ} (agree : AgreeOn parts held s s') :
    AgreeOn parts held s' s :=
  fun name member => (agree name member).symm

theorem AgreeOn.trans {held : List K} {s s' s'' : σ} (first : AgreeOn parts held s s')
    (second : AgreeOn parts held s' s'') : AgreeOn parts held s s'' :=
  fun name member => (first name member).trans (second name member)

theorem AgreeOn.mono {held more : List K} {s s' : σ} (agree : AgreeOn parts more s s')
    (subset : held ⊆ more) : AgreeOn parts held s s' :=
  fun name member => agree name (subset member)

/-- How a program ended: the state it left, the locks it holds and its result. -/
structure Ended (σ K ε α : Type) where
  state : σ
  held : List K
  result : Except ε α

/-- A program can end so from a state under some locks.  A read sees any state that
agrees with the own one in the parts whose locks are held. -/
def Runs (parts : Parts σ K) : Prog σ K ε α → σ → List K → Ended σ K ε α → Prop
  | .done value, s, held, out => out = ⟨s, held, .ok value⟩
  | .raise failure, s, held, out => out = ⟨s, held, .error failure⟩
  | .lock name next, s, held, out => Runs parts next s (name :: held) out
  | .read next, s, held, out => ∃ seen, AgreeOn parts held s seen ∧ Runs parts (next seen) s held out
  | .write f next, s, held, out => Runs parts next (f s) held out

section Runs

variable {s s' : σ} {held held' : List K} {value : α} {out : Ended σ K ε α} {ended : Ended σ K ε β}
  {failure : ε}

/-- What a program does alone it can do beside others. -/
theorem runs_eval (parts : Parts σ K) (p : Prog σ K ε α) (s : σ) (held : List K) :
    ∃ held', Runs parts p s held ⟨(p.eval s).2, held', (p.eval s).1⟩ := by
  induction p generalizing s held with
  | done value => exact ⟨held, rfl⟩
  | raise failure => exact ⟨held, rfl⟩
  | lock name next ih => exact ih s (name :: held)
  | read next ih =>
      obtain ⟨held', runs⟩ := ih s s held
      exact ⟨held', s, .refl, runs⟩
  | write f next ih => exact ih (f s) held

/-- Locks are kept. -/
theorem Runs.held_subset {p : Prog σ K ε α} (runs : Runs parts p s held out) : held ⊆ out.held := by
  induction p generalizing s held with
  | done value =>
      obtain rfl := runs
      exact fun _ member => member
  | raise failure =>
      obtain rfl := runs
      exact fun _ member => member
  | lock name next ih => exact fun _ member => ih runs (List.mem_cons_of_mem name member)
  | read next ih =>
      obtain ⟨seen, _, runs⟩ := runs
      exact ih seen runs
  | write f next ih => exact ih runs

/-- A sequence ends with the end of its first program or goes on to the second. -/
theorem runs_bind {p : Prog σ K ε α} {f : α → Prog σ K ε β} :
    Runs parts (p >>= f) s held ended ↔
      (∃ s' held' value, Runs parts p s held ⟨s', held', .ok value⟩ ∧
        Runs parts (f value) s' held' ended) ∨
      ∃ failure, Runs parts p s held ⟨ended.state, ended.held, .error failure⟩ ∧
        ended.result = .error failure := by
  change Runs parts (p.bind f) s held ended ↔ _
  induction p generalizing s held with
  | done value => simp [Prog.bind, Runs, and_assoc]
  | raise failure =>
      cases ended
      simp [Prog.bind, Runs, eq_comm, and_assoc]
  | lock name next ih => exact ih
  | read next ih =>
      simp only [Prog.bind, Runs, ih]
      constructor
      · rintro ⟨seen, agree, ⟨s', held', value, first, second⟩ | ⟨failure, first, last⟩⟩
        · exact .inl ⟨s', held', value, ⟨seen, agree, first⟩, second⟩
        · exact .inr ⟨failure, ⟨seen, agree, first⟩, last⟩
      · rintro (⟨s', held', value, ⟨seen, agree, first⟩, second⟩ | ⟨failure, ⟨seen, agree, first⟩,
          last⟩)
        · exact ⟨seen, agree, .inl ⟨s', held', value, first, second⟩⟩
        · exact ⟨seen, agree, .inr ⟨failure, first, last⟩⟩
  | write g next ih => exact ih

theorem runs_bind_ok {p : Prog σ K ε α} {f : α → Prog σ K ε β} {result : β} :
    Runs parts (p >>= f) s held ⟨s', held', .ok result⟩ ↔
      ∃ middle held'' value, Runs parts p s held ⟨middle, held'', .ok value⟩ ∧
        Runs parts (f value) middle held'' ⟨s', held', .ok result⟩ := by
  simp [runs_bind]

@[simp]
theorem runs_pure : Runs parts (pure value : Prog σ K ε α) s held out ↔ out = ⟨s, held, .ok value⟩ :=
  Iff.rfl

@[simp]
theorem runs_raise :
    Runs parts (.raise failure : Prog σ K ε α) s held out ↔ out = ⟨s, held, .error failure⟩ :=
  Iff.rfl

@[simp]
theorem runs_acquire {name : K} {out : Ended σ K ε Unit} :
    Runs parts (Prog.acquire name) s held out ↔ out = ⟨s, name :: held, .ok ()⟩ :=
  Iff.rfl

@[simp]
theorem runs_acquire_bind {name : K} {f : Unit → Prog σ K ε β} :
    Runs parts (Prog.acquire name >>= f) s held ended ↔
      Runs parts (f ()) s (name :: held) ended :=
  Iff.rfl

theorem runs_query_bind {g : σ → α} {f : α → Prog σ K ε β} :
    Runs parts (Prog.query g >>= f) s held ended ↔
      ∃ seen, AgreeOn parts held s seen ∧ Runs parts (f (g seen)) s held ended :=
  Iff.rfl

/-- What depends only on parts whose locks are held is read off the own state. -/
theorem runs_query_bind_of_agree {g : σ → α} {f : α → Prog σ K ε β}
    (certain : ∀ seen, AgreeOn parts held s seen → g seen = g s) :
    Runs parts (Prog.query g >>= f) s held ended ↔ Runs parts (f (g s)) s held ended := by
  rw [runs_query_bind]
  constructor
  · rintro ⟨seen, agree, runs⟩
    rwa [certain seen agree] at runs
  · intro runs
    exact ⟨s, .refl, runs⟩

@[simp]
theorem runs_update {f : σ → σ} {out : Ended σ K ε Unit} :
    Runs parts (Prog.update f) s held out ↔ out = ⟨f s, held, .ok ()⟩ :=
  Iff.rfl

@[simp]
theorem runs_update_bind {g : σ → σ} {f : Unit → Prog σ K ε β} :
    Runs parts (Prog.update g >>= f) s held ended ↔ Runs parts (f ()) (g s) held ended :=
  Iff.rfl

theorem runs_ensure_bind {condition : Prop} [Decidable condition] {f : Unit → Prog σ K ε β} :
    Runs parts (Prog.ensure condition failure >>= f) s held ended ↔
      (condition ∧ Runs parts (f ()) s held ended) ∨
        (¬ condition ∧ ended = ⟨s, held, .error failure⟩) := by
  by_cases holds : condition
  · simp only [Prog.ensure, holds, true_and, not_true_eq_false, false_and, or_false]
    exact Iff.rfl
  · simp only [Prog.ensure, holds, false_and, not_false_eq_true, true_and, false_or]
    exact Iff.rfl

@[simp]
theorem runs_ensure_bind_ok {condition : Prop} [Decidable condition] {f : Unit → Prog σ K ε β}
    {result : β} :
    Runs parts (Prog.ensure condition failure >>= f) s held ⟨s', held', .ok result⟩ ↔
      condition ∧ Runs parts (f ()) s held ⟨s', held', .ok result⟩ := by
  simp [runs_ensure_bind]

@[simp]
theorem runs_ensure_ok {condition : Prop} [Decidable condition] {answer : Unit} :
    Runs parts (Prog.ensure condition failure) s held ⟨s', held', .ok answer⟩ ↔
      condition ∧ s' = s ∧ held' = held := by
  by_cases holds : condition <;> simp [Prog.ensure, Runs, holds]

theorem runs_okOr_bind {found : Option α} {f : α → Prog σ K ε β} :
    Runs parts (Prog.okOr found failure >>= f) s held ended ↔
      (∃ value, found = some value ∧ Runs parts (f value) s held ended) ∨
        (found = none ∧ ended = ⟨s, held, .error failure⟩) := by
  cases found with
  | none =>
      simp only [reduceCtorEq, false_and, exists_false, true_and, false_or]
      exact Iff.rfl
  | some value =>
      simp only [Option.some.injEq, exists_eq_left', reduceCtorEq, false_and, or_false]
      exact Iff.rfl

@[simp]
theorem runs_okOr_bind_ok {found : Option α} {f : α → Prog σ K ε β} {result : β} :
    Runs parts (Prog.okOr found failure >>= f) s held ⟨s', held', .ok result⟩ ↔
      ∃ value, found = some value ∧ Runs parts (f value) s held ⟨s', held', .ok result⟩ := by
  simp [runs_okOr_bind]

/-- A statement that succeeds alone can do so beside others. -/
theorem runs_of_statement (parts : Parts σ K) {p : Prog σ K ε α}
    (ran : p.statement s = (s', .ok value)) :
    ∃ held', Runs parts p s [] ⟨s', held', .ok value⟩ := by
  have runs := runs_eval parts p s []
  unfold Prog.statement at ran
  split at ran
  · next found after evaluated =>
      cases ran
      rwa [evaluated] at runs
  · cases ran

end Runs

/-! ## Writing to held parts only -/

/-- An update keeps to the parts under some locks: it leaves all others alone, and
does the same to these parts whatever the others hold. -/
structure Local (parts : Parts σ K) (held : List K) (f : σ → σ) : Prop where
  congr : ∀ {s s'}, AgreeOn parts held s s' → AgreeOn parts held (f s) (f s')
  frame : ∀ {name}, name ∉ held → ∀ s, parts.part name (f s) = parts.part name s

theorem Local.id {held : List K} : Local parts held id :=
  ⟨fun agree => agree, fun _ _ => rfl⟩

theorem Local.comp {held : List K} {f g : σ → σ} (outer : Local parts held f)
    (inner : Local parts held g) : Local parts held (f ∘ g) :=
  ⟨fun agree => outer.congr (inner.congr agree),
    fun outside s => (outer.frame outside (g s)).trans (inner.frame outside s)⟩

/-- An update that leaves the parts of all locks alone except some held ones, on which it
acts by themselves. -/
theorem Local.of_cases {held : List K} {f : σ → σ}
    (each : ∀ name, (∀ s, parts.part name (f s) = parts.part name s) ∨
      name ∈ held ∧ ∃ act : parts.Part name → parts.Part name,
        ∀ s, parts.part name (f s) = act (parts.part name s)) : Local parts held f := by
  constructor
  · intro s s' agree name member
    rcases each name with same | ⟨_, act, acted⟩
    · rw [same, same, agree name member]
    · rw [acted, acted, agree name member]
  · intro name outside s
    rcases each name with same | ⟨member, _⟩
    · exact same s
    · exact absurd member outside

theorem Local.mono {held more : List K} {f : σ → σ} (keeps : Local parts held f)
    (subset : held ⊆ more) : Local parts more f := by
  constructor
  · intro s s' agree name member
    by_cases inside : name ∈ held
    · exact keeps.congr (agree.mono subset) name inside
    · rw [keeps.frame inside, keeps.frame inside]
      exact agree name member
  · exact fun outside s => keeps.frame (fun inside => outside (subset inside)) s

/-- Every write of a program keeps to the parts whose locks it holds by then, and
its end satisfies a condition on the locks and the value. -/
def Safe (parts : Parts σ K) (ends : List K → α → Prop) : List K → Prog σ K ε α → Prop
  | held, .done value => ends held value
  | _, .raise _ => True
  | held, .lock name next => Safe parts ends (name :: held) next
  | held, .read next => ∀ seen, Safe parts ends held (next seen)
  | held, .write f next => Local parts held f ∧ Safe parts ends held next

theorem Safe.mono {ends : List K → α → Prop}
    (grows : ∀ held more value, held ⊆ more → ends held value → ends more value)
    {p : Prog σ K ε α} {held more : List K} (subset : held ⊆ more) (safe : Safe parts ends held p) :
    Safe parts ends more p := by
  induction p generalizing held more with
  | done value => exact grows held more value subset safe
  | raise failure => trivial
  | lock name next ih => exact ih (List.cons_subset_cons name subset) safe
  | read next ih => exact fun seen => ih seen subset (safe seen)
  | write f next ih => exact ⟨safe.1.mono subset, ih subset safe.2⟩

/-- A program that writes only under locks that it acquires itself. -/
def Guarded (parts : Parts σ K) (p : Prog σ K ε α) : Prop :=
  Safe parts (fun _ _ => True) [] p

section Safe

variable {held : List K} {ends : List K → β → Prop}

theorem safe_bind {p : Prog σ K ε α} {f : α → Prog σ K ε β} :
    Safe parts ends held (p >>= f) ↔
      Safe parts (fun held value => Safe parts ends held (f value)) held p := by
  change Safe parts ends held (p.bind f) ↔ _
  induction p generalizing held with
  | done value => exact Iff.rfl
  | raise failure => exact Iff.rfl
  | lock name next ih => exact ih
  | read next ih => exact forall_congr' fun seen => ih seen
  | write g next ih => exact and_congr_right fun _ => ih

@[simp]
theorem safe_pure {value : β} : Safe parts ends held (pure value : Prog σ K ε β) ↔ ends held value :=
  Iff.rfl

@[simp]
theorem safe_raise {failure : ε} : Safe parts ends held (.raise failure : Prog σ K ε β) :=
  trivial

@[simp]
theorem safe_acquire {name : K} {ends : List K → Unit → Prop} :
    Safe parts ends held (Prog.acquire name : Prog σ K ε Unit) ↔ ends (name :: held) () :=
  Iff.rfl

@[simp]
theorem safe_query {g : σ → β} :
    Safe parts ends held (Prog.query g : Prog σ K ε β) ↔ ∀ seen, ends held (g seen) :=
  Iff.rfl

@[simp]
theorem safe_update {g : σ → σ} {ends : List K → Unit → Prop} :
    Safe parts ends held (Prog.update g : Prog σ K ε Unit) ↔ Local parts held g ∧ ends held () :=
  Iff.rfl

theorem safe_ensure {condition : Prop} [Decidable condition] {failure : ε}
    {ends : List K → Unit → Prop} :
    Safe parts ends held (Prog.ensure condition failure : Prog σ K ε Unit) ↔
      (condition → ends held ()) := by
  by_cases holds : condition <;> simp [Prog.ensure, holds, Safe]

theorem safe_okOr {found : Option β} {failure : ε} :
    Safe parts ends held (Prog.okOr found failure : Prog σ K ε β) ↔
      ∀ value, found = some value → ends held value := by
  cases found <;> simp [Prog.okOr, Safe]

end Safe

/-! ## Failures -/

/-- Every failure that a program can raise has a property, as long as all states that it
reads have another. -/
def Raises (I : σ → Prop) (P : ε → Prop) : Prog σ K ε α → Prop
  | .done _ => True
  | .raise failure => P failure
  | .lock _ next => Raises I P next
  | .read next => ∀ seen, I seen → Raises I P (next seen)
  | .write _ next => Raises I P next

section Raises

variable {I : σ → Prop} {P : ε → Prop}

theorem Raises.bind {p : Prog σ K ε α} {f : α → Prog σ K ε β} (first : Raises I P p)
    (next : ∀ value, Raises I P (f value)) : Raises I P (p >>= f) := by
  change Raises I P (p.bind f)
  induction p with
  | done value => exact next value
  | raise failure => exact first
  | lock name rest ih => exact ih first
  | read rest ih => exact fun seen holds => ih seen (first seen holds)
  | write g rest ih => exact ih first

theorem raises_of_forall (every : ∀ failure, P failure) (p : Prog σ K ε α) : Raises I P p := by
  induction p with
  | done value => trivial
  | raise failure => exact every failure
  | lock name rest ih => exact ih
  | read rest ih => exact fun seen _ => ih seen
  | write g rest ih => exact ih

theorem raises_pure {value : α} : Raises I P (pure value : Prog σ K ε α) :=
  trivial

theorem raises_acquire {name : K} : Raises I P (Prog.acquire name : Prog σ K ε Unit) :=
  trivial

theorem raises_query {g : σ → α} : Raises I P (Prog.query g : Prog σ K ε α) :=
  fun _ _ => trivial

/-- What a program does after a query depends on what was read. -/
theorem raises_query_bind {g : σ → α} {f : α → Prog σ K ε β}
    (next : ∀ seen, I seen → Raises I P (f (g seen))) : Raises I P (Prog.query g >>= f) :=
  next

theorem raises_update {g : σ → σ} : Raises I P (Prog.update g : Prog σ K ε Unit) :=
  trivial

theorem raises_ensure {condition : Prop} [Decidable condition] {failure : ε} (holds : P failure) :
    Raises I P (Prog.ensure condition failure : Prog σ K ε Unit) := by
  unfold Prog.ensure
  split
  · trivial
  · exact holds

theorem raises_okOr {found : Option α} {failure : ε} (holds : P failure) :
    Raises I P (Prog.okOr found failure : Prog σ K ε α) := by
  cases found with
  | none => exact holds
  | some value => trivial

theorem raises_okOr_bind_of_isSome {found : Option α} {failure : ε} {f : α → Prog σ K ε β}
    (present : found.isSome = true) (next : ∀ value, found = some value → Raises I P (f value)) :
    Raises I P (Prog.okOr found failure >>= f) := by
  cases found with
  | none => cases present
  | some value => exact next value rfl

/-- A program ends with one of the failures that it can raise. -/
theorem Runs.raised {p : Prog σ K ε α} {s s' : σ} {held held' : List K} {failure : ε}
    (runs : Runs parts p s held ⟨s', held', .error failure⟩)
    (raises : Raises (fun _ => True) P p) : P failure := by
  induction p generalizing s held with
  | done value => cases runs
  | raise other =>
      cases runs
      exact raises
  | lock name next ih => exact ih runs raises
  | read next ih =>
      obtain ⟨seen, _, runs⟩ := runs
      exact ih seen runs (raises seen trivial)
  | write f next ih => exact ih runs raises

end Raises

/-! ## What all writes do -/

/-- Every write of a program is of a kind. -/
def Writes (W : (σ → σ) → Prop) : Prog σ K ε α → Prop
  | .done _ => True
  | .raise _ => True
  | .lock _ next => Writes W next
  | .read next => ∀ seen, Writes W (next seen)
  | .write f next => W f ∧ Writes W next

section Writes

variable {W : (σ → σ) → Prop}

theorem Writes.bind {p : Prog σ K ε α} {f : α → Prog σ K ε β} (first : Writes W p)
    (next : ∀ value, Writes W (f value)) : Writes W (p >>= f) := by
  change Writes W (p.bind f)
  induction p with
  | done value => exact next value
  | raise failure => trivial
  | lock name rest ih => exact ih first
  | read rest ih => exact fun seen => ih seen (first seen)
  | write g rest ih => exact ⟨first.1, ih first.2⟩

theorem writes_pure {value : α} : Writes W (pure value : Prog σ K ε α) :=
  trivial

theorem writes_acquire {name : K} : Writes W (Prog.acquire name : Prog σ K ε Unit) :=
  trivial

theorem writes_query {g : σ → α} : Writes W (Prog.query g : Prog σ K ε α) :=
  fun _ => trivial

theorem writes_update {g : σ → σ} (kind : W g) : Writes W (Prog.update g : Prog σ K ε Unit) :=
  ⟨kind, trivial⟩

theorem writes_ensure {condition : Prop} [Decidable condition] {failure : ε} :
    Writes W (Prog.ensure condition failure : Prog σ K ε Unit) := by
  unfold Prog.ensure
  split <;> trivial

theorem writes_okOr {found : Option α} {failure : ε} :
    Writes W (Prog.okOr found failure : Prog σ K ε α) := by
  cases found <;> trivial

end Writes

/-- An update keeps a property of the state. -/
def Keeps (I : σ → Prop) (f : σ → σ) : Prop :=
  ∀ s, I s → I (f s)

/-- Every write of a program keeps a property of the state. -/
abbrev Steady (I : σ → Prop) : Prog σ K ε α → Prop :=
  Writes (Keeps I)

theorem Steady.eval {I : σ → Prop} {p : Prog σ K ε α} {s : σ} (steady : Steady I p) (holds : I s) :
    I (p.eval s).2 := by
  induction p generalizing s with
  | done value => exact holds
  | raise failure => exact holds
  | lock name rest ih => exact ih steady holds
  | read rest ih => exact ih s (steady s) holds
  | write g rest ih => exact ih steady.2 (steady.1 s holds)

end Locking
