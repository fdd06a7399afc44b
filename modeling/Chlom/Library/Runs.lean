import Mathlib.Data.List.Induction
import Mathlib.Order.Defs.PartialOrder

/-!
# Runs of a deterministic step function

A system takes one input at a time and answers each with an output.  Invariants
and two-state relations of single steps lift to runs of any length.  When some
inputs are invisible to an observer, deleting them changes neither what the
observer sees nor the answers to the inputs that remain.
-/

namespace Runs

variable {State Input Output : Type}

/-- The state after a list of inputs. -/
def run (step : State → Input → State × Output) (s : State) (inputs : List Input) : State :=
  inputs.foldl (fun current input => (step current input).1) s

/-- Every input of a run together with the answer it received. -/
def trace (step : State → Input → State × Output) (s : State) : List Input → List (Input × Output)
  | [] => []
  | input :: rest => (input, (step s input).2) :: trace step (step s input).1 rest

variable {step : State → Input → State × Output}

@[simp]
theorem run_nil (s : State) : run step s [] = s :=
  rfl

@[simp]
theorem run_cons (s : State) (input : Input) (rest : List Input) :
    run step s (input :: rest) = run step (step s input).1 rest :=
  rfl

theorem run_append (s : State) (first second : List Input) :
    run step s (first ++ second) = run step (run step s first) second :=
  List.foldl_append

theorem trace_append (s : State) (first second : List Input) :
    trace step s (first ++ second) =
      trace step s first ++ trace step (run step s first) second := by
  induction first generalizing s with
  | nil => rfl
  | cons input rest ih => simp [trace, ih]

/-- Every step of a run meets a condition, on the state before it and its input. -/
def Meets (step : State → Input → State × Output) (P : State → Input → Prop) (s : State) :
    List Input → Prop
  | [] => True
  | input :: rest => P s input ∧ Meets step P (step s input).1 rest

instance decidableMeets (P : State → Input → Prop) [∀ s input, Decidable (P s input)] :
    (s : State) → (inputs : List Input) → Decidable (Meets step P s inputs)
  | _, [] => inferInstanceAs (Decidable True)
  | s, input :: rest =>
      haveI := decidableMeets P (step s input).1 rest
      inferInstanceAs (Decidable (P s input ∧ Meets step P (step s input).1 rest))

theorem Meets.mono {P Q : State → Input → Prop} (weaker : ∀ s input, P s input → Q s input) {s : State}
    {inputs : List Input} (meets : Meets step P s inputs) : Meets step Q s inputs := by
  induction inputs generalizing s with
  | nil => trivial
  | cons input rest ih => exact ⟨weaker s input meets.1, ih meets.2⟩

theorem meets_append {P : State → Input → Prop} {s : State} {first second : List Input} :
    Meets step P s (first ++ second) ↔
      Meets step P s first ∧ Meets step P (run step s first) second := by
  induction first generalizing s with
  | nil => simp [Meets]
  | cons input rest ih => simp [Meets, ih, and_assoc]

/-- An invariant of single steps holds after every run. -/
theorem invariant_run (Inv : State → Prop) (keeps : ∀ s input, Inv s → Inv (step s input).1)
    {s : State} (start : Inv s) (inputs : List Input) : Inv (run step s inputs) := by
  induction inputs generalizing s with
  | nil => exact start
  | cons input rest ih => exact ih (keeps s input start)

/-- An invariant that the inputs of a run keep holds after the run. -/
theorem invariant_run_of_mem (Inv : State → Prop) {inputs : List Input}
    (keeps : ∀ input ∈ inputs, ∀ s, Inv s → Inv (step s input).1) {s : State} (start : Inv s) :
    Inv (run step s inputs) := by
  induction inputs generalizing s with
  | nil => exact start
  | cons input rest ih =>
      have next := keeps input List.mem_cons_self s start
      exact ih (fun later member => keeps later (List.mem_cons_of_mem _ member)) next

/-- A property of the past and the present that every step extends holds of the
trace and the end of every run. -/
theorem invariant_trace (Inv : List (Input × Output) → State → Prop)
    (keeps : ∀ past s input, Inv past s →
      Inv (past ++ [(input, (step s input).2)]) (step s input).1)
    {s : State} (start : Inv [] s) (inputs : List Input) :
    Inv (trace step s inputs) (run step s inputs) := by
  induction inputs using List.reverseRecOn with
  | nil => exact start
  | append_singleton before input ih =>
      rw [trace_append, run_append]
      exact keeps _ _ input ih

/-- What holds after a run but not before it begins to hold at one of its steps. -/
theorem exists_onset {P : State → Prop} {s : State} {inputs : List Input} (start : ¬ P s)
    (holds : P (run step s inputs)) :
    ∃ before input after, inputs = before ++ input :: after ∧ ¬ P (run step s before) ∧
      P (step (run step s before) input).1 := by
  induction inputs generalizing s with
  | nil => exact absurd holds start
  | cons input rest ih =>
      by_cases next : P (step s input).1
      · exact ⟨[], input, rest, rfl, start, next⟩
      · obtain ⟨before, later, after, rfl, earlier, onset⟩ := ih next holds
        exact ⟨input :: before, later, after, rfl, earlier, onset⟩

/-- A preorder followed by every step from a state satisfying the invariant
relates the start of a run to its end. -/
theorem preorder_run (Inv : State → Prop) (Later : State → State → Prop)
    (keeps : ∀ s input, Inv s → Inv (step s input).1)
    (reflexive : ∀ s, Later s s)
    (transitive : ∀ {s t u}, Later s t → Later t u → Later s u)
    (follows : ∀ s input, Inv s → Later s (step s input).1)
    {s : State} (start : Inv s) (inputs : List Input) : Later s (run step s inputs) := by
  induction inputs generalizing s with
  | nil => exact reflexive s
  | cons input rest ih => exact transitive (follows s input start) (ih (keeps s input start))

/-- What a part of a system sees of a run is a run of the part, if every input of the
run is a run for the part. -/
theorem exists_run_view {Part Message Answer : Type} {small : Part → Message → Part × Answer}
    (view : State → Part) {inputs : List Input}
    (follows : ∀ input ∈ inputs, ∀ s,
      ∃ messages, view (step s input).1 = run small (view s) messages) (s : State) :
    ∃ messages, view (run step s inputs) = run small (view s) messages := by
  induction inputs generalizing s with
  | nil => exact ⟨[], rfl⟩
  | cons input rest ih =>
      obtain ⟨first, now⟩ := follows input List.mem_cons_self s
      obtain ⟨second, later⟩ :=
        ih (fun later member => follows later (List.mem_cons_of_mem _ member)) (step s input).1
      refine ⟨first ++ second, ?_⟩
      rw [run_cons, run_append, later, now]

/-- Deleting the inputs an observer does not see keeps the observer's relation
between the two runs and the answers to all inputs it does see.  `Live` is a
property of the full run that, once lost, never returns. -/
theorem filter_simulation (Live : State → Prop) (Sim : State → State → Prop)
    (visible : Input → Bool)
    (live_before : ∀ s input, Live (step s input).1 → Live s)
    (skip : ∀ s t input, visible input = false → Sim s t → Sim (step s input).1 t)
    (both : ∀ s t input, visible input = true → Live (step s input).1 → Sim s t →
      (step s input).2 = (step t input).2 ∧ Sim (step s input).1 (step t input).1)
    {s t : State} (related : Sim s t) (inputs : List Input) (live : Live (run step s inputs)) :
    Sim (run step s inputs) (run step t (inputs.filter visible)) ∧
      (trace step s inputs).filter (fun entry => visible entry.1) =
        trace step t (inputs.filter visible) := by
  have live_start : ∀ (rest : List Input) (current : State), Live (run step current rest) →
      Live current := by
    intro rest
    induction rest with
    | nil => exact fun _ final => final
    | cons input rest ih => exact fun current final => live_before current input (ih _ final)
  induction inputs generalizing s t with
  | nil => exact ⟨related, rfl⟩
  | cons input rest ih =>
      rw [run_cons] at live
      cases seen : visible input with
      | false =>
          have next := ih (skip s t input seen related) live
          simpa [trace, List.filter_cons, seen] using next
      | true =>
          obtain ⟨answer, stepped⟩ := both s t input seen (live_start rest _ live) related
          obtain ⟨final, answers⟩ := ih stepped live
          simp only [List.filter_cons, seen, if_true, trace, run_cons, answer, answers]
          exact ⟨final, trivial⟩

end Runs
