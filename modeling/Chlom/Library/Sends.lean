import Chlom.Library.Dispatch
import Chlom.Library.Runs

/-!
# Computations that send requests

A computation writes every request it sends to a log and goes on with the answer that the
outside gives to the log so far.  Between its guards it sends at most one request, so that a
log is a list of requests that were each permitted when they were sent.
-/

namespace Sends

variable {ρ ε α β γ : Type}

/-- Send a request and take the answer, which may depend on all that was sent before. -/
def send (answer : List ρ → β) (request : ρ) : Dispatch (List ρ) ε β :=
  fun log => .ok (answer (log ++ [request])) (log ++ [request])

/-- The computation sends nothing. -/
def Silent (body : Dispatch (List ρ) ε α) : Prop :=
  ∀ log, Dispatch.finalState (body log) = log

/-- The computation sends nothing, or one request, which is permitted. -/
def AtMostOne (P : ρ → Prop) (body : Dispatch (List ρ) ε α) : Prop :=
  ∀ log, Dispatch.finalState (body log) = log ∨
    ∃ request, P request ∧ Dispatch.finalState (body log) = log ++ [request]

variable {P Q : ρ → Prop}

theorem Silent.pure {value : α} : Silent (Pure.pure value : Dispatch (List ρ) ε α) :=
  fun _ => rfl

theorem Silent.ofExcept {computed : Except ε α} :
    Silent (Dispatch.ofExcept computed : Dispatch (List ρ) ε α) := by
  intro log
  cases computed with
  | ok value => rfl
  | error failure => rfl

theorem Silent.atMostOne {body : Dispatch (List ρ) ε α} (silent : Silent body) :
    AtMostOne P body :=
  fun log => .inl (silent log)

theorem AtMostOne.send {answer : List ρ → β} {request : ρ} (permitted : P request) :
    AtMostOne P (Sends.send answer request : Dispatch (List ρ) ε β) :=
  fun _ => .inr ⟨request, permitted, rfl⟩

/-- A guard in front sends nothing, and what follows may rely on its value. -/
theorem AtMostOne.guarded {computed : Except ε α} {next : α → Dispatch (List ρ) ε β}
    (rest : ∀ value, computed = .ok value → AtMostOne P (next value)) :
    AtMostOne P (Dispatch.ofExcept computed >>= next) := by
  cases computed with
  | ok value => exact rest value rfl
  | error failure => exact fun _ => .inl rfl

/-- Work on the result of a computation adds nothing to what it sent. -/
theorem AtMostOne.followed {body : Dispatch (List ρ) ε α} {next : α → Dispatch (List ρ) ε β}
    (sends : AtMostOne P body) (silent : ∀ value, Silent (next value)) :
    AtMostOne P (body >>= next) := by
  intro log
  have same : Dispatch.finalState ((body >>= next) log) = Dispatch.finalState (body log) := by
    cases ran : body log with
    | ok value log' =>
        rw [Dispatch.bind_of_ok ran]
        exact silent value log'
    | error failure log' =>
        rw [Dispatch.bind_of_error ran]
        rfl
  rw [same]
  exact sends log

theorem AtMostOne.map {body : Dispatch (List ρ) ε α} {f : α → β} (sends : AtMostOne P body) :
    AtMostOne P (f <$> body) := by
  rw [map_eq_pure_bind]
  exact sends.followed fun _ => .pure

/-- Catching an error takes back nothing that was sent. -/
theorem AtMostOne.attempt {body : Dispatch (List ρ) ε α} (sends : AtMostOne P body) :
    AtMostOne P (Dispatch.attempt body) :=
  sends

variable {Input Answer : Type}

/-- Run a computation to the end of its request: an error is answered as well. -/
def answered (body : Dispatch (List ρ) ε α) (respond : Except ε α → Answer) (log : List ρ) :
    List ρ × Answer :=
  (Dispatch.finalState (body log), respond (Dispatch.outcome (body log)))

/-- Everything that a server sent over a run was permitted for one of its inputs. -/
theorem forall_mem_run {step : List ρ → Input → List ρ × Answer} {P : Input → ρ → Prop}
    (sends : ∀ log input, (step log input).1 = log ∨
      ∃ request, P input request ∧ (step log input).1 = log ++ [request])
    (inputs : List Input) :
    ∀ request ∈ Runs.run step [] inputs, ∃ input ∈ inputs, P input request := by
  induction inputs using List.reverseRecOn with
  | nil => exact nofun
  | append_singleton before input ih =>
      intro request member
      have last : Runs.run step [] (before ++ [input]) =
          (step (Runs.run step [] before) input).1 := Runs.run_append [] before [input]
      rw [last] at member
      have earlier : request ∈ Runs.run step [] before →
          ∃ other ∈ before ++ [input], P other request := by
        intro there
        obtain ⟨other, found, permitted⟩ := ih request there
        exact ⟨other, List.mem_append_left _ found, permitted⟩
      rcases sends (Runs.run step [] before) input with silent | ⟨sent, permitted, grown⟩
      · rw [silent] at member
        exact earlier member
      · rw [grown, List.mem_append, List.mem_singleton] at member
        rcases member with there | rfl
        · exact earlier there
        · exact ⟨input, by simp, permitted⟩

/-- A run sends at most as many requests as it has inputs. -/
theorem length_run_le {step : List ρ → Input → List ρ × Answer} {P : Input → ρ → Prop}
    (sends : ∀ log input, (step log input).1 = log ∨
      ∃ request, P input request ∧ (step log input).1 = log ++ [request])
    (inputs : List Input) : (Runs.run step [] inputs).length ≤ inputs.length := by
  induction inputs using List.reverseRecOn with
  | nil => exact Nat.le_refl 0
  | append_singleton before input ih =>
      have last : Runs.run step [] (before ++ [input]) =
          (step (Runs.run step [] before) input).1 := Runs.run_append [] before [input]
      rw [last, List.length_append, List.length_singleton]
      rcases sends (Runs.run step [] before) input with silent | ⟨sent, _, grown⟩
      · rw [silent]
        omega
      · rw [grown, List.length_append, List.length_singleton]
        omega

end Sends
