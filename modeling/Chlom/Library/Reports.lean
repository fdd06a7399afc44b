import Chlom.Library.Dispatch

/-!
# Checks that report what they find

A check appends a message to a list and goes on, so one pass reports everything that
is wrong.  Messages are never taken back: a pass that ends without any has reported
nothing on the way, and each of its checks held.
-/

namespace Reports

variable {μ ε α β : Type}

/-- Report a message if something is wrong. -/
def report (wrong : Prop) [Decidable wrong] (message : μ) : Dispatch (List μ) ε Unit :=
  Dispatch.write fun messages => if wrong then messages ++ [message] else messages

/-- Report several messages. -/
def reportAll (found : List μ) : Dispatch (List μ) ε Unit :=
  Dispatch.write fun messages => messages ++ found

/-- Go on from a caught error with its messages and a value in place of the result. -/
def recover (computed : Except ε α) (caught : ε → Option (List μ)) (default : α) :
    Dispatch (List μ) ε α :=
  fun messages => match computed with
    | .ok value => .ok value messages
    | .error error =>
        match caught error with
        | some found => .ok default (messages ++ found)
        | none => .error error messages

/-- A pass that takes no message back. -/
class Grows (body : Dispatch (List μ) ε α) : Prop where
  grows : ∀ {before after : List μ} {value : α}, body before = .ok value after →
    before.length ≤ after.length

namespace Grows

instance pure (value : α) : Grows (Pure.pure value : Dispatch (List μ) ε α) where
  grows ran := by
    obtain ⟨_, rfl⟩ := EStateM.Result.ok.inj ran
    exact Nat.le_refl _

instance report (wrong : Prop) [Decidable wrong] (message : μ) :
    Grows (Reports.report wrong message : Dispatch (List μ) ε Unit) where
  grows {before _ _} ran := by
    obtain ⟨_, rfl⟩ := EStateM.Result.ok.inj ran
    by_cases holds : wrong
    · simp [holds]
    · simp [holds]

instance reportAll (found : List μ) :
    Grows (Reports.reportAll found : Dispatch (List μ) ε Unit) where
  grows ran := by
    obtain ⟨_, rfl⟩ := EStateM.Result.ok.inj ran
    simp

instance ofExcept (computed : Except ε α) :
    Grows (Dispatch.ofExcept computed : Dispatch (List μ) ε α) where
  grows ran := by
    obtain ⟨_, rfl⟩ := Dispatch.ofExcept_ok.mp ran
    exact Nat.le_refl _

instance recover (computed : Except ε α) (caught : ε → Option (List μ)) (default : α) :
    Grows (Reports.recover computed caught default) where
  grows {before _ _} ran := by
    unfold Reports.recover at ran
    split at ran
    · obtain ⟨_, rfl⟩ := EStateM.Result.ok.inj ran
      exact Nat.le_refl _
    · split at ran
      · obtain ⟨_, rfl⟩ := EStateM.Result.ok.inj ran
        simp
      · cases ran

instance bind {body : Dispatch (List μ) ε α} {next : α → Dispatch (List μ) ε β}
    [first : Grows body] [second : ∀ value, Grows (next value)] : Grows (body >>= next) where
  grows ran := by
    obtain ⟨value, middle, ranFirst, ranSecond⟩ := Dispatch.bind_ok.mp ran
    exact Nat.le_trans (first.grows ranFirst) ((second value).grows ranSecond)

/-- The rule for a sequence, one step at a time. -/
theorem seq {body : Dispatch (List μ) ε α} {next : α → Dispatch (List μ) ε β} (_ : Grows body)
    (_ : ∀ value, Grows (next value)) : Grows (body >>= next) :=
  inferInstance

instance onlyIf (condition : Prop) [Decidable condition] (body : Dispatch (List μ) ε Unit)
    [grows : Grows body] : Grows (Dispatch.onlyIf condition body) := by
  unfold Dispatch.onlyIf
  split
  · exact grows
  · exact pure ()

end Grows

/-- The pass reports nothing and gives the value. -/
def Silent (body : Dispatch (List μ) ε α) (value : α) : Prop := body [] = .ok value []

@[simp]
theorem silent_pure {value result : α} :
    Silent (pure value : Dispatch (List μ) ε α) result ↔ value = result := by
  simp [Silent]

@[simp]
theorem silent_report {wrong : Prop} [Decidable wrong] {message : μ} {result : Unit} :
    Silent (report wrong message : Dispatch (List μ) ε Unit) result ↔ ¬ wrong := by
  by_cases holds : wrong
  · simp [Silent, report, holds]
  · simp [Silent, report, holds]

@[simp]
theorem silent_ofExcept {computed : Except ε α} {result : α} :
    Silent (Dispatch.ofExcept computed : Dispatch (List μ) ε α) result ↔ computed = .ok result := by
  simp [Silent, Dispatch.ofExcept_ok]

@[simp]
theorem silent_reportAll {found : List μ} {result : Unit} :
    Silent (reportAll found : Dispatch (List μ) ε Unit) result ↔ found = [] := by
  simp [Silent, reportAll]

/-- Where a caught error has a message, nothing was caught. -/
theorem silent_recover {computed : Except ε α} {caught : ε → Option (List μ)} {default result : α}
    (speaks : ∀ error, computed = .error error → caught error ≠ some []) :
    Silent (recover computed caught default) result ↔ computed = .ok result := by
  cases computed with
  | ok value => simp [Silent, recover]
  | error error =>
      cases found : caught error with
      | none => simp [Silent, recover, found]
      | some messages =>
          have nonempty : messages ≠ [] := by
            rintro rfl
            exact speaks error rfl found
          simp [Silent, recover, found, nonempty]

/-- A silent sequence is silent in both parts. -/
theorem silent_bind {body : Dispatch (List μ) ε α} {next : α → Dispatch (List μ) ε β}
    [grows : ∀ value, Grows (next value)] {result : β} :
    Silent (body >>= next) result ↔ ∃ value, Silent body value ∧ Silent (next value) result := by
  simp only [Silent, Dispatch.bind_ok]
  constructor
  · rintro ⟨value, middle, ranFirst, ranSecond⟩
    have empty : middle = [] := by
      have bound := (grows value).grows ranSecond
      exact List.eq_nil_of_length_eq_zero (Nat.le_zero.mp bound)
    subst empty
    exact ⟨value, ranFirst, ranSecond⟩
  · rintro ⟨value, ranFirst, ranSecond⟩
    exact ⟨value, [], ranFirst, ranSecond⟩

/-- What is silent in both parts is silent, whatever else the second part could do. -/
theorem Silent.bind {body : Dispatch (List μ) ε α} {next : α → Dispatch (List μ) ε β} {value : α}
    {result : β} (first : Silent body value) (second : Silent (next value) result) :
    Silent (body >>= next) result := by
  rw [Silent, Dispatch.bind_of_ok first]
  exact second

/-- A check that holds is passed over. -/
theorem Silent.report {wrong : Prop} [Decidable wrong] {message : μ}
    {next : Unit → Dispatch (List μ) ε β} {result : β} (sound : ¬ wrong)
    (rest : Silent (next ()) result) : Silent (Reports.report wrong message >>= next) result :=
  Silent.bind (show Silent _ () from silent_report.mpr sound) rest

theorem Silent.reportAll {found : List μ} {next : Unit → Dispatch (List μ) ε β} {result : β}
    (none : found = []) (rest : Silent (next ()) result) :
    Silent (Reports.reportAll found >>= next) result :=
  Silent.bind (show Silent _ () from silent_reportAll.mpr none) rest

theorem silent_onlyIf {condition : Prop} [Decidable condition] {body : Dispatch (List μ) ε Unit}
    {result : Unit} :
    Silent (Dispatch.onlyIf condition body) result ↔ (condition → Silent body result) := by
  by_cases holds : condition <;> simp [Dispatch.onlyIf, holds]

end Reports
