import Chlom.Library.Locking.Transactions

/-!
# What later statements read

A property of the state that every write keeps holds in all that is read after it was
committed.  So the statements that a session issues from then on raise only the failures
that a program can raise while it reads states with the property.
-/

namespace Locking

variable {σ K ε α Input Session : Type} {body : Input → Prog σ K ε α} {I : σ → Prop}
  {P : Input → ε → Prop}

/-- The writes of a transaction keep a property of the state, and so will those of its
statement under way. -/
structure Open.Steady (I : σ → Prop) (t : Open σ K ε α Input) : Prop where
  done : Keeps I t.delta
  active : ∀ a, t.active = some a → Keeps I a.delta ∧ Locking.Steady I a.rest

theorem Open.Steady.fresh : (Open.fresh : Open σ K ε α Input).Steady I where
  done _ holds := holds
  active _ found := by cases found

theorem Open.Steady.idle {t : Open σ K ε α Input} (steady : t.Steady I) :
    ({ t with active := none } : Open σ K ε α Input).Steady I where
  done := steady.done
  active _ found := by cases found

theorem Open.Steady.progress {t : Open σ K ε α Input} (steady : t.Steady I)
    {a : Active σ K ε α Input} (kept : Keeps I a.delta)
    (rest : Locking.Steady I a.rest) :
    ({ t with active := some a } : Open σ K ε α Input).Steady I where
  done := steady.done
  active _ found := by
    cases found
    exact ⟨kept, rest⟩

def System.Steady (I : σ → Prop) (s : System σ K ε α Input Session) : Prop :=
  ∀ session, (s.current session).Steady I

theorem System.Steady.initial {start : σ} :
    (System.initial start : System σ K ε α Input Session).Steady I :=
  fun _ => .fresh

variable [DecidableEq Session] {s s' : System σ K ε α Input Session} {session : Session}

theorem System.Steady.change (steady : s.Steady I) {t : Open σ K ε α Input} (opened : t.Steady I)
    (current : s'.current = Function.update s.current session t) : s'.Steady I := by
  rw [System.Steady, current]
  exact (Function.forall_update_iff _ fun _ (opened : Open σ K ε α Input) => opened.Steady I).mpr
    ⟨opened, fun other _ => steady other⟩

/-- The property is committed, all writes keep it, and a session will raise only failures
that can be raised under it. -/
structure System.Later (I : σ → Prop) (P : Input → ε → Prop) (session : Session)
    (s : System σ K ε α Input Session) : Prop where
  steady : s.Steady I
  committed : I s.committed
  raises : ∀ a, (s.current session).active = some a → Raises I (P a.input) a.rest

/-- Of the statements under way, that of another session does not matter. -/
theorem System.Later.change (later : s.Later I P session) (steady : s'.Steady I)
    (committed : I s'.committed) {other : Session} {t : Open σ K ε α Input}
    (current : s'.current = Function.update s.current other t)
    (raises : other = session → ∀ a, t.active = some a → Raises I (P a.input) a.rest) :
    s'.Later I P session := by
  refine ⟨steady, committed, fun a found => ?_⟩
  rw [current] at found
  by_cases same : other = session
  · subst same
    rw [Function.update_self] at found
    exact raises rfl a found
  · rw [Function.update_of_ne (Ne.symm same)] at found
    exact later.raises a found

/-! ## Actions -/

variable [DecidableEq K]

theorem System.Steady.advance (steady : s.Steady I) {a : Active σ K ε α Input}
    (found : (s.current session).active = some a) :
    (s.advance session (s.current session) a).1.Steady I := by
  have opened := steady session
  obtain ⟨kept, writes⟩ := opened.active a found
  unfold System.advance
  split
  · exact steady.change ⟨kept, fun _ idle => by cases idle⟩ rfl
  · exact steady.change opened.idle rfl
  · next name next rest =>
      rw [rest] at writes
      split
      · exact steady.change (opened.progress (a := { a with held := name :: a.held, rest := next })
          kept writes) rfl
      · exact steady
  · next next rest =>
      rw [rest] at writes
      exact steady.change (opened.progress (a := { a with rest := next (a.delta s.committed) })
        kept (writes _)) rfl
  · next f next rest =>
      rw [rest] at writes
      exact steady.change (opened.progress (a := { a with delta := f ∘ a.delta, rest := next })
        (fun base holds => writes.1 _ (kept base holds)) writes.2) rfl

theorem System.Steady.step (writes : ∀ input, Locking.Steady I (body input)) (steady : s.Steady I)
    (action : Action Input Session) : (Locking.step body s action).1.Steady I := by
  cases action with
  | issue session input =>
      rw [Locking.step]
      split
      · exact steady.change ((steady session).progress (steady session).done (writes input)) rfl
      · exact steady
  | advance session =>
      rw [Locking.step]
      split
      · exact steady
      · next a found => exact steady.advance found
  | commit session =>
      rw [Locking.step]
      split
      · exact steady.change .fresh rfl
      · exact steady
  | abort session => exact steady.change .fresh rfl

theorem System.Later.advance (later : s.Later I P session) {other : Session}
    {a : Active σ K ε α Input} (found : (s.current other).active = some a) :
    (s.advance other (s.current other) a).1.Later I P session := by
  have steady := later.steady.advance found
  have seen := ((later.steady other).active a found).1 _ later.committed
  have raises (same : other = session) : Raises I (P a.input) a.rest := by
    subst same
    exact later.raises a found
  unfold System.advance at steady ⊢
  cases rest : a.rest with
  | done value =>
      simp only [rest] at steady ⊢
      exact later.change steady later.committed rfl fun _ _ idle => by cases idle
  | raise failure =>
      simp only [rest] at steady ⊢
      exact later.change steady later.committed rfl fun _ _ idle => by cases idle
  | lock name next =>
      rw [rest] at raises
      simp only [rest] at steady ⊢
      split at steady
      · next free =>
          rw [if_pos free]
          refine later.change steady later.committed rfl fun same _ active => ?_
          cases active
          exact raises same
      · next taken =>
          rw [if_neg taken]
          exact later
  | read next =>
      rw [rest] at raises
      simp only [rest] at steady ⊢
      refine later.change steady later.committed rfl fun same _ active => ?_
      cases active
      exact raises same _ seen
  | write f next =>
      rw [rest] at raises
      simp only [rest] at steady ⊢
      refine later.change steady later.committed rfl fun same _ active => ?_
      cases active
      exact raises same

theorem System.Later.step (writes : ∀ input, Locking.Steady I (body input))
    (raises : ∀ input, Raises I (P input) (body input)) (later : s.Later I P session)
    (action : Action Input Session) : (Locking.step body s action).1.Later I P session := by
  have steady := later.steady.step writes action
  cases action with
  | issue other input =>
      rw [Locking.step] at steady ⊢
      cases idle : (s.current other).active with
      | none =>
          simp only [idle] at steady ⊢
          refine later.change steady later.committed rfl fun _ _ active => ?_
          cases active
          exact raises input
      | some a => simpa only [idle] using later
  | advance other =>
      rw [Locking.step]
      split
      · exact later
      · next a found => exact later.advance found
  | commit other =>
      rw [Locking.step] at steady ⊢
      cases idle : (s.current other).active with
      | none =>
          simp only [idle] at steady ⊢
          have committed := (later.steady other).done _ later.committed
          exact later.change steady committed rfl fun _ _ active => by cases active
      | some a => simpa only [idle] using later
  | abort other => exact later.change steady later.committed rfl fun _ _ active => by cases active

/-- A statement that a session issues when a property is committed raises only failures that
can be raised under it. -/
theorem System.raises_later (writes : ∀ input, Locking.Steady I (body input))
    (raises : ∀ input, Raises I (P input) (body input)) {start : σ}
    (before after : List (Action Input Session))
    (idle : ((Runs.run (Locking.step body) (.initial start) before).current session).active = none)
    (committed : I (Runs.run (Locking.step body) (.initial start) before).committed)
    {input : Input} {failure : ε}
    (shown : (Locking.step body (Runs.run (Locking.step body) (.initial start) (before ++ after))
      (.advance session)).2 = .answered input (.error failure)) : P input failure := by
  have steady : (Runs.run (Locking.step body) (.initial start) before).Steady I :=
    Runs.invariant_run _ (fun _ action steady => steady.step writes action) .initial before
  have later : (Runs.run (Locking.step body) (.initial start) (before ++ after)).Later I P
      session := by
    rw [Runs.run_append]
    refine Runs.invariant_run _ (fun _ action later => later.step writes raises action) ?_ after
    exact ⟨steady, committed, fun a found => by rw [idle] at found; cases found⟩
  obtain ⟨a, found, rfl, ⟨_, result, _⟩ | ⟨other, result, rest⟩⟩ := System.of_answered shown
  · cases result
  · cases result
    have raised := later.raises a found
    rwa [rest] at raised

end Locking
