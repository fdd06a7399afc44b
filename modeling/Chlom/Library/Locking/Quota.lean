import Chlom.Library.Locking.Transactions

/-!
# Quotas

Statements of a kind count themselves in a number that the state holds, under a lock.  When
they succeed only while the number is within a limit, the limit bounds the statements that
succeed, as long as none of them is aborted.  When they look at the number before they
count themselves, the limit bounds the number in every visible state.
-/

namespace Locking

variable {σ K ε α Input Session : Type} {parts : Parts σ K} {body : Input → Prog σ K ε α}

/-- A kind of statements, with the lock and the number under which they are counted. -/
structure Quota (σ K Input : Type) where
  counts : Input → Bool
  lock : K
  measure : σ → Nat
  limit : Nat

namespace Quota

variable {q : Quota σ K Input}

/-- Of the successful statements, those of the kind hold the lock, and they alone are
counted. -/
structure Counted (q : Quota σ K Input) (parts : Parts σ K) (body : Input → Prog σ K ε α) :
    Prop where
  lock : ∀ {s held input value s' held'}, q.counts input = true →
    Runs parts (body input) s held ⟨s', held', .ok value⟩ → q.lock ∈ held'
  count : ∀ {s held input value s' held'},
    Runs parts (body input) s held ⟨s', held', .ok value⟩ →
      q.measure s' = q.measure s + (q.counts input).toNat

/-! ## Statements of the kind -/

/-- The number of statements of the kind among some. -/
def number (q : Quota σ K Input) (past : List (Input × α)) : Nat :=
  past.countP fun entry => q.counts entry.1

@[simp]
theorem number_nil : q.number ([] : List (Input × α)) = 0 :=
  rfl

@[simp]
theorem number_append {past more : List (Input × α)} :
    q.number (past ++ more) = q.number past + q.number more :=
  List.countP_append

@[simp]
theorem number_singleton {input : Input} {value : α} :
    q.number [(input, value)] = (q.counts input).toNat := by
  cases counted : q.counts input <;> simp [number, counted]

/-- One after the other, all statements of the kind are counted. -/
theorem Counted.serial (counted : q.Counted parts body) {start s : σ} {past : List (Input × α)}
    (serial : Serial parts body start past s) :
    q.measure s = q.measure start + q.number past := by
  induction serial with
  | nil => rfl
  | snoc before runs ih =>
      rw [counted.count runs, ih, number_append, number_singleton, Nat.add_assoc]

/-- When none succeeds beyond the limit, there are no more of them one after the other. -/
theorem Counted.number_le (counted : q.Counted parts body)
    (within : ∀ {s held input value s' held'}, q.counts input = true →
      Runs parts (body input) s held ⟨s', held', .ok value⟩ → q.measure s' ≤ q.limit)
    {start s : σ} {past : List (Input × α)} (serial : Serial parts body start past s) :
    q.number past ≤ q.limit := by
  induction serial with
  | nil => exact Nat.zero_le q.limit
  | @snoc past s held input value s' held' before runs ih =>
      rw [number_append, number_singleton]
      cases kind : q.counts input with
      | true =>
          have most := within kind runs
          rw [counted.serial (before.snoc runs), number_append, number_singleton, kind] at most
          exact Nat.le_trans (Nat.le_add_left _ _) most
      | false => exact ih

/-! ## Sessions that hold the lock -/

/-- The successful statements of the kind that a session has not committed. -/
def pending (q : Quota σ K Input) (s : System σ K ε α Input Session) (session : Session) : Nat :=
  q.number (s.current session).past

/-- A session with such statements holds the lock. -/
def Holds (q : Quota σ K Input) (s : System σ K ε α Input Session) : Prop :=
  ∀ session, 0 < q.pending s session → q.lock ∈ (s.current session).held

theorem Holds.initial {start : σ} :
    q.Holds (System.initial start : System σ K ε α Input Session) :=
  fun _ some => absurd some (Nat.lt_irrefl 0)

variable {s s' : System σ K ε α Input Session} {session other : Session}

/-- All others are without such statements. -/
theorem pending_eq_zero (sound : s.Sound parts body) (holds : q.Holds s)
    (mine : q.lock ∈ (s.current session).locks) (apart : other ≠ session) :
    q.pending s other = 0 := by
  by_contra more
  have first := sound.owner session q.lock mine
  have second := sound.owner other q.lock
    ((sound.current other).held_subset (holds other (Nat.pos_of_ne_zero more)))
  exact apart (Option.some.inj (second.symm.trans first))

theorem Holds.unique (holds : q.Holds s) (sound : s.Sound parts body)
    (mine : 0 < q.pending s session) (apart : other ≠ session) : q.pending s other = 0 :=
  pending_eq_zero sound holds ((sound.current session).held_subset (holds session mine)) apart

/-- What a session sees is counted with its own statements. -/
theorem Counted.seen (counted : q.Counted parts body) (sound : s.Sound parts body) :
    q.measure (s.seen session) = q.measure s.committed + q.pending s session :=
  counted.serial (sound.seen session)

variable [DecidableEq Session]

theorem Holds.change (holds : q.Holds s) {t : Open σ K ε α Input}
    (current : s'.current = Function.update s.current session t)
    (lock : 0 < q.number t.past → q.lock ∈ t.held) : q.Holds s' := by
  intro other some
  by_cases same : other = session
  · rw [pending, current, same, Function.update_self] at some
    rw [current, same, Function.update_self]
    exact lock some
  · rw [pending, current, Function.update_of_ne same] at some
    rw [current, Function.update_of_ne same]
    exact holds other some

variable [DecidableEq K]

/-- A statement of the kind that succeeds keeps its lock. -/
theorem Holds.advance (counted : q.Counted parts body) (holds : q.Holds s)
    (sound : s.Sound parts body) {a : Active σ K ε α Input}
    (found : (s.current session).active = some a) :
    q.Holds (s.advance session (s.current session) a).1 := by
  have active := (sound.current session).active a found
  unfold System.advance
  split
  · next value rest =>
      refine holds.change rfl fun some => ?_
      rw [number_append, number_singleton] at some
      cases kind : q.counts a.input with
      | true =>
          have ended : Runs parts a.rest (a.delta s.committed) a.held
              ⟨a.delta s.committed, a.held, .ok value⟩ := by
            rw [rest]
            rfl
          exact counted.lock kind (active.ends _ .refl _ ended)
      | false =>
          rw [kind] at some
          exact active.locks (holds session some)
  · exact holds.change rfl (holds session)
  · split
    · exact holds.change rfl (holds session)
    · exact holds
  · exact holds.change rfl (holds session)
  · exact holds.change rfl (holds session)

theorem Holds.step (counted : q.Counted parts body) (holds : q.Holds s)
    (sound : s.Sound parts body) (action : Action Input Session) :
    q.Holds (Locking.step body s action).1 := by
  cases action with
  | issue session input =>
      rw [Locking.step]
      split
      · exact holds.change rfl (holds session)
      · exact holds
  | advance session =>
      rw [Locking.step]
      split
      · exact holds
      · next a found => exact holds.advance counted sound found
  | commit session =>
      rw [Locking.step]
      split
      · exact holds.change rfl fun some => absurd some (Nat.lt_irrefl 0)
      · exact holds
  | abort session => exact holds.change rfl fun some => absurd some (Nat.lt_irrefl 0)

/-! ## Statements that succeed -/

/-- An event is the success of a statement of the kind. -/
def succeeds (q : Quota σ K Input) : Event ε α Input → Bool
  | .answered input (.ok _) => q.counts input
  | _ => false

/-- The number of successes of the kind that a list of events shows. -/
def successes (q : Quota σ K Input) (events : List (Action Input Session × Event ε α Input)) : Nat :=
  events.countP fun entry => q.succeeds entry.2

/-- The successes of the kind are committed, except those of one session. -/
structure Tally (q : Quota σ K Input) (events : List (Action Input Session × Event ε α Input))
    (s : System σ K ε α Input Session) : Prop where
  settled : (∀ session, q.pending s session = 0) → q.successes events = q.number (history events)
  unsettled : ∀ session, 0 < q.pending s session →
    q.successes events = q.number (history events) + q.pending s session

omit [DecidableEq Session] [DecidableEq K] in
theorem Tally.initial {start : σ} :
    q.Tally [] (System.initial start : System σ K ε α Input Session) where
  settled _ := rfl
  unsettled _ some := absurd some (Nat.lt_irrefl 0)

variable {events : List (Action Input Session × Event ε α Input)}

omit [DecidableEq Session] [DecidableEq K] in
/-- The others being without statements of the kind, one session has all that are not
committed. -/
theorem Tally.alone (tally : q.Tally events s)
    (others : ∀ other, other ≠ session → q.pending s other = 0) :
    q.successes events = q.number (history events) + q.pending s session := by
  cases size : q.pending s session with
  | zero =>
      refine tally.settled fun other => ?_
      by_cases same : other = session
      · rw [same, size]
      · exact others other same
  | succ n =>
      rw [← size]
      exact tally.unsettled session (by omega)

omit [DecidableEq K] in
/-- One session may show successes and commit statements, as long as its own statements
make the difference. -/
theorem Tally.change (tally : q.Tally events s) (holds : q.Holds s) (sound : s.Sound parts body)
    (holds' : q.Holds s') (sound' : s'.Sound parts body) {t : Open σ K ε α Input}
    (current : s'.current = Function.update s.current session t) {action : Action Input Session}
    {event : Event ε α Input}
    (balance : q.pending s session + (q.succeeds event).toNat =
      q.number event.past + q.number t.past) : q.Tally (events ++ [(action, event)]) s' := by
  have mine : q.pending s' session = q.number t.past := by
    rw [pending, current, Function.update_self]
  have theirs (other : Session) (apart : other ≠ session) :
      q.pending s' other = q.pending s other := by
    rw [pending, current, Function.update_of_ne apart, pending]
  have shown : q.successes (events ++ [(action, event)]) =
      q.successes events + (q.succeeds event).toNat := by
    cases success : q.succeeds event <;> simp [successes, success]
  have committed : q.number (history (events ++ [(action, event)])) =
      q.number (history events) + q.number event.past := by
    simp [history]
  rw [← mine] at balance
  constructor
  · intro none_
    have alone := tally.alone fun other apart => theirs other apart ▸ none_ other
    have nothing := none_ session
    omega
  · intro other some
    by_cases same : other = session
    · subst same
      have alone := tally.alone fun another apart =>
        theirs another apart ▸ holds'.unique sound' some apart
      omega
    · -- the lock is with the other session, before and after
      have after := holds'.unique sound' some (Ne.symm same)
      rw [theirs other same] at some ⊢
      have before := holds.unique sound some (Ne.symm same)
      have unsettled := tally.unsettled other some
      omega

/-- An action does not abort successful statements of the kind. -/
def Spares (q : Quota σ K Input) (s : System σ K ε α Input Session) :
    Action Input Session → Prop
  | .abort session => q.pending s session = 0
  | _ => True

omit [DecidableEq Session] [DecidableEq K] in
/-- A session with the same statements shows and commits nothing. -/
theorem balance_same {t : Open σ K ε α Input} (same : t.past = (s.current session).past) :
    q.pending s session + (q.succeeds (.silent : Event ε α Input)).toNat =
      q.number (Event.silent : Event ε α Input).past + q.number t.past := by
  rw [same]
  exact (Nat.zero_add _).symm

/-- The steps of a statement change the transaction of its session, which gains what is
shown. -/
theorem advance_balance (session : Session) (a : Active σ K ε α Input) :
    ∃ t, (s.advance session (s.current session) a).1.current =
        Function.update s.current session t ∧
      q.pending s session + (q.succeeds (s.advance session (s.current session) a).2).toNat =
        q.number (s.advance session (s.current session) a).2.past + q.number t.past := by
  unfold System.advance
  split
  · exact ⟨_, rfl, by simp [pending, succeeds, Event.past]⟩
  · exact ⟨_, rfl, by simp [pending, succeeds, Event.past]⟩
  · split
    · exact ⟨_, rfl, balance_same rfl⟩
    · exact ⟨_, (Function.update_eq_self session s.current).symm, balance_same rfl⟩
  · exact ⟨_, rfl, balance_same rfl⟩
  · exact ⟨_, rfl, balance_same rfl⟩

/-- A step that aborts no success changes the transaction of one session, which gains what
is shown and loses what is committed. -/
theorem step_balance {action : Action Input Session} (spares : q.Spares s action) :
    ∃ session t, (Locking.step body s action).1.current = Function.update s.current session t ∧
      q.pending s session + (q.succeeds (Locking.step body s action).2).toNat =
        q.number (Locking.step body s action).2.past + q.number t.past := by
  have idle (session : Session) : s.current =
      Function.update s.current session (s.current session) :=
    (Function.update_eq_self session s.current).symm
  cases action with
  | issue session input =>
      rw [Locking.step]
      split
      · exact ⟨session, _, rfl, balance_same rfl⟩
      · exact ⟨session, _, idle session, balance_same rfl⟩
  | advance session =>
      rw [Locking.step]
      split
      · exact ⟨session, _, idle session, balance_same rfl⟩
      · next a found => exact ⟨session, advance_balance session a⟩
  | commit session =>
      rw [Locking.step]
      split
      · exact ⟨session, _, rfl, rfl⟩
      · exact ⟨session, _, idle session, balance_same rfl⟩
  | abort session =>
      have nothing : q.pending s session = 0 := spares
      exact ⟨session, .fresh, rfl, congrArg (· + 0) nothing⟩

theorem Tally.step (tally : q.Tally events s) (counted : q.Counted parts body)
    (holds : q.Holds s) (guarded : ∀ input, Guarded parts (body input))
    (sound : s.Sound parts body) {action : Action Input Session} (spares : q.Spares s action) :
    q.Tally (events ++ [(action, (Locking.step body s action).2)])
      (Locking.step body s action).1 := by
  obtain ⟨session, t, current, balance⟩ := step_balance spares
  exact tally.change holds sound (holds.step counted sound action) (sound.step guarded action)
    current balance

/-- In a run that aborts none of them, the limit bounds the successful statements of the
kind. -/
theorem Counted.successes_le (counted : q.Counted parts body)
    (within : ∀ {s held input value s' held'}, q.counts input = true →
      Runs parts (body input) s held ⟨s', held', .ok value⟩ → q.measure s' ≤ q.limit)
    (guarded : ∀ input, Guarded parts (body input)) {start : σ}
    (schedule : List (Action Input Session))
    (spares : Runs.Meets (Locking.step body) q.Spares (.initial start) schedule) :
    q.successes (Runs.trace (Locking.step body) (.initial start) schedule) ≤ q.limit := by
  have tally : q.Holds (Runs.run (Locking.step body) (.initial start) schedule) ∧
      q.Tally (Runs.trace (Locking.step body) (.initial start) schedule)
        (Runs.run (Locking.step body) (.initial start) schedule) := by
    induction schedule using List.reverseRecOn with
    | nil => exact ⟨.initial, .initial⟩
    | append_singleton before action ih =>
        obtain ⟨earlier, last, _⟩ := Runs.meets_append.mp spares
        obtain ⟨holds, tally⟩ := ih earlier
        have sound : (Runs.run (Locking.step body) (.initial start) before).Sound parts body :=
          .run guarded before
        rw [Runs.trace_append, Runs.run_append]
        exact ⟨holds.step counted sound action,
          tally.step counted holds guarded sound last⟩
  have sound : (Runs.run (Locking.step body) (.initial start) schedule).Sound parts body :=
    .run guarded schedule
  have committed := serial_run guarded start schedule
  by_cases every : ∀ session,
      q.pending (Runs.run (Locking.step body) (.initial start) schedule) session = 0
  · rw [tally.2.settled every]
    exact counted.number_le within committed
  · obtain ⟨session, some⟩ := not_forall.mp every
    have both := counted.number_le within (committed.append (sound.seen session))
    rw [number_append] at both
    rw [tally.2.unsettled session (Nat.pos_of_ne_zero some)]
    exact both

end Quota

end Locking
