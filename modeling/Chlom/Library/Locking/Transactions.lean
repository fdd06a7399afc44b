import Chlom.Library.Locking.Programs
import Chlom.Library.Runs
import Mathlib.Logic.Function.Basic

/-!
# Transactions under strict two-phase locking

Sessions issue statements whose steps interleave arbitrarily.  A statement sees the
committed state under the writes of its own transaction.  Locks are kept until the
transaction commits or aborts, except that a failed statement loses its writes and
the locks it acquired.  When all programs are safe, the committed state is always
the result of the committed statements one after the other, and a statement answers
what it could have answered right after them.
-/

namespace Locking

variable {σ K ε α Input Session : Type}

/-! ## Statements one after the other -/

/-- A list of statements, each run to success from the state that the one before it
left. -/
inductive Serial (parts : Parts σ K) (body : Input → Prog σ K ε α) (start : σ) :
    List (Input × α) → σ → Prop
  | nil : Serial parts body start [] start
  | snoc {past s held input value s' held'} (before : Serial parts body start past s)
      (runs : Runs parts (body input) s held ⟨s', held', .ok value⟩) :
      Serial parts body start (past ++ [(input, value)]) s'

theorem Serial.append {parts : Parts σ K} {body : Input → Prog σ K ε α} {start s s' : σ}
    {past more : List (Input × α)} (first : Serial parts body start past s)
    (second : Serial parts body s more s') : Serial parts body start (past ++ more) s' := by
  induction second with
  | nil => rwa [List.append_nil]
  | snoc before runs ih =>
      rw [← List.append_assoc]
      exact ih.snoc runs

/-- What every successful statement keeps holds after all of them. -/
theorem Serial.invariant {parts : Parts σ K} {body : Input → Prog σ K ε α} {start s : σ}
    {past : List (Input × α)} (serial : Serial parts body start past s) (Inv : σ → Prop)
    (initial : Inv start)
    (keeps : ∀ s held input value s' held', Inv s →
      Runs parts (body input) s held ⟨s', held', .ok value⟩ → Inv s') : Inv s := by
  induction serial with
  | nil => exact initial
  | snoc before runs ih => exact keeps _ _ _ _ _ _ ih runs

/-! ## Sessions -/

/-- A statement under way: the locks and the writes of its transaction so far, and
the rest of its program. -/
structure Active (σ K ε α Input : Type) where
  input : Input
  held : List K
  delta : σ → σ
  rest : Prog σ K ε α

/-- A transaction under way: its successful statements, and their locks and writes. -/
structure Open (σ K ε α Input : Type) where
  past : List (Input × α)
  held : List K
  delta : σ → σ
  active : Option (Active σ K ε α Input)

def Open.fresh : Open σ K ε α Input where
  past := []
  held := []
  delta := id
  active := none

/-- All locks of a transaction, with those of its statement under way. -/
def Open.locks (t : Open σ K ε α Input) : List K :=
  match t.active with
  | none => t.held
  | some statement => statement.held

structure System (σ K ε α Input Session : Type) where
  committed : σ
  owner : K → Option Session
  current : Session → Open σ K ε α Input

inductive Action (Input Session : Type) where
  | issue (session : Session) (input : Input)
  | advance (session : Session)
  | commit (session : Session)
  | abort (session : Session)

/-- What an action shows. -/
inductive Event (ε α Input : Type) where
  | silent
  | answered (input : Input) (result : Except ε α)
  | committed (past : List (Input × α))

/-- The statements that an event commits. -/
def Event.past : Event ε α Input → List (Input × α)
  | .committed past => past
  | _ => []

/-! ## What a transaction keeps -/

section Keeps

variable {parts : Parts σ K} {body : Input → Prog σ K ε α}

/-- The statement under way: however its rest ends, so can the whole, from every state
that agrees with the committed one under its locks. -/
structure Active.Sound (parts : Parts σ K) (body : Input → Prog σ K ε α) (committed : σ)
    (t : Open σ K ε α Input) (a : Active σ K ε α Input) : Prop where
  ends : ∀ base, AgreeOn parts a.held committed base → ∀ out,
    Runs parts a.rest (a.delta base) a.held out →
      Runs parts (body a.input) (t.delta base) t.held out
  safe : Safe parts (fun _ _ => True) a.held a.rest
  keeps : Local parts a.held a.delta
  locks : t.held ⊆ a.held

/-- The transaction under way: its statements can run one after the other from every
state that agrees with the committed one under its locks. -/
structure Open.Sound (parts : Parts σ K) (body : Input → Prog σ K ε α) (committed : σ)
    (t : Open σ K ε α Input) : Prop where
  serial : ∀ base, AgreeOn parts t.held committed base →
    Serial parts body base t.past (t.delta base)
  keeps : Local parts t.held t.delta
  active : ∀ a, t.active = some a → a.Sound parts body committed t

theorem Open.Sound.fresh {committed : σ} :
    (Open.fresh : Open σ K ε α Input).Sound parts body committed where
  serial _ _ := .nil
  keeps := .id
  active _ found := by cases found

theorem Open.Sound.held_subset {committed : σ} {t : Open σ K ε α Input}
    (sound : t.Sound parts body committed) : t.held ⊆ t.locks := by
  unfold Open.locks
  split
  · exact fun _ member => member
  · next a found => exact (sound.active a found).locks

/-- A transaction stays sound while the parts under its locks stay. -/
theorem Open.Sound.transfer {committed committed' : σ} {t : Open σ K ε α Input}
    (sound : t.Sound parts body committed) (agree : AgreeOn parts t.locks committed committed') :
    t.Sound parts body committed' := by
  have held := sound.held_subset
  refine ⟨fun base same => sound.serial base ((agree.mono held).trans same), sound.keeps, ?_⟩
  intro a found
  have locks : t.locks = a.held := by rw [Open.locks, found]
  rw [locks] at agree
  obtain ⟨ends, safe, keeps, subset⟩ := sound.active a found
  exact ⟨fun base same => ends base (agree.trans same), safe, keeps, subset⟩

variable {t : Open σ K ε α Input}

/-- The next statement starts where the last one ended. -/
theorem Open.Sound.issue {committed : σ} (guarded : ∀ input, Guarded parts (body input))
    (sound : t.Sound parts body committed) (input : Input) :
    ({ t with active := some ⟨input, t.held, t.delta, body input⟩ } :
      Open σ K ε α Input).Sound parts body committed where
  serial := sound.serial
  keeps := sound.keeps
  active a found := by
    cases found
    refine ⟨fun _ _ _ runs => runs, ?_, sound.keeps, fun _ member => member⟩
    exact (guarded input).mono (fun _ _ _ _ _ => trivial) (List.nil_subset _)

/-- A statement that is done joins its transaction. -/
theorem Open.Sound.done {committed : σ} (sound : t.Sound parts body committed)
    {a : Active σ K ε α Input} (active : a.Sound parts body committed t) {value : α}
    (rest : a.rest = .done value) :
    (⟨t.past ++ [(a.input, value)], a.held, a.delta, none⟩ : Open σ K ε α Input).Sound parts body
      committed where
  serial base agree := by
    have ran := active.ends base agree ⟨a.delta base, a.held, .ok value⟩ (by rw [rest]; rfl)
    exact (sound.serial base (agree.mono active.locks)).snoc ran
  keeps := active.keeps
  active _ found := by cases found

theorem Open.Sound.raise {committed : σ} (sound : t.Sound parts body committed) :
    ({ t with active := none } : Open σ K ε α Input).Sound parts body committed where
  serial := sound.serial
  keeps := sound.keeps
  active _ found := by cases found

/-- One step of a statement keeps what its end will mean. -/
theorem Open.Sound.progress {committed : σ} (sound : t.Sound parts body committed)
    {a : Active σ K ε α Input}
    (active : a.Sound parts body committed t) :
    ({ t with active := some a } : Open σ K ε α Input).Sound parts body committed where
  serial := sound.serial
  keeps := sound.keeps
  active _ found := by
    cases found
    exact ⟨active.ends, active.safe, active.keeps, active.locks⟩

end Keeps

/-! ## Actions -/

def System.initial (start : σ) : System σ K ε α Input Session where
  committed := start
  owner _ := none
  current _ := .fresh

section System

variable [DecidableEq Session]

def System.enter (s : System σ K ε α Input Session) (session : Session)
    (t : Open σ K ε α Input) : System σ K ε α Input Session :=
  { s with current := Function.update s.current session t }

variable [DecidableEq K]

/-- Give back all locks of a session but some. -/
def System.release (s : System σ K ε α Input Session) (session : Session) (kept : List K) :
    System σ K ε α Input Session :=
  { s with owner := fun name =>
      if s.owner name = some session ∧ name ∉ kept then none else s.owner name }

/-- Take one step of the statement under way. -/
def System.advance (s : System σ K ε α Input Session) (session : Session)
    (t : Open σ K ε α Input) (a : Active σ K ε α Input) :
    System σ K ε α Input Session × Event ε α Input :=
  match a.rest with
  | .done value =>
      (s.enter session ⟨t.past ++ [(a.input, value)], a.held, a.delta, none⟩,
        .answered a.input (.ok value))
  | .raise failure =>
      ((s.release session t.held).enter session { t with active := none },
        .answered a.input (.error failure))
  | .lock name next =>
      if s.owner name = none ∨ s.owner name = some session then
        ({ s.enter session { t with active := some { a with held := name :: a.held, rest := next } }
            with owner := Function.update s.owner name (some session) }, .silent)
      else (s, .silent)
  | .read next =>
      (s.enter session { t with active := some { a with rest := next (a.delta s.committed) } },
        .silent)
  | .write f next =>
      (s.enter session { t with active := some { a with delta := f ∘ a.delta, rest := next } },
        .silent)

/-- Take one action.  An action that a session is not ready for changes nothing. -/
def step (body : Input → Prog σ K ε α) (s : System σ K ε α Input Session) :
    Action Input Session → System σ K ε α Input Session × Event ε α Input
  | .issue session input =>
      let t := s.current session
      match t.active with
      | none => (s.enter session
          { t with active := some ⟨input, t.held, t.delta, body input⟩ }, .silent)
      | some _ => (s, .silent)
  | .advance session =>
      let t := s.current session
      match t.active with
      | none => (s, .silent)
      | some a => s.advance session t a
  | .commit session =>
      let t := s.current session
      match t.active with
      | none => ({ (s.release session []).enter session .fresh with
          committed := t.delta s.committed }, .committed t.past)
      | some _ => (s, .silent)
  | .abort session => ((s.release session []).enter session .fresh, .silent)

end System

/-! ## What a system keeps -/

section Sound

variable {parts : Parts σ K} {body : Input → Prog σ K ε α} {s s' : System σ K ε α Input Session}
  {session : Session}

structure System.Sound (parts : Parts σ K) (body : Input → Prog σ K ε α)
    (s : System σ K ε α Input Session) : Prop where
  current : ∀ session, (s.current session).Sound parts body s.committed
  owner : ∀ session, ∀ name ∈ (s.current session).locks, s.owner name = some session

theorem System.Sound.initial {start : σ} :
    (System.initial start : System σ K ε α Input Session).Sound parts body where
  current _ := .fresh
  owner _ _ member := by cases member

/-- What a session sees after its finished statements. -/
def System.seen (s : System σ K ε α Input Session) (session : Session) : σ :=
  (s.current session).delta s.committed

theorem System.Sound.seen (sound : s.Sound parts body) (session : Session) :
    Serial parts body s.committed (s.current session).past (s.seen session) :=
  (sound.current session).serial _ .refl

/-- The writes of a session keep to its locks, which no other holds. -/
theorem System.Sound.agree_seen (sound : s.Sound parts body) {other : Session}
    (apart : other ≠ session) :
    AgreeOn parts (s.current other).locks s.committed (s.seen session) := by
  intro name member
  refine ((sound.current session).keeps.frame (fun held => apart ?_) _).symm
  have mine := sound.owner session name ((sound.current session).held_subset held)
  have theirs := sound.owner other name member
  exact Option.some.inj (theirs.symm.trans mine)

variable [DecidableEq Session]

/-- One session may change its transaction and the owner of its locks, and change the
committed state where no other holds a lock. -/
theorem System.Sound.change (sound : s.Sound parts body) {t : Open σ K ε α Input}
    (current : s'.current = Function.update s.current session t)
    (opened : t.Sound parts body s'.committed)
    (locks : ∀ name ∈ t.locks, s'.owner name = some session)
    (others : ∀ other, other ≠ session → ∀ name, s.owner name = some other →
      s'.owner name = some other)
    (agree : ∀ other, other ≠ session →
      AgreeOn parts (s.current other).locks s.committed s'.committed) : s'.Sound parts body := by
  constructor
  · intro other
    rw [current]
    by_cases same : other = session
    · subst same
      rwa [Function.update_self]
    · rw [Function.update_of_ne same]
      exact (sound.current other).transfer (agree other same)
  · intro other
    rw [current]
    by_cases same : other = session
    · subst same
      rwa [Function.update_self]
    · rw [Function.update_of_ne same]
      exact fun name member => others other same name (sound.owner other name member)

/-- A session that keeps the committed state and all owners may change its transaction
within its locks. -/
theorem System.Sound.enter (sound : s.Sound parts body) {t : Open σ K ε α Input}
    (opened : t.Sound parts body s.committed) (locks : t.locks ⊆ (s.current session).locks) :
    (s.enter session t).Sound parts body :=
  sound.change rfl opened (fun name member => sound.owner session name (locks member))
    (fun _ _ _ owned => owned) fun _ _ => .refl

variable [DecidableEq K]

theorem System.release_other {kept : List K} {other : Session} (apart : other ≠ session) {name : K}
    (owned : s.owner name = some other) : (s.release session kept).owner name = some other := by
  have held : ¬ (s.owner name = some session ∧ name ∉ kept) := by
    rw [owned]
    exact fun both => apart (Option.some.inj both.1)
  exact (if_neg held).trans owned

theorem System.release_kept {kept : List K} {name : K} (owned : s.owner name = some session)
    (member : name ∈ kept) : (s.release session kept).owner name = some session := by
  have held : ¬ (s.owner name = some session ∧ name ∉ kept) := fun both => both.2 member
  exact (if_neg held).trans owned

theorem System.Sound.advance (sound : s.Sound parts body) {a : Active σ K ε α Input}
    (found : (s.current session).active = some a) :
    (s.advance session (s.current session) a).1.Sound parts body := by
  have opened := sound.current session
  have active := opened.active a found
  have locks : (s.current session).locks = a.held := by rw [Open.locks, found]
  obtain ⟨ends, safe, keeps, subset⟩ := active
  unfold System.advance
  split
  · next value rest =>
      refine sound.enter (opened.done (opened.active a found) rest) ?_
      rw [locks]
      exact fun _ member => member
  · next failure rest =>
      refine sound.change rfl opened.raise ?_ ?_ fun _ _ => .refl
      · intro name member
        exact System.release_kept (sound.owner session name (opened.held_subset member)) member
      · exact fun other apart name owned => System.release_other apart owned
  · next name next rest =>
      split
      · next free =>
          rw [rest] at ends safe
          refine sound.change rfl (opened.progress ⟨?_, safe, ?_, ?_⟩) ?_ ?_ fun _ _ => .refl
          · exact fun base agree out runs =>
              ends base (agree.mono (List.subset_cons_self name a.held)) out runs
          · exact keeps.mono (List.subset_cons_self name a.held)
          · exact fun _ member => List.mem_cons_of_mem name (subset member)
          · intro other member
            rcases List.mem_cons.mp member with rfl | earlier
            · exact Function.update_self ..
            · by_cases same : other = name
              · rw [same]
                exact Function.update_self ..
              · refine (Function.update_of_ne same ..).trans (sound.owner session other ?_)
                rwa [locks]
          · intro other apart held owned
            refine (Function.update_of_ne ?_ ..).trans owned
            rintro rfl
            rw [owned] at free
            simp [apart] at free
      · exact sound
  · next next rest =>
      rw [rest] at ends safe
      refine sound.enter (opened.progress ⟨?_, safe _, keeps, subset⟩) ?_
      · intro base agree out runs
        exact ends base agree out ⟨_, keeps.congr agree.symm, runs⟩
      · rw [locks]
        exact fun _ member => member
  · next f next rest =>
      rw [rest] at ends safe
      refine sound.enter (opened.progress ⟨ends, safe.2, safe.1.comp keeps, subset⟩) ?_
      rw [locks]
      exact fun _ member => member

theorem System.Sound.step (guarded : ∀ input, Guarded parts (body input))
    (sound : s.Sound parts body) (action : Action Input Session) :
    (Locking.step body s action).1.Sound parts body := by
  cases action with
  | issue session input =>
      rw [Locking.step]
      split
      · next idle =>
          refine sound.enter ((sound.current session).issue guarded input) ?_
          rw [Open.locks, Open.locks, idle]
          exact fun _ member => member
      · exact sound
  | advance session =>
      rw [Locking.step]
      split
      · exact sound
      · next a found => exact sound.advance found
  | commit session =>
      rw [Locking.step]
      split
      · next idle =>
          exact sound.change rfl .fresh (fun _ member => by cases member)
            (fun other apart name owned => System.release_other apart owned)
            fun other apart => sound.agree_seen apart
      · exact sound
  | abort session =>
      exact sound.change rfl .fresh (fun _ member => by cases member)
        (fun other apart name owned => System.release_other apart owned) fun _ _ => .refl

/-! ## Runs of a system -/

theorem System.Sound.run (guarded : ∀ input, Guarded parts (body input)) {start : σ}
    (schedule : List (Action Input Session)) :
    (Runs.run (Locking.step body) (.initial start) schedule).Sound parts body :=
  Runs.invariant_run _ (fun _ action sound => sound.step guarded action) .initial schedule

/-- The steps of a statement under way leave the committed state alone. -/
theorem System.advance_committed (session : Session) (t : Open σ K ε α Input)
    (a : Active σ K ε α Input) :
    (s.advance session t a).1.committed = s.committed ∧ (s.advance session t a).2.past = [] := by
  unfold System.advance
  split
  · exact ⟨rfl, rfl⟩
  · exact ⟨rfl, rfl⟩
  · split <;> exact ⟨rfl, rfl⟩
  · exact ⟨rfl, rfl⟩
  · exact ⟨rfl, rfl⟩

/-- A commit adds its statements after all those committed before. -/
theorem System.Sound.committed (sound : s.Sound parts body) (action : Action Input Session) :
    Serial parts body s.committed (Locking.step body s action).2.past
      (Locking.step body s action).1.committed := by
  cases action with
  | issue session input =>
      rw [Locking.step]
      cases (s.current session).active <;> exact .nil
  | advance session =>
      rw [Locking.step]
      cases (s.current session).active with
      | none => exact .nil
      | some a =>
          obtain ⟨same, silent⟩ := System.advance_committed (s := s) session (s.current session) a
          simp only [same, silent]
          exact .nil
  | commit session =>
      rw [Locking.step]
      cases idle : (s.current session).active with
      | none => exact (sound.current session).serial _ .refl
      | some a => exact .nil
  | abort session => exact .nil

/-- A step answers when the statement under way has come to its end. -/
theorem System.of_answered {input : Input} {result : Except ε α}
    (shown : (Locking.step body s (.advance session)).2 = .answered input result) :
    ∃ a, (s.current session).active = some a ∧ a.input = input ∧
      ((∃ value, result = .ok value ∧ a.rest = .done value) ∨
        ∃ failure, result = .error failure ∧ a.rest = .raise failure) := by
  rw [Locking.step] at shown
  cases found : (s.current session).active with
  | none =>
      rw [found] at shown
      cases shown
  | some a =>
      refine ⟨a, rfl, ?_⟩
      simp only [found, System.advance] at shown
      cases rest : a.rest with
      | done value =>
          rw [rest] at shown
          cases shown
          exact ⟨rfl, .inl ⟨value, rfl, rfl⟩⟩
      | raise failure =>
          rw [rest] at shown
          cases shown
          exact ⟨rfl, .inr ⟨failure, rfl, rfl⟩⟩
      | lock name next =>
          rw [rest] at shown
          dsimp only at shown
          split at shown <;> cases shown
      | read next =>
          rw [rest] at shown
          cases shown
      | write f next =>
          rw [rest] at shown
          cases shown

/-- A statement answers what it can answer from what its session sees. -/
theorem System.Sound.answered (sound : s.Sound parts body) {input : Input} {result : Except ε α}
    (shown : (Locking.step body s (.advance session)).2 = .answered input result) :
    ∃ held s' held', Runs parts (body input) (s.seen session) held ⟨s', held', result⟩ := by
  obtain ⟨a, found, rfl, ended⟩ := System.of_answered shown
  have active := (sound.current session).active a found
  refine ⟨(s.current session).held, a.delta s.committed, a.held, active.ends _ .refl _ ?_⟩
  rcases ended with ⟨value, rfl, rest⟩ | ⟨failure, rfl, rest⟩
  · rw [rest]
    rfl
  · rw [rest]
    rfl

/-- The committed state, or what a session sees after its finished statements. -/
def System.Visible (s : System σ K ε α Input Session) (state : σ) : Prop :=
  state = s.committed ∨ ∃ session, state = (s.current session).delta s.committed

/-- The committed state and what every session has done are the same. -/
structure System.Unchanged (s s' : System σ K ε α Input Session) : Prop where
  committed : s'.committed = s.committed
  done : ∀ session, (s'.current session).delta = (s.current session).delta

/-- What every successful statement keeps holds in every visible state. -/
theorem visible_invariant (parts : Parts σ K) {body : Input → Prog σ K ε α}
    (guarded : ∀ input, Guarded parts (body input)) (Inv : σ → Prop)
    (keeps : ∀ s held input value s' held', Inv s →
      Runs parts (body input) s held ⟨s', held', .ok value⟩ → Inv s')
    {start : σ} (initial : Inv start) (schedule : List (Action Input Session)) {state : σ}
    (visible : (Runs.run (step body) (.initial start) schedule).Visible state) : Inv state := by
  have sound : (Runs.run (step body) (.initial start) schedule).Sound parts body :=
    .run guarded schedule
  have committed : Inv (Runs.run (step body) (.initial start) schedule).committed := by
    refine (Runs.invariant_run (fun s : System σ K ε α Input Session =>
      s.Sound parts body ∧ Inv s.committed) ?_ ⟨.initial, initial⟩ schedule).2
    rintro s action ⟨sound, inv⟩
    exact ⟨sound.step guarded action, (sound.committed action).invariant Inv inv keeps⟩
  rcases visible with rfl | ⟨session, rfl⟩
  · exact committed
  · exact ((sound.current session).serial _ .refl).invariant Inv committed keeps

/-- The statements that a list of events commits. -/
def history (trace : List (Action Input Session × Event ε α Input)) : List (Input × α) :=
  trace.flatMap fun entry => entry.2.past

/-- Between two moments of a run the committed state changes by the committed statements
one after the other. -/
theorem System.Sound.serial_run (guarded : ∀ input, Guarded parts (body input))
    (sound : s.Sound parts body) (schedule : List (Action Input Session)) :
    Serial parts body s.committed (history (Runs.trace (Locking.step body) s schedule))
      (Runs.run (Locking.step body) s schedule).committed := by
  induction schedule using List.reverseRecOn with
  | nil => exact .nil
  | append_singleton before action ih =>
      have later : (Runs.run (Locking.step body) s before).Sound parts body :=
        Runs.invariant_run _ (fun _ action sound => sound.step guarded action) sound before
      rw [Runs.trace_append, Runs.run_append, history, List.flatMap_append]
      refine ih.append ?_
      simpa [Runs.trace] using later.committed action

/-- The committed state is always the result of the committed statements one after
the other. -/
theorem serial_run (guarded : ∀ input, Guarded parts (body input)) (start : σ)
    (schedule : List (Action Input Session)) :
    Serial parts body start (history (Runs.trace (step body) (.initial start) schedule))
      (Runs.run (step body) (.initial start) schedule).committed :=
  System.Sound.initial.serial_run guarded schedule

/-- A statement that is answered with a value has joined its transaction. -/
theorem System.answered_past {input : Input} {value : α}
    (shown : (Locking.step body s (.advance session)).2 = .answered input (.ok value)) :
    ((Locking.step body s (.advance session)).1.current session).past =
      (s.current session).past ++ [(input, value)] := by
  obtain ⟨a, found, rfl, ⟨_, result, rest⟩ | ⟨_, result, _⟩⟩ := System.of_answered shown
  · cases result
    rw [Locking.step]
    simp only [found, System.advance, rest, System.enter, Function.update_self]
  · cases result

/-- The steps of a statement under way keep the finished statements of every session. -/
theorem System.past_advance {entry : Input × α} {other : Session} {a : Active σ K ε α Input}
    (member : entry ∈ (s.current session).past) :
    entry ∈ ((s.advance other (s.current other) a).1.current session).past := by
  unfold System.advance
  by_cases same : session = other
  · subst same
    split <;> (try split) <;> simp [System.enter, System.release, member]
  · split <;> (try split) <;>
      simp [System.enter, System.release, Function.update_of_ne same, member]

/-- A finished statement waits in its transaction until this is committed or aborted. -/
theorem System.past_step (body : Input → Prog σ K ε α) {entry : Input × α}
    {action : Action Input Session} (kept : action ≠ .abort session) (member : entry ∈ (s.current session).past) :
    entry ∈ (Locking.step body s action).2.past ∨
      entry ∈ ((Locking.step body s action).1.current session).past := by
  cases action with
  | issue other input =>
      right
      rw [Locking.step]
      cases (s.current other).active with
      | some a => exact member
      | none =>
          by_cases same : session = other
          · subst same
            simpa [System.enter] using member
          · simpa [System.enter, Function.update_of_ne same] using member
  | advance other =>
      right
      rw [Locking.step]
      cases (s.current other).active with
      | none => exact member
      | some a => exact System.past_advance member
  | commit other =>
      rw [Locking.step]
      cases (s.current other).active with
      | some a => exact .inr member
      | none =>
          by_cases same : session = other
          · subst same
            exact .inl member
          · right
            simpa [System.enter, System.release, Function.update_of_ne same] using member
  | abort other =>
      right
      have same : session ≠ other := by
        rintro rfl
        exact kept rfl
      simpa [Locking.step, System.enter, System.release, Function.update_of_ne same] using member

/-- What a session has finished is committed at its next commit, unless it aborts before. -/
theorem System.past_run (body : Input → Prog σ K ε α) {entry : Input × α}
    (schedule : List (Action Input Session))
    (kept : ∀ action ∈ schedule, action ≠ .abort session)
    (member : entry ∈ (s.current session).past) :
    entry ∈ history (Runs.trace (Locking.step body) s schedule) ∨
      entry ∈ ((Runs.run (Locking.step body) s schedule).current session).past := by
  induction schedule using List.reverseRecOn with
  | nil => exact .inr member
  | append_singleton before action ih =>
      rw [Runs.trace_append, Runs.run_append, history, List.flatMap_append, List.mem_append]
      rcases ih fun other earlier => kept other (List.mem_append_left _ earlier) with
        committed | waiting
      · exact .inl (.inl committed)
      · have last : action ≠ .abort session := kept action (by simp)
        rcases System.past_step body last waiting with committed | waiting
        · exact .inl (.inr (by simpa [Runs.trace] using committed))
        · exact .inr waiting

/-- So it is committed by a commit that finds the session between statements. -/
theorem System.past_committed (body : Input → Prog σ K ε α) {entry : Input × α}
    (between after : List (Action Input Session))
    (kept : ∀ action ∈ between, action ≠ .abort session)
    (member : entry ∈ (s.current session).past)
    (idle : ((Runs.run (Locking.step body) s between).current session).active = none) :
    entry ∈ history (Runs.trace (Locking.step body) s (between ++ .commit session :: after)) := by
  rw [Runs.trace_append, history, List.flatMap_append, List.mem_append]
  rcases System.past_run body between kept member with earlier | waiting
  · exact .inl earlier
  · right
    rw [Runs.trace, List.flatMap_cons, List.mem_append]
    left
    simp only [Locking.step, idle]
    exact waiting

/-- A statement that fails leaves nothing behind. -/
theorem System.refused {input : Input} {failure : ε}
    (shown : (Locking.step body s (.advance session)).2 = .answered input (.error failure)) :
    s.Unchanged (Locking.step body s (.advance session)).1 := by
  obtain ⟨a, found, _, ⟨_, result, _⟩ | ⟨_, _, rest⟩⟩ := System.of_answered shown
  · cases result
  · rw [Locking.step]
    simp only [found, System.advance, rest]
    refine ⟨rfl, fun other => ?_⟩
    by_cases same : other = session
    · subst same
      simp [System.enter, System.release]
    · simp [System.enter, System.release, Function.update_of_ne same]

end Sound

end Locking
