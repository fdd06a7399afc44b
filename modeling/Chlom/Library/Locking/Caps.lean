import Chlom.Library.Locking.Quota

/-!
# Caps

A statement of a kind looks at the number of the kind under its lock, before it writes
anything, and goes on only below the limit.  Until its transaction ends no other session
commits a statement of the kind: so the number stays within the limit in every visible
state.
-/

namespace Locking

variable {σ K ε α β Input Session : Type} {parts : Parts σ K} {body : Input → Prog σ K ε α}

namespace Quota

variable {q : Quota σ K Input}

/-- Before it writes anything or comes to its end, a program reads a number below the limit
under the lock. -/
def Looks (q : Quota σ K Input) : List K → Prog σ K ε α → Prop
  | _, .done _ => False
  | _, .raise _ => True
  | held, .lock name next => Looks q (name :: held) next
  | held, .read next => ∀ seen,
      (q.lock ∈ held ∧ q.measure seen < q.limit) ∨ Looks q held (next seen)
  | _, .write _ _ => False

theorem Looks.mono {p : Prog σ K ε α} {held more : List K} (subset : held ⊆ more)
    (looks : q.Looks held p) : q.Looks more p := by
  induction p generalizing held more with
  | done value => exact looks
  | raise failure => trivial
  | lock name next ih => exact ih (List.cons_subset_cons name subset) looks
  | read next ih =>
      intro seen
      rcases looks seen with ⟨member, below⟩ | later
      · exact .inl ⟨subset member, below⟩
      · exact .inr (ih seen subset later)
  | write f next ih => exact looks

section Programs

variable {held : List K} {failure : ε}

/-- What comes after the look does not matter. -/
theorem Looks.bind {p : Prog σ K ε α} {f : α → Prog σ K ε β} (looks : q.Looks held p) :
    q.Looks held (p >>= f) := by
  change q.Looks held (p.bind f)
  induction p generalizing held with
  | done value => cases looks
  | raise failure => trivial
  | lock name next ih => exact ih looks
  | read next ih =>
      intro seen
      rcases looks seen with below | later
      · exact .inl below
      · exact .inr (ih seen later)
  | write g next ih => cases looks

theorem looks_acquire_bind {name : K} {f : Unit → Prog σ K ε β}
    (next : q.Looks (name :: held) (f ())) : q.Looks held (Prog.acquire name >>= f) :=
  next

theorem looks_query_bind {g : σ → α} {f : α → Prog σ K ε β}
    (next : ∀ seen, q.Looks held (f (g seen))) : q.Looks held (Prog.query g >>= f) :=
  fun seen => .inr (next seen)

theorem looks_ensure_bind {condition : Prop} [Decidable condition] {f : Unit → Prog σ K ε β}
    (next : condition → q.Looks held (f ())) :
    q.Looks held (Prog.ensure condition failure >>= f) := by
  by_cases holds : condition
  · rw [Prog.ensure, if_pos holds]
    exact next holds
  · rw [Prog.ensure, if_neg holds]
    trivial

theorem looks_okOr_bind {found : Option α} {f : α → Prog σ K ε β}
    (next : ∀ value, found = some value → q.Looks held (f value)) :
    q.Looks held (Prog.okOr found failure >>= f) := by
  cases found with
  | none => trivial
  | some value => exact next value rfl

/-- The look itself: a program that reads a number at the limit raises a failure. -/
theorem looks_measure {g : σ → α} {condition : α → Prop} [DecidablePred condition]
    {f : α → Unit → Prog σ K ε β} (member : q.lock ∈ held)
    (below : ∀ seen, condition (g seen) → q.measure seen < q.limit) :
    q.Looks held (Prog.query g >>= fun value =>
      Prog.ensure (condition value) failure >>= f value) := by
  intro seen
  by_cases holds : condition (g seen)
  · exact .inl ⟨member, below seen holds⟩
  · refine .inr ?_
    change q.Looks held (Prog.ensure (condition (g seen)) failure >>= f (g seen))
    rw [Prog.ensure, if_neg holds]
    trivial

end Programs

/-! ## Sessions below the limit -/

/-- A statement of the kind has yet to look, or holds the lock with room for one more. -/
def Admitted (q : Quota σ K Input) (committed : σ) (t : Open σ K ε α Input)
    (a : Active σ K ε α Input) : Prop :=
  (a.delta = t.delta ∧ q.Looks a.held a.rest) ∨
    (q.lock ∈ a.held ∧ q.measure committed + q.number t.past < q.limit)

/-- A transaction with its statement under way stays within the limit. -/
structure Fits (q : Quota σ K Input) (committed : σ) (t : Open σ K ε α Input) : Prop where
  past : q.measure committed + q.number t.past ≤ q.limit
  active : ∀ a, t.active = some a → q.counts a.input = true → q.Admitted committed t a

theorem Fits.fresh {committed : σ} (within : q.measure committed ≤ q.limit) :
    q.Fits committed (Open.fresh : Open σ K ε α Input) where
  past := within
  active _ found := by cases found

theorem Fits.idle {committed : σ} {t : Open σ K ε α Input} (fits : q.Fits committed t) :
    q.Fits committed ({ t with active := none } : Open σ K ε α Input) where
  past := fits.past
  active _ found := by cases found

theorem Fits.progress {committed : σ} {t : Open σ K ε α Input} (fits : q.Fits committed t)
    {a : Active σ K ε α Input} (admitted : q.counts a.input = true → q.Admitted committed t a) :
    q.Fits committed ({ t with active := some a } : Open σ K ε α Input) where
  past := fits.past
  active _ found := by
    cases found
    exact admitted

structure Capped (q : Quota σ K Input) (s : System σ K ε α Input Session) : Prop where
  committed : q.measure s.committed ≤ q.limit
  current : ∀ session, q.Fits s.committed (s.current session)

theorem Capped.initial {start : σ} (within : q.measure start ≤ q.limit) :
    q.Capped (System.initial start : System σ K ε α Input Session) where
  committed := within
  current _ := .fresh within

variable [DecidableEq Session] {s s' : System σ K ε α Input Session} {session : Session}

/-- One session may change its transaction. -/
theorem Capped.change (capped : q.Capped s) {t : Open σ K ε α Input}
    (current : s'.current = Function.update s.current session t)
    (committed : s'.committed = s.committed) (fits : q.Fits s.committed t) : q.Capped s' := by
  constructor
  · rw [committed]
    exact capped.committed
  · rw [current, committed]
    exact (Function.forall_update_iff _ fun _ opened => q.Fits s.committed opened).mpr
      ⟨fits, fun other _ => capped.current other⟩

/-- A commit leaves the room of those that hold the lock. -/
theorem Capped.commit (capped : q.Capped s) (counted : q.Counted parts body)
    (holds : q.Holds s) (sound : s.Sound parts body)
    (current : s'.current = Function.update s.current session .fresh)
    (committed : s'.committed = s.seen session) : q.Capped s' := by
  have measure : q.measure s'.committed = q.measure s.committed + q.pending s session := by
    rw [committed]
    exact counted.seen sound
  have within : q.measure s'.committed ≤ q.limit := by
    rw [measure]
    exact (capped.current session).past
  refine ⟨within, fun other => ?_⟩
  rw [current]
  by_cases same : other = session
  · rw [same, Function.update_self]
    exact .fresh within
  · rw [Function.update_of_ne same]
    obtain ⟨past, active⟩ := capped.current other
    have room (some : q.lock ∈ (s.current other).locks) :
        q.measure s'.committed = q.measure s.committed := by
      rw [measure, pending_eq_zero sound holds some (Ne.symm same), Nat.add_zero]
    constructor
    · by_cases none_ : q.pending s other = 0
      · rw [← pending, none_]
        exact within
      · rw [room ((sound.current other).held_subset (holds other (Nat.pos_of_ne_zero none_)))]
        exact past
    · intro a found kind
      rcases active a found kind with looks | ⟨member, below⟩
      · exact .inl looks
      · refine .inr ⟨member, ?_⟩
        rw [room (by rwa [Open.locks, found])]
        exact below

variable [DecidableEq K]

theorem Capped.advance (capped : q.Capped s) (counted : q.Counted parts body)
    (sound : s.Sound parts body) {a : Active σ K ε α Input}
    (found : (s.current session).active = some a) :
    q.Capped (s.advance session (s.current session) a).1 := by
  have fits := capped.current session
  have admitted := fits.active a found
  unfold System.advance
  split
  · next value rest =>
      refine capped.change rfl rfl ⟨?_, fun _ idle => by cases idle⟩
      rw [number_append, number_singleton]
      cases kind : q.counts a.input with
      | true =>
          rcases admitted kind with ⟨_, looks⟩ | ⟨_, below⟩
          · rw [rest] at looks
            cases looks
          · exact below
      | false => exact fits.past
  · exact capped.change rfl rfl fits.idle
  · next name next rest =>
      split
      · refine capped.change rfl rfl (fits.progress fun kind => ?_)
        rcases admitted kind with ⟨same, looks⟩ | ⟨member, below⟩
        · rw [rest] at looks
          exact .inl ⟨same, looks⟩
        · exact .inr ⟨List.mem_cons_of_mem name member, below⟩
      · exact capped
  · next next rest =>
      refine capped.change rfl rfl (fits.progress fun kind => ?_)
      rcases admitted kind with ⟨same, looks⟩ | room
      · rw [rest] at looks
        -- without writes of its own, the statement reads what its session sees
        rcases looks (a.delta s.committed) with ⟨member, below⟩ | later
        · have seen : q.measure (s.seen session) = _ := counted.seen sound
          rw [System.seen, ← same] at seen
          rw [seen] at below
          exact .inr ⟨member, below⟩
        · exact .inl ⟨same, later⟩
      · exact .inr room
  · next f next rest =>
      refine capped.change rfl rfl (fits.progress fun kind => ?_)
      rcases admitted kind with ⟨_, looks⟩ | room
      · rw [rest] at looks
        cases looks
      · exact .inr room

theorem Capped.step (capped : q.Capped s) (counted : q.Counted parts body)
    (looks : ∀ input, q.counts input = true → q.Looks [] (body input)) (holds : q.Holds s)
    (sound : s.Sound parts body) (action : Action Input Session) :
    q.Capped (Locking.step body s action).1 := by
  cases action with
  | issue session input =>
      rw [Locking.step]
      split
      · refine capped.change rfl rfl ((capped.current session).progress fun kind => ?_)
        exact .inl ⟨rfl, (looks input kind).mono (List.nil_subset _)⟩
      · exact capped
  | advance session =>
      rw [Locking.step]
      split
      · exact capped
      · next a found => exact capped.advance counted sound found
  | commit session =>
      rw [Locking.step]
      split
      · exact capped.commit counted holds sound rfl rfl
      · exact capped
  | abort session => exact capped.change rfl rfl (.fresh capped.committed)

/-- Statements that look before they count themselves keep their number within the limit, in
whatever a session sees. -/
theorem Counted.visible_le (counted : q.Counted parts body)
    (looks : ∀ input, q.counts input = true → q.Looks [] (body input))
    (guarded : ∀ input, Guarded parts (body input)) {start : σ}
    (within : q.measure start ≤ q.limit) (schedule : List (Action Input Session)) {state : σ}
    (visible : (Runs.run (Locking.step body) (.initial start) schedule).Visible state) :
    q.measure state ≤ q.limit := by
  have kept : (Runs.run (Locking.step body) (.initial start) schedule).Sound parts body ∧
      q.Holds (Runs.run (Locking.step body) (.initial start) schedule) ∧
      q.Capped (Runs.run (Locking.step body) (.initial start) schedule) := by
    refine Runs.invariant_run (fun s : System σ K ε α Input Session =>
      s.Sound parts body ∧ q.Holds s ∧ q.Capped s) ?_ ⟨.initial, .initial, .initial within⟩ schedule
    rintro s action ⟨sound, holds, capped⟩
    exact ⟨sound.step guarded action, holds.step counted sound action,
      capped.step counted looks holds sound action⟩
  obtain ⟨sound, _, capped⟩ := kept
  rcases visible with rfl | ⟨session, rfl⟩
  · exact capped.committed
  · change q.measure (System.seen _ session) ≤ q.limit
    rw [counted.seen sound]
    exact (capped.current session).past

end Quota

end Locking
