import Chlom.Library.Locking.Later

/-!
# What a transaction has read before it writes

A program may write something only after it has read a fact.  The read need not be under a
lock.  When all writes keep the facts and each belongs to the part of one lock, the fact that a
transaction has read still holds when it commits, whatever others commit in between.  So where
the writing is committed, a fact is.
-/

namespace Locking

variable {σ K ε α β Input Session ι : Type} {parts : Parts σ K}

/-- Facts about the state that each depend on the part of one lock. -/
structure Facts (parts : Parts σ K) (ι : Type) where
  name : ι → K
  holds : (i : ι) → parts.Part (name i) → Prop

def Facts.At (facts : Facts parts ι) (i : ι) (s : σ) : Prop :=
  facts.holds i (parts.part (facts.name i) s)

/-- One of the facts holds. -/
def Facts.Known (facts : Facts parts ι) (s : σ) : Prop :=
  ∃ i, facts.At i s

/-- An update makes a property true of no state. -/
def Avoids (G : σ → Prop) (f : σ → σ) : Prop :=
  ∀ s, G (f s) → G s

variable {facts : Facts parts ι} {G : σ → Prop}

/-- What a session knows stays known while others keep the facts and leave its locks alone. -/
theorem Facts.Known.transfer {held : List K} {f : σ → σ} (keeps : Local parts held f) {s s' : σ}
    (agree : AgreeOn parts held s s') (grows : ∀ i, facts.At i s → facts.At i s')
    (known : facts.Known (f s)) : facts.Known (f s') := by
  obtain ⟨i, holds⟩ := known
  refine ⟨i, ?_⟩
  by_cases own : facts.name i ∈ held
  · rwa [Facts.At, ← keeps.congr agree _ own]
  · rw [Facts.At, keeps.frame own] at holds ⊢
    exact grows i holds

/-! ## Programs -/

/-- A program has read a fact before it makes a property true. -/
def Learns (facts : Facts parts ι) (G : σ → Prop) : Prog σ K ε α → Prop
  | .done _ => True
  | .raise _ => True
  | .lock _ next => Learns facts G next
  | .read next => ∀ seen, facts.Known seen ∨ Learns facts G (next seen)
  | .write f next => Avoids G f ∧ Learns facts G next

theorem Learns.of_writes {p : Prog σ K ε α} (writes : Writes (Avoids G) p) : Learns facts G p := by
  induction p with
  | done value => trivial
  | raise failure => trivial
  | lock name rest ih => exact ih writes
  | read rest ih => exact fun seen => .inr (ih seen (writes seen))
  | write g rest ih => exact ⟨writes.1, ih writes.2⟩

theorem learns_query_bind {g : σ → α} {f : α → Prog σ K ε β}
    (next : ∀ seen, facts.Known seen ∨ Learns facts G (f (g seen))) :
    Learns facts G (Prog.query g >>= f) :=
  next

theorem learns_ensure_bind {condition : Prop} [Decidable condition] {failure : ε}
    {f : Unit → Prog σ K ε β} (next : Learns facts G (f ())) :
    Learns facts G (Prog.ensure condition failure >>= f) := by
  unfold Prog.ensure
  split
  · exact next
  · trivial

theorem learns_okOr_bind {found : Option α} {failure : ε} {f : α → Prog σ K ε β}
    (next : ∀ value, found = some value → Learns facts G (f value)) :
    Learns facts G (Prog.okOr found failure >>= f) := by
  cases found with
  | none => trivial
  | some value => exact next value rfl

/-! ## Sessions -/

/-- The transaction has not made the property true, or it sees a fact; and so it will be with
its statement under way. -/
structure Open.Learned (facts : Facts parts ι) (G : σ → Prop) (committed : σ)
    (t : Open σ K ε α Input) : Prop where
  done : Avoids G t.delta ∨ facts.Known (t.delta committed)
  active : ∀ a, t.active = some a →
    (Avoids G a.delta ∧ Learns facts G a.rest) ∨ facts.Known (a.delta committed)

theorem Open.Learned.fresh {committed : σ} :
    (Open.fresh : Open σ K ε α Input).Learned facts G committed where
  done := .inl fun _ holds => holds
  active _ found := by cases found

theorem Open.Learned.idle {t : Open σ K ε α Input} {committed : σ}
    (learned : t.Learned facts G committed) :
    ({ t with active := none } : Open σ K ε α Input).Learned facts G committed where
  done := learned.done
  active _ found := by cases found

theorem Open.Learned.progress {t : Open σ K ε α Input} {committed : σ}
    (learned : t.Learned facts G committed) {a : Active σ K ε α Input}
    (next : (Avoids G a.delta ∧ Learns facts G a.rest) ∨ facts.Known (a.delta committed)) :
    ({ t with active := some a } : Open σ K ε α Input).Learned facts G committed where
  done := learned.done
  active _ found := by
    cases found
    exact next

variable {body : Input → Prog σ K ε α}

/-- A transaction still knows what it knew after others have committed. -/
theorem Open.Learned.transfer {t : Open σ K ε α Input} {committed committed' : σ}
    (learned : t.Learned facts G committed) (sound : t.Sound parts body committed)
    (agree : AgreeOn parts t.locks committed committed')
    (grows : ∀ i, facts.At i committed → facts.At i committed') :
    t.Learned facts G committed' := by
  constructor
  · exact learned.done.imp_right fun known =>
      known.transfer sound.keeps (agree.mono sound.held_subset) grows
  · intro a found
    have locks : t.locks = a.held := by rw [Open.locks, found]
    rw [locks] at agree
    exact (learned.active a found).imp_right fun known =>
      known.transfer (sound.active a found).keeps agree grows

/-- A fact is committed where the property is, and every session knows one before it makes the
property true. -/
structure System.Learned (facts : Facts parts ι) (G : σ → Prop)
    (s : System σ K ε α Input Session) : Prop where
  committed : G s.committed → facts.Known s.committed
  current : ∀ session, (s.current session).Learned facts G s.committed

variable [DecidableEq Session] {s s' : System σ K ε α Input Session} {session : Session}

/-- A session that keeps the committed state may change its transaction. -/
theorem System.Learned.change (learned : s.Learned facts G) {t : Open σ K ε α Input}
    (opened : t.Learned facts G s.committed) (same : s'.committed = s.committed)
    (current : s'.current = Function.update s.current session t) : s'.Learned facts G := by
  constructor
  · rw [same]
    exact learned.committed
  · rw [current, same]
    refine (Function.forall_update_iff _ fun _ (opened : Open σ K ε α Input) =>
      opened.Learned facts G s.committed).mpr ⟨opened, fun other _ => learned.current other⟩

/-- A commit brings a fact along with the property, and takes none from the other sessions. -/
theorem System.Learned.commit (learned : s.Learned facts G) (sound : s.Sound parts body)
    (steady : ∀ i, s.Steady (facts.At i)) (kept : s'.committed = s.seen session)
    (current : s'.current = Function.update s.current session .fresh) : s'.Learned facts G := by
  have grows (i : ι) (holds : facts.At i s.committed) : facts.At i (s.seen session) :=
    (steady i session).done _ holds
  constructor
  · rw [kept]
    intro made
    rcases (learned.current session).done with avoids | known
    · obtain ⟨i, holds⟩ := learned.committed (avoids _ made)
      exact ⟨i, grows i holds⟩
    · exact known
  · rw [current, kept]
    refine (Function.forall_update_iff _ fun _ (opened : Open σ K ε α Input) =>
      opened.Learned facts G (s.seen session)).mpr ⟨.fresh, fun other apart => ?_⟩
    exact (learned.current other).transfer (sound.current other) (sound.agree_seen apart) grows

variable [DecidableEq K]

theorem System.Learned.advance (learned : s.Learned facts G)
    (steady : ∀ i, s.Steady (facts.At i)) {a : Active σ K ε α Input}
    (found : (s.current session).active = some a) :
    (s.advance session (s.current session) a).1.Learned facts G := by
  have opened := learned.current session
  have before := opened.active a found
  unfold System.advance
  cases rest : a.rest with
  | done value =>
      exact learned.change ⟨before.imp_left And.left, fun _ idle => by cases idle⟩ rfl rfl
  | raise failure => exact learned.change opened.idle rfl rfl
  | lock name next =>
      dsimp only
      rw [rest] at before
      split
      · exact learned.change (opened.progress
          (a := { a with held := name :: a.held, rest := next }) before) rfl rfl
      · exact learned
  | read next =>
      rw [rest] at before
      refine learned.change (opened.progress
        (a := { a with rest := next (a.delta s.committed) }) ?_) rfl rfl
      rcases before with ⟨avoids, learns⟩ | known
      · rcases learns (a.delta s.committed) with seen | later
        · exact .inr seen
        · exact .inl ⟨avoids, later⟩
      · exact .inr known
  | write f next =>
      rw [rest] at before
      refine learned.change (opened.progress
        (a := { a with delta := f ∘ a.delta, rest := next }) ?_) rfl rfl
      rcases before with ⟨avoids, learns⟩ | ⟨i, holds⟩
      · exact .inl ⟨fun base after => avoids base (learns.1 _ after), learns.2⟩
      · have writes := ((steady i session).active a found).2
        rw [rest] at writes
        exact .inr ⟨i, writes.1 _ holds⟩

theorem System.Learned.step (learns : ∀ input, Learns facts G (body input))
    (learned : s.Learned facts G) (sound : s.Sound parts body)
    (steady : ∀ i, s.Steady (facts.At i)) (action : Action Input Session) :
    (Locking.step body s action).1.Learned facts G := by
  cases action with
  | issue session input =>
      rw [Locking.step]
      split
      · have opened := learned.current session
        refine learned.change (opened.progress ?_) rfl rfl
        exact opened.done.imp_left fun avoids => ⟨avoids, learns input⟩
      · exact learned
  | advance session =>
      rw [Locking.step]
      split
      · exact learned
      · next a found => exact learned.advance steady found
  | commit session =>
      rw [Locking.step]
      split
      · exact learned.commit sound steady rfl rfl
      · exact learned
  | abort session => exact learned.change .fresh rfl rfl

/-- Where programs make a property true only after they have read a fact, a fact is committed
whenever the property is. -/
theorem known_of_committed (guarded : ∀ input, Guarded parts (body input))
    (steady : ∀ i input, Steady (facts.At i) (body input))
    (learns : ∀ input, Learns facts G (body input)) {start : σ} (absent : ¬ G start)
    (schedule : List (Action Input Session))
    (committed : G (Runs.run (step body) (.initial start) schedule).committed) :
    facts.Known (Runs.run (step body) (.initial start) schedule).committed := by
  refine (Runs.invariant_run (fun s : System σ K ε α Input Session =>
    s.Sound parts body ∧ (∀ i, s.Steady (facts.At i)) ∧ s.Learned facts G) ?_ ?_ schedule).2.2.committed
    committed
  · rintro s action ⟨sound, kept, learned⟩
    exact ⟨sound.step guarded action, fun i => (kept i).step (steady i) action,
      learned.step learns sound kept action⟩
  · exact ⟨.initial, fun _ => .initial, fun made => absurd made absent, fun _ => .fresh⟩

end Locking
