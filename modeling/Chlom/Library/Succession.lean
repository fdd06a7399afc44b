import Chlom.Library.StorageMap
import Mathlib.Logic.Relation

/-!
# Records that supersede one another

A registry of records, each of which may name one earlier record that it
supersedes, with a second map from a superseded record to its successor.  When
every new record names a stored record that nothing has superseded yet, the two
maps are inverse to each other, the chains of predecessors end, and a label that
a record shares with its predecessor is shared along the whole chain.
-/

namespace Succession

variable {Id R A : Type} (supersedes : R → Option Id) (label : R → A)
  (records : StorageMap Id R) (supersededBy : StorageMap Id Id)

/-- The record that a record supersedes. -/
def predecessor (id : Id) : Option Id :=
  (records.get id).bind supersedes

/-- The record reached by a number of steps to predecessors. -/
def climb : Nat → Id → Option Id
  | 0, id => some id
  | steps + 1, id => (predecessor supersedes records id).bind (climb steps)

/-- The state of a registry that writers keep up. -/
structure Registry : Prop where
  exact' : ∀ {prior id}, supersededBy.get prior = some id ↔
    predecessor supersedes records id = some prior
  stored : ∀ {id prior value}, records.get id = some value → supersedes value = some prior →
    ∃ earlier, records.get prior = some earlier ∧ label earlier = label value
  wellFounded : WellFounded fun prior id => predecessor supersedes records id = some prior

/-- Supersession is exact, one to one, acyclic and keeps to one label. -/
structure Law : Prop where
  exact' : ∀ prior id, supersededBy.get prior = some id ↔
    ∃ value, records.get id = some value ∧ supersedes value = some prior
  oneSuccessor : ∀ prior id other value otherValue, records.get id = some value →
    records.get other = some otherValue → supersedes value = some prior →
      supersedes otherValue = some prior → id = other
  ends : ∀ id, ∃ steps, climb supersedes records steps id = none
  acyclic : ∀ id steps, 0 < steps → climb supersedes records steps id ≠ some id
  sameLabel : ∀ id steps ancestor value, records.get id = some value →
    climb supersedes records steps id = some ancestor →
      ∃ earlier, records.get ancestor = some earlier ∧ label earlier = label value

variable {supersedes label records supersededBy}

theorem predecessor_eq_some {id prior : Id} :
    predecessor supersedes records id = some prior ↔
      ∃ value, records.get id = some value ∧ supersedes value = some prior :=
  Option.bind_eq_some_iff

/-- Climbing that stays on a path of predecessors descends along it. -/
theorem transGen_of_climb {id ancestor : Id} {steps : Nat}
    (climbed : climb supersedes records (steps + 1) id = some ancestor) :
    Relation.TransGen (fun prior id => predecessor supersedes records id = some prior)
      ancestor id := by
  induction steps generalizing id with
  | zero =>
      obtain ⟨prior, priorEq, reached⟩ := Option.bind_eq_some_iff.mp climbed
      obtain rfl := Option.some.inj reached
      exact .single priorEq
  | succ steps ih =>
      obtain ⟨prior, priorEq, reached⟩ := Option.bind_eq_some_iff.mp climbed
      exact .tail (ih reached) priorEq

/-- One element that precedes nothing leaves a relation well-founded, since older
elements are accessible as before. -/
theorem wellFounded_of_unnamed {before after : Id → Id → Prop} (wellFounded : WellFounded before)
    {id : Id} (unchanged : ∀ {other prior}, other ≠ id → after prior other → before prior other)
    (unnamed : ∀ {other prior}, after prior other → prior ≠ id) : WellFounded after := by
  have older : ∀ other, other ≠ id → Acc after other := by
    intro other
    induction other using wellFounded.induction with
    | _ other ih =>
        intro different
        apply Acc.intro
        intro prior named
        exact ih prior (unchanged different named) (unnamed named)
  refine ⟨fun other => Acc.intro other ?_⟩
  intro prior named
  exact older prior (unnamed named)

namespace Registry

theorem empty : Registry supersedes label .empty .empty where
  exact' := by simp [predecessor]
  stored found := by cases found
  wellFounded := ⟨fun id => ⟨id, fun prior named => by simp [predecessor] at named⟩⟩

theorem law (registry : Registry supersedes label records supersededBy) :
    Law supersedes label records supersededBy where
  exact' prior id := by
    rw [registry.exact', predecessor_eq_some]
  oneSuccessor prior id other value otherValue found otherFound named otherNamed := by
    have first := registry.exact'.mpr (predecessor_eq_some.mpr ⟨value, found, named⟩)
    have second := registry.exact'.mpr
      (predecessor_eq_some.mpr ⟨otherValue, otherFound, otherNamed⟩)
    exact Option.some.inj (first.symm.trans second)
  ends id := by
    induction id using registry.wellFounded.induction with
    | _ id ih =>
        cases named : predecessor supersedes records id with
        | none => exact ⟨1, by simp [climb, named]⟩
        | some prior =>
            obtain ⟨steps, ended⟩ := ih prior named
            exact ⟨steps + 1, by simp [climb, named, ended]⟩
  acyclic id steps positive climbed := by
    obtain ⟨fewer, rfl⟩ := Nat.exists_eq_add_of_lt positive
    rw [Nat.zero_add] at climbed
    have descends := transGen_of_climb climbed
    exact registry.wellFounded.transGen.irrefl.irrefl id descends
  sameLabel id steps := by
    induction steps generalizing id with
    | zero =>
        intro ancestor value found climbed
        obtain rfl := Option.some.inj climbed
        exact ⟨value, found, rfl⟩
    | succ steps ih =>
        intro ancestor value found climbed
        obtain ⟨prior, priorEq, reached⟩ := Option.bind_eq_some_iff.mp climbed
        obtain ⟨same, sameFound, named⟩ := predecessor_eq_some.mp priorEq
        obtain rfl := Option.some.inj (found.symm.trans sameFound)
        obtain ⟨earlier, earlierFound, earlierLabel⟩ := registry.stored found named
        obtain ⟨first, firstFound, firstLabel⟩ := ih prior ancestor earlier earlierFound reached
        exact ⟨first, firstFound, firstLabel.trans earlierLabel⟩

variable [DecidableEq Id]

/-- Filing a fresh record that supersedes nothing, or a stored record of its
label that nothing supersedes, keeps the registry up. -/
theorem insert {supersededBy' : StorageMap Id Id} {id : Id} {value : R}
    (registry : Registry supersedes label records supersededBy) (fresh : records.get id = none)
    (free : ∀ {prior}, supersedes value = some prior →
      (∃ earlier, records.get prior = some earlier ∧ label earlier = label value) ∧
        supersededBy.get prior = none)
    (marked : ∀ prior, supersededBy'.get prior =
      if supersedes value = some prior then some id else supersededBy.get prior) :
    Registry supersedes label (records.insert id value) supersededBy' := by
  have unchanged : ∀ {other}, other ≠ id →
      predecessor supersedes (records.insert id value) other =
        predecessor supersedes records other := by
    intro other different
    rw [predecessor, predecessor, StorageMap.get_insert_of_ne _ _ different]
  have new : predecessor supersedes (records.insert id value) id = supersedes value := by
    simp [predecessor]
  have storedPrior : ∀ {other prior}, predecessor supersedes records other = some prior →
      prior ≠ id := by
    rintro other prior named rfl
    obtain ⟨found, foundEq, namedBy⟩ := predecessor_eq_some.mp named
    obtain ⟨earlier, earlierEq, _⟩ := registry.stored foundEq namedBy
    rw [fresh] at earlierEq
    cases earlierEq
  refine ⟨?_, ?_, ?_⟩
  · intro prior other
    rw [marked]
    by_cases named : supersedes value = some prior
    · rw [if_pos named]
      by_cases same : other = id
      · subst same
        simp [new, named]
      · rw [unchanged same, ← registry.exact', (free named).2]
        simp [Ne.symm same]
    · rw [if_neg named]
      by_cases same : other = id
      · subst same
        rw [new, registry.exact']
        simp [predecessor, fresh, named]
      · rw [unchanged same, registry.exact']
  · intro other prior found present named
    rcases StorageMap.get_insert_eq_some.mp present with ⟨_, rfl⟩ | ⟨_, before⟩
    · obtain ⟨earlier, earlierEq, earlierLabel⟩ := (free named).1
      exact ⟨earlier, records.get_insert_of_some _ fresh earlierEq, earlierLabel⟩
    · obtain ⟨earlier, earlierEq, earlierLabel⟩ := registry.stored before named
      exact ⟨earlier, records.get_insert_of_some _ fresh earlierEq, earlierLabel⟩
  · apply wellFounded_of_unnamed registry.wellFounded
    · intro other prior different named
      rwa [unchanged different] at named
    · intro other prior named
      by_cases same : other = id
      · subst same
        rw [new] at named
        rintro rfl
        obtain ⟨⟨earlier, earlierEq, _⟩, _⟩ := free named
        rw [fresh] at earlierEq
        cases earlierEq
      · rw [unchanged same] at named
        exact storedPrior named

end Registry

end Succession
