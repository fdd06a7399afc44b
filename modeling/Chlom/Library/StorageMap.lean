import Mathlib.Algebra.BigOperators.Group.Finset.Piecewise
import Mathlib.Algebra.Order.BigOperators.Group.Finset
import Mathlib.Data.Set.Finite.Lattice

/-!
# Finite storage maps and bounded vectors

A storage map answers every key with an optional value and holds only finitely
many entries.  A map over pairs serves for a double map.  The sum of a weight
over the entries is the exact total that accounting invariants speak about.  A
bounded vector is a list that never outgrows its bound.
-/

/-- A list with at most `bound` elements. -/
structure BoundedVec (α : Type) (bound : Nat) where
  toList : List α
  length_le : toList.length ≤ bound

namespace BoundedVec

variable {α : Type} {bound : Nat}

def empty : BoundedVec α bound where
  toList := []
  length_le := Nat.zero_le _

/-- Append an element while there is room for it. -/
def tryPush (vec : BoundedVec α bound) (value : α) : Option (BoundedVec α bound) :=
  if room : vec.toList.length < bound then
    some ⟨vec.toList ++ [value], by simpa using Nat.succ_le_of_lt room⟩
  else
    none

theorem tryPush_toList {vec pushed : BoundedVec α bound} {value : α}
    (push : vec.tryPush value = some pushed) : pushed.toList = vec.toList ++ [value] := by
  unfold tryPush at push
  split at push
  · rw [← Option.some.inj push]
  · cases push

end BoundedVec

/-- A finite partial map; the finiteness of its key set is part of the value. -/
@[ext]
structure StorageMap (K V : Type) where
  get : K → Option V
  finite : {key | get key ≠ none}.Finite

namespace StorageMap

variable {K V : Type}

/-- The map without entries. -/
def empty : StorageMap K V where
  get _ := none
  finite := by simp

/-- The value of a key whose absence reads as a default. -/
def getD (m : StorageMap K V) (key : K) (default : V) : V :=
  (m.get key).getD default

/-- Whether a key is present. -/
def containsKey (m : StorageMap K V) (key : K) : Prop :=
  m.get key ≠ none

instance (m : StorageMap K V) (key : K) : Decidable (m.containsKey key) :=
  decidable_of_iff ((m.get key).isSome = true) Option.isSome_iff_ne_none

section Insert

variable [DecidableEq K]

/-- Write one entry, replacing the value already stored under the key. -/
def insert (m : StorageMap K V) (key : K) (value : V) : StorageMap K V where
  get other := if other = key then some value else m.get other
  finite := (m.finite.insert key).subset (by
    intro other
    by_cases same : other = key <;> simp [same])

theorem get_insert (m : StorageMap K V) (key other : K) (value : V) :
    (m.insert key value).get other = if other = key then some value else m.get other :=
  rfl

@[simp]
theorem get_insert_self (m : StorageMap K V) (key : K) (value : V) :
    (m.insert key value).get key = some value := by
  simp [get_insert]

theorem get_insert_of_ne (m : StorageMap K V) {key other : K} (value : V) (ne : other ≠ key) :
    (m.insert key value).get other = m.get other := by
  simp [get_insert, ne]

/-- A lookup after a write finds the written value or an older entry. -/
theorem get_insert_eq_some {m : StorageMap K V} {key other : K} {value stored : V} :
    (m.insert key value).get other = some stored ↔
      (other = key ∧ value = stored) ∨ (other ≠ key ∧ m.get other = some stored) := by
  by_cases same : other = key <;> simp [get_insert, same]

/-- What holds of a value and of everything stored before holds after the insertion. -/
theorem forall_get_insert {m : StorageMap K V} {key : K} {value : V} {P : V → Prop}
    (holds : P value) (before : ∀ other stored, m.get other = some stored → P stored) :
    ∀ other stored, (m.insert key value).get other = some stored → P stored := by
  intro other stored present
  rcases get_insert_eq_some.mp present with ⟨_, rfl⟩ | ⟨_, older⟩
  · exact holds
  · exact before other stored older

theorem getD_insert (m : StorageMap K V) (key other : K) (value default : V) :
    (m.insert key value).getD other default =
      if other = key then value else m.getD other default := by
  by_cases same : other = key <;> simp [getD, get_insert, same]

/-- Writing under an absent key leaves every stored entry in place. -/
theorem get_insert_of_some (m : StorageMap K V) {key other : K} {stored : V} (value : V)
    (fresh : m.get key = none) (present : m.get other = some stored) :
    (m.insert key value).get other = some stored := by
  rw [get_insert_of_ne _ _ (by rintro rfl; simp [fresh] at present), present]

end Insert

@[simp]
theorem get_empty (key : K) : (empty : StorageMap K V).get key = none :=
  rfl

/-! ## Totals over the entries -/

/-- The finite set of present keys. -/
noncomputable def keys (m : StorageMap K V) : Finset K :=
  m.finite.toFinset

@[simp]
theorem mem_keys {m : StorageMap K V} {key : K} : key ∈ m.keys ↔ m.get key ≠ none := by
  simp [keys]

/-- The weight of the entry under a key, zero when there is none. -/
def weightAt (m : StorageMap K V) (weight : K → V → Nat) (key : K) : Nat :=
  ((m.get key).map (weight key)).getD 0

/-- The exact total weight of all entries. -/
noncomputable def total (m : StorageMap K V) (weight : K → V → Nat) : Nat :=
  ∑ key ∈ m.keys, m.weightAt weight key

@[simp]
theorem total_empty (weight : K → V → Nat) : (empty : StorageMap K V).total weight = 0 := by
  apply Finset.sum_eq_zero
  intro key _
  rfl

theorem total_congr (m : StorageMap K V) {first second : K → V → Nat}
    (agree : ∀ key value, m.get key = some value → first key value = second key value) :
    m.total first = m.total second := by
  apply Finset.sum_congr rfl
  intro key _
  cases entry : m.get key with
  | none => simp [weightAt, entry]
  | some value => simp [weightAt, entry, agree key value entry]

theorem weight_le_total (m : StorageMap K V) (weight : K → V → Nat) {key : K} {value : V}
    (entry : m.get key = some value) : weight key value ≤ m.total weight := by
  calc
    weight key value = m.weightAt weight key := by simp [weightAt, entry]
    _ ≤ m.total weight :=
      Finset.single_le_sum (fun _ _ => Nat.zero_le _) (mem_keys.mpr (by simp [entry]))

/-- Reweighing one entry moves the total by exactly that entry's change. -/
theorem total_reweigh (m : StorageMap K V) (first second : K → V → Nat) {key : K} {value : V}
    (entry : m.get key = some value)
    (agree : ∀ other stored, other ≠ key → m.get other = some stored →
      first other stored = second other stored) :
    m.total first + second key value = m.total second + first key value := by
  classical
  have member : key ∈ m.keys := by simp [entry]
  have rest : ∑ other ∈ m.keys.erase key, m.weightAt first other =
      ∑ other ∈ m.keys.erase key, m.weightAt second other := by
    apply Finset.sum_congr rfl
    intro other otherMember
    have ne := (Finset.mem_erase.mp otherMember).1
    cases stored : m.get other with
    | none => simp [weightAt, stored]
    | some found => simp [weightAt, stored, agree other found ne stored]
  simp only [total]
  rw [← Finset.add_sum_erase _ _ member, ← Finset.add_sum_erase _ _ member, rest]
  simp only [weightAt, entry, Option.map_some, Option.getD_some]
  omega

/-- A fresh entry adds its weight to the total. -/
theorem total_insert_fresh [DecidableEq K] (m : StorageMap K V) (weight : K → V → Nat)
    {key : K} (value : V) (fresh : m.get key = none) :
    (m.insert key value).total weight = m.total weight + weight key value := by
  have keysInsert : (m.insert key value).keys = Insert.insert key m.keys := by
    ext other
    by_cases same : other = key <;> simp [get_insert, same]
  have absent : key ∉ m.keys := by simp [fresh]
  have rest : ∑ other ∈ m.keys, (m.insert key value).weightAt weight other =
      ∑ other ∈ m.keys, m.weightAt weight other := by
    apply Finset.sum_congr rfl
    intro other member
    have ne : other ≠ key := by
      rintro rfl
      exact absent member
    simp [weightAt, get_insert_of_ne _ _ ne]
  rw [total, keysInsert, Finset.sum_insert absent, rest, Nat.add_comm]
  simp [total, weightAt]

end StorageMap
