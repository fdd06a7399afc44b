import Chlom.Library.Python.DateTime
import Mathlib.Data.List.Perm.Basic

/-!
# Python values

The values a dynamically typed argument can be: the ones JSON knows, mappings and
timestamps, and anything else by the name of its type.  A dictionary is the list of
its items in their order, and a well-formed value repeats no key in any dictionary.
-/

namespace Python

/-- A dictionary key: a string, or something else that can be hashed. -/
inductive Key where
  | str (s : Str)
  | other (name : Str)
  deriving DecidableEq

/-- A value, with floating-point numbers from `F`. -/
inductive Value (F : Type) where
  | none
  | bool (b : Bool)
  | int (i : Int)
  | float (f : F)
  | str (s : Str)
  | list (items : List (Value F))
  | dict (entries : List (Key × Value F))
  | mapping (name : Str) (entries : List (Key × Value F))
  | datetime (d : DateTime)
  | other (name : Str)

/-- The comparisons of floating-point numbers that `==` makes. -/
class FloatEq (F : Type) where
  eqFloat : F → F → Bool
  eqInt : F → Int → Bool

variable {F : Type}

/-- The items of a dictionary, in order. -/
abbrev Entries (F : Type) := List (Key × Value F)

namespace Value

/-- `type(value).__name__`. -/
def typeName : Value F → Str
  | .none => lit "NoneType"
  | .bool _ => lit "bool"
  | .int _ => lit "int"
  | .float _ => lit "float"
  | .str _ => lit "str"
  | .list _ => lit "list"
  | .dict _ => lit "dict"
  | .mapping name _ => name
  | .datetime _ => lit "datetime"
  | .other name => name

/-- `dict(value)` of a mapping. -/
def asMapping : Value F → Option (Entries F)
  | .dict entries => some entries
  | .mapping _ entries => some entries
  | _ => Option.none

/-- `value is None`. -/
def isNone : Value F → Bool
  | .none => true
  | _ => false

/-- A bool or an int as a number. -/
def asInt : Value F → Option Int
  | .bool b => some b.toNat
  | .int i => some i
  | _ => Option.none

/-- `bool(value)`. -/
def truthy [FloatEq F] : Value F → Bool
  | .none => false
  | .bool b => b
  | .int i => i != 0
  | .float f => !FloatEq.eqInt f 0
  | .str s => !s.isEmpty
  | .list items => !items.isEmpty
  | .dict entries => !entries.isEmpty
  | .mapping _ entries => !entries.isEmpty
  | .datetime _ => true
  | .other _ => true

/-! ## Equality -/

section Equality

variable [FloatEq F]

/-- `==` of numbers. -/
def eqNumber : Value F → Value F → Bool
  | .float f, .float g => FloatEq.eqFloat f g
  | .float f, w => w.asInt.any (FloatEq.eqInt f)
  | v, .float g => v.asInt.any (FloatEq.eqInt g)
  | v, w => v.asInt.isSome && v.asInt == w.asInt

mutual

/-- `==` of two values that JSON can express. -/
def pyEq : Value F → Value F → Bool
  | .none, .none => true
  | .str s, .str t => s == t
  | .list items, .list others => eqItems items others
  | .dict entries, .dict others => entries.length == others.length && eqEntries entries others
  | v, w => eqNumber v w

def eqItems : List (Value F) → List (Value F) → Bool
  | [], [] => true
  | v :: rest, w :: others => pyEq v w && eqItems rest others
  | _, _ => false

def eqEntries : Entries F → Entries F → Bool
  | [], _ => true
  | (key, v) :: rest, others =>
      (match others.lookup key with
        | some w => pyEq v w
        | Option.none => false) && eqEntries rest others

end

@[simp]
theorem pyEq_str {v : Value F} {s : Str} : pyEq v (.str s) = true ↔ v = .str s := by
  cases v <;> simp [pyEq, eqNumber, asInt]

@[simp]
theorem str_pyEq {v : Value F} {s : Str} : pyEq (.str s) v = true ↔ v = .str s := by
  cases v with
  | str t => simp [pyEq, eq_comm (a := s)]
  | _ => simp [pyEq, eqNumber, asInt]

@[simp]
theorem pyEq_none {v : Value F} : pyEq v .none = true ↔ v = .none := by
  cases v <;> simp [pyEq, eqNumber, asInt]

@[simp]
theorem int_pyEq_int {i j : Int} : pyEq (.int i : Value F) (.int j) = true ↔ i = j := by
  simp [pyEq, eqNumber, asInt]

end Equality

/-! ## Induction -/

/-- Induction over a value: every item of a list and every value of a dictionary is
covered by the hypothesis. -/
@[elab_as_elim]
theorem induct {motive : Value F → Prop} (none : motive .none) (bool : ∀ b, motive (.bool b))
    (int : ∀ i, motive (.int i)) (float : ∀ f, motive (.float f)) (str : ∀ s, motive (.str s))
    (list : ∀ items, (∀ v ∈ items, motive v) → motive (.list items))
    (dict : ∀ entries, (∀ entry ∈ entries, motive entry.2) → motive (.dict entries))
    (mapping : ∀ name entries, (∀ entry ∈ entries, motive entry.2) →
      motive (.mapping name entries))
    (datetime : ∀ d, motive (.datetime d)) (other : ∀ name, motive (.other name))
    (v : Value F) : motive v :=
  Value.rec (motive_1 := motive) (motive_2 := fun items => ∀ v ∈ items, motive v)
    (motive_3 := fun entries => ∀ entry ∈ entries, motive entry.2)
    (motive_4 := fun entry => motive entry.2)
    none bool int float str list dict mapping datetime other
    (fun _ member => nomatch member)
    (fun _ _ head tail => List.forall_mem_cons.mpr ⟨head, tail⟩)
    (fun _ member => nomatch member)
    (fun _ _ head tail => List.forall_mem_cons.mpr ⟨head, tail⟩)
    (fun _ _ value => value) v

end Value

/-! ## Well-formed values -/

/-- No dictionary inside the value repeats a key. -/
inductive Value.WellFormed : Value F → Prop where
  | none : WellFormed .none
  | bool (b : Bool) : WellFormed (.bool b)
  | int (i : Int) : WellFormed (.int i)
  | float (f : F) : WellFormed (.float f)
  | str (s : Str) : WellFormed (.str s)
  | list {items : List (Value F)} (all : ∀ v ∈ items, WellFormed v) : WellFormed (.list items)
  | dict {entries : Entries F} (distinct : (entries.map Prod.fst).Nodup)
      (all : ∀ entry ∈ entries, WellFormed entry.2) : WellFormed (.dict entries)
  | mapping (name : Str) {entries : Entries F} (distinct : (entries.map Prod.fst).Nodup)
      (all : ∀ entry ∈ entries, WellFormed entry.2) : WellFormed (.mapping name entries)
  | datetime (d : DateTime) : WellFormed (.datetime d)
  | other (name : Str) : WellFormed (.other name)

/-- A value a caller can pass. -/
abbrev Object (F : Type) := { v : Value F // v.WellFormed }

theorem Value.WellFormed.of_asMapping {v : Value F} {entries : Entries F}
    (wellFormed : v.WellFormed) (found : v.asMapping = some entries) : (Value.dict entries).WellFormed := by
  cases wellFormed with
  | dict distinct all =>
      obtain rfl := Option.some.inj found
      exact .dict distinct all
  | mapping name distinct all =>
      obtain rfl := Option.some.inj found
      exact .dict distinct all
  | _ => cases found

/-! ## Looking a key up -/

namespace Entries

theorem lookup_cons_of_ne {key name : Key} (differs : key ≠ name) {v : Value F}
    {rest : Entries F} : List.lookup key ((name, v) :: rest) = rest.lookup key := by
  have test : (key == name) = false := by simpa using differs
  simp only [List.lookup_cons, test]

theorem mem_of_lookup {entries : Entries F} {key : Key} {v : Value F}
    (found : entries.lookup key = some v) : (key, v) ∈ entries := by
  induction entries with
  | nil => cases found
  | cons entry rest ih =>
      obtain ⟨name, value⟩ := entry
      by_cases same : key = name
      · subst same
        rw [List.lookup_cons_self, Option.some.injEq] at found
        simp [found]
      · rw [lookup_cons_of_ne same] at found
        exact List.mem_cons_of_mem _ (ih found)

/-- In a dictionary a key has the value it is listed with. -/
theorem lookup_eq_some_iff {entries : Entries F} (distinct : (entries.map Prod.fst).Nodup)
    {key : Key} {v : Value F} : entries.lookup key = some v ↔ (key, v) ∈ entries := by
  refine ⟨mem_of_lookup, ?_⟩
  intro member
  induction entries with
  | nil => cases member
  | cons entry rest ih =>
      obtain ⟨name, value⟩ := entry
      rw [List.map_cons, List.nodup_cons] at distinct
      rcases List.mem_cons.mp member with equal | later
      · obtain ⟨rfl, rfl⟩ := Prod.mk.inj equal
        exact List.lookup_cons_self
      · have differs : key ≠ name := by
          rintro rfl
          exact distinct.1 (List.mem_map.mpr ⟨_, later, rfl⟩)
        rw [lookup_cons_of_ne differs]
        exact ih distinct.2 later

/-- The order of the items does not matter to a lookup. -/
theorem lookup_perm {entries others : Entries F} (same : entries.Perm others)
    (distinct : (entries.map Prod.fst).Nodup) (key : Key) :
    entries.lookup key = others.lookup key := by
  have otherDistinct : (others.map Prod.fst).Nodup := (same.map Prod.fst).nodup_iff.mp distinct
  apply Option.ext
  intro v
  rw [lookup_eq_some_iff distinct, lookup_eq_some_iff otherDistinct, same.mem_iff]

end Entries

end Python
