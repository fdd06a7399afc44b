import Chlom.Library.Js.Text
import Mathlib.Algebra.Group.Nat.Defs
import Mathlib.Data.List.Forall2
import Mathlib.Data.List.Nodup
import Mathlib.Data.List.Zip

/-!
# JSON values in JavaScript

The numbers are a parameter: the code asks whether one is finite, which safe integer it
is and how `JSON.stringify` writes it.  An object lists its properties in the order in
which `Object.keys` has them: array indices ascend in front of all other keys.
-/

namespace Js

/-! ## Numbers -/

/-- What the code reads of a number.  `text` is `JSON.stringify`, and `isZero` holds of
0 and of -0. -/
class Numbers (N : Type) where
  isFinite : N → Bool
  isZero : N → Bool
  truthy : N → Bool
  safeInteger : N → Option Int
  text : N → Str
  text_ne_nil : ∀ n : N, isFinite n = true → text n ≠ []
  text_units : ∀ n : N, isFinite n = true → ∀ c ∈ text n, c ∈ lit "0123456789+-.e"
  text_zero : ∀ n : N, isZero n = true → text n = lit "0"

/-- Equal numbers when -0 is read as 0. -/
def SameNumber {N : Type} [Numbers N] (a b : N) : Prop :=
  a = b ∨ (Numbers.isZero a = true ∧ Numbers.isZero b = true)

/-! ## Values -/

inductive Value (N : Type) where
  | null
  | boolean (value : Bool)
  | number (value : N)
  | string (value : Str)
  | array (items : List (Value N))
  | object (entries : List (Str × Value N))

abbrev Entries (N : Type) := List (Str × Value N)

variable {N : Type}

/-- A property of an object, `none` where it is undefined. -/
def property (entries : Entries N) (name : String) : Option (Value N) :=
  entries.lookup (lit name)

@[simp]
theorem property_nil (name : String) : property ([] : Entries N) name = none := rfl

@[simp]
theorem property_cons_self (name : String) (v : Value N) (rest : Entries N) :
    property ((lit name, v) :: rest) name = some v := by
  simp [property]

@[simp]
theorem property_cons_of_ne {name other : String} (differs : name ≠ other) (v : Value N)
    (rest : Entries N) : property ((lit other, v) :: rest) name = property rest name := by
  have keys : (lit name == lit other) = false := by simpa using differs
  rw [property, property, List.lookup_cons, keys]

/-- An assignment to a property, which stays in its place if it is there. -/
def assign (entries : Entries N) (key : Str) (value : Value N) : Entries N :=
  if key ∈ entries.map Prod.fst then
    entries.map fun entry => if entry.1 = key then (entry.1, value) else entry
  else entries ++ [(key, value)]

/-- `{ ...base, ...additions }`. -/
def spread (base additions : Entries N) : Entries N :=
  additions.foldl (fun entries entry => assign entries entry.1 entry.2) base

/-- The properties other than some. -/
def without (names : List Str) (entries : Entries N) : Entries N :=
  entries.filter fun entry => !names.contains entry.1

theorem property_append (first second : Entries N) (name : String) :
    property (first ++ second) name = (property first name).or (property second name) :=
  List.lookup_append

/-- An assignment to a left out property does not show. -/
theorem without_assign {names : List Str} {key : Str} (left : key ∈ names) (entries : Entries N)
    (value : Value N) : without names (assign entries key value) = without names entries := by
  unfold assign
  split_ifs with there
  · clear there
    induction entries with
    | nil => rfl
    | cons entry rest ih =>
        rw [without, without, List.map_cons] at *
        by_cases same : entry.1 = key
        · rw [if_pos same, List.filter_cons_of_neg (by simp [same, left]),
            List.filter_cons_of_neg (by simp [same, left])]
          exact ih
        · rw [if_neg same, List.filter_cons, List.filter_cons, ih]
  · rw [without, without, List.filter_append, List.filter_cons_of_neg (by simp [left])]
    simp

/-- An assignment to a property that stays shows as an assignment. -/
theorem without_assign_of_notMem {names : List Str} {key : Str} (stays : key ∉ names)
    (entries : Entries N) (value : Value N) :
    without names (assign entries key value) = assign (without names entries) key value := by
  have keys : key ∈ (without names entries).map Prod.fst ↔ key ∈ entries.map Prod.fst := by
    simp only [without, List.mem_map, List.mem_filter, Bool.not_eq_true', List.contains_eq_mem,
      decide_eq_false_iff_not]
    constructor
    · rintro ⟨entry, ⟨member, _⟩, same⟩
      exact ⟨entry, member, same⟩
    · rintro ⟨entry, member, same⟩
      exact ⟨entry, ⟨member, same ▸ stays⟩, same⟩
  unfold assign
  rw [if_congr keys rfl rfl]
  split_ifs with there
  · rw [without, without, List.filter_map]
    congr 1
    apply List.filter_congr
    intro entry _
    by_cases same : entry.1 = key
    · simp [same, stays]
    · simp [same]
  · rw [without, without, List.filter_append, List.filter_cons_of_pos (by simpa using stays)]
    rfl

theorem property_assign_self (entries : Entries N) (name : String) (value : Value N) :
    property (assign entries (lit name) value) name = some value := by
  unfold assign
  split_ifs with there
  · induction entries with
    | nil => cases there
    | cons entry rest ih =>
        obtain ⟨key, old⟩ := entry
        by_cases same : key = lit name
        · subst same
          rw [List.map_cons, if_pos rfl, property_cons_self]
        · have keys : (lit name == key) = false := by simpa using Ne.symm same
          have later : lit name ∈ rest.map Prod.fst := by
            simpa [Ne.symm same] using there
          rw [List.map_cons, if_neg same, ← ih later]
          rw [property, property, List.lookup_cons, keys]
  · have absent : property entries name = none := by
      rw [property, List.lookup_eq_none_iff]
      intro entry member
      have differs : lit name ≠ entry.1 := fun same => there (same ▸ List.mem_map_of_mem member)
      simpa using differs
    rw [property_append, absent, property_cons_self]
    rfl

theorem property_assign_of_ne {name other : String} (differs : name ≠ other) (entries : Entries N)
    (value : Value N) : property (assign entries (lit other) value) name = property entries name := by
  unfold assign
  split_ifs with there
  · clear there
    induction entries with
    | nil => rfl
    | cons entry rest ih =>
        obtain ⟨key, old⟩ := entry
        by_cases same : key = lit other
        · subst same
          rw [List.map_cons, if_pos rfl, property_cons_of_ne differs, property_cons_of_ne differs, ih]
        · rw [property, property] at ih
          rw [List.map_cons, if_neg same, property, property, List.lookup_cons, List.lookup_cons, ih]
  · rw [property_append, property_cons_of_ne differs, property_nil, Option.or_none]

/-- A property that is there stands among the entries. -/
theorem mem_of_property {entries : Entries N} {name : String} {v : Value N}
    (found : property entries name = some v) : (lit name, v) ∈ entries := by
  induction entries with
  | nil => cases found
  | cons entry rest ih =>
      obtain ⟨key, value⟩ := entry
      by_cases same : lit name = key
      · subst same
        rw [property_cons_self] at found
        rw [Option.some.inj found]
        exact List.mem_cons_self
      · have keys : (lit name == key) = false := by simpa using same
        have later : property rest name = some v := by
          rw [property, List.lookup_cons, keys] at found
          exact found
        exact List.mem_cons_of_mem _ (ih later)

namespace Value

/-- Induction over a value: every item of an array and every property of an object is
covered by the hypothesis. -/
@[elab_as_elim]
theorem induct {motive : Value N → Prop} (null : motive .null)
    (boolean : ∀ b, motive (.boolean b)) (number : ∀ n, motive (.number n))
    (string : ∀ s, motive (.string s))
    (array : ∀ items, (∀ v ∈ items, motive v) → motive (.array items))
    (object : ∀ entries, (∀ entry ∈ entries, motive entry.2) → motive (.object entries))
    (v : Value N) : motive v :=
  Value.rec (motive_1 := motive) (motive_2 := fun items => ∀ v ∈ items, motive v)
    (motive_3 := fun entries => ∀ entry ∈ entries, motive entry.2)
    (motive_4 := fun entry => motive entry.2)
    null boolean number string array object
    (fun _ member => nomatch member)
    (fun _ _ head tail => List.forall_mem_cons.mpr ⟨head, tail⟩)
    (fun _ member => nomatch member)
    (fun _ _ head tail => List.forall_mem_cons.mpr ⟨head, tail⟩)
    (fun _ _ value => value) v

/-- Whether a condition takes the value as true. -/
def truthy [Numbers N] : Value N → Bool
  | .null => false
  | .boolean b => b
  | .number n => Numbers.truthy n
  | .string s => !s.isEmpty
  | .array _ | .object _ => true

end Value

/-! ## The order of properties -/

def isDigit (c : CodeUnit) : Bool := 0x30 ≤ c.val && c.val ≤ 0x39

def digitsValue (digits : Str) : Nat := digits.foldl (fun n c => 10 * n + (c.val - 0x30)) 0

/-- The array index a key is, if any: a canonical decimal below 2^32 - 1. -/
def arrayIndex (key : Str) : Option Nat :=
  if key ≠ [] ∧ key.all isDigit = true ∧ (key.head? = some (unit '0') → key = lit "0") ∧
      digitsValue key < 2 ^ 32 - 1 then
    some (digitsValue key)
  else none

/-- The order in which an object lists two of its keys whatever order they were set in. -/
def ListedBefore (first second : Str) : Prop :=
  ∀ index, arrayIndex second = some index → ∃ before < index, arrayIndex first = some before

/-- Every object inside the value lists its keys once each and as JavaScript orders them. -/
inductive Value.WellFormed : Value N → Prop where
  | null : WellFormed .null
  | boolean (b : Bool) : WellFormed (.boolean b)
  | number (n : N) : WellFormed (.number n)
  | string (s : Str) : WellFormed (.string s)
  | array {items : List (Value N)} (all : ∀ v ∈ items, WellFormed v) : WellFormed (.array items)
  | object {entries : Entries N} (distinct : (entries.map Prod.fst).Nodup)
      (listed : (entries.map Prod.fst).Pairwise ListedBefore)
      (all : ∀ entry ∈ entries, WellFormed entry.2) : WellFormed (.object entries)

/-- An object with two keys that are no array indices is well formed. -/
theorem wellFormed_pair {first second : Str} {v w : Value N} (differs : first ≠ second)
    (plain : arrayIndex second = none) (formed : v.WellFormed) (otherFormed : w.WellFormed) :
    (Value.object [(first, v), (second, w)]).WellFormed := by
  refine .object (by simpa using differs) ?_ ?_
  · refine List.pairwise_pair.mpr fun index found => ?_
    rw [plain] at found
    cases found
  · intro entry member
    rcases List.mem_pair.mp member with rfl | rfl
    · exact formed
    · exact otherFormed

/-- All numbers inside the value are finite. -/
inductive Value.Finite [Numbers N] : Value N → Prop where
  | null : Finite .null
  | boolean (b : Bool) : Finite (.boolean b)
  | number {n : N} (finite : Numbers.isFinite n = true) : Finite (.number n)
  | string (s : Str) : Finite (.string s)
  | array {items : List (Value N)} (all : ∀ v ∈ items, Finite v) : Finite (.array items)
  | object {entries : Entries N} (all : ∀ entry ∈ entries, Finite entry.2) :
      Finite (.object entries)

/-! ## Values up to the order of keys -/

/-- The values agree up to the order of the keys of objects, at any depth, and up to a
relation between numbers. -/
inductive Value.Reordered (same : N → N → Prop) : Value N → Value N → Prop where
  | null : Reordered same .null .null
  | boolean (b : Bool) : Reordered same (.boolean b) (.boolean b)
  | number {a b : N} (equal : same a b) : Reordered same (.number a) (.number b)
  | string (s : Str) : Reordered same (.string s) (.string s)
  | array {items others : List (Value N)} (length : items.length = others.length)
      (all : ∀ pair ∈ items.zip others, Reordered same pair.1 pair.2) :
      Reordered same (.array items) (.array others)
  | object {entries others listed matched : Entries N} (left : entries.Perm listed)
      (names : listed.map Prod.fst = matched.map Prod.fst)
      (all : ∀ pair ∈ listed.zip matched, Reordered same pair.1.2 pair.2.2)
      (right : matched.Perm others) :
      Reordered same (.object entries) (.object others)

theorem mem_zip_self {α : Type} {items : List α} {pair : α × α}
    (member : pair ∈ items.zip items) : pair.1 = pair.2 ∧ pair.1 ∈ items := by
  rw [List.zip_eq_zipWith, List.zipWith_self, List.mem_map] at member
  obtain ⟨item, inside, rfl⟩ := member
  exact ⟨rfl, inside⟩

theorem mem_zip_swap {α : Type} {items others : List α} {first second : α}
    (member : (first, second) ∈ items.zip others) : (second, first) ∈ others.zip items := by
  rw [← List.zip_swap]
  exact List.mem_map.mpr ⟨_, member, rfl⟩

namespace Value.Reordered

variable {same : N → N → Prop}

theorem refl (reflexive : ∀ n, same n n) (v : Value N) : v.Reordered same v := by
  induction v using Value.induct with
  | null => exact .null
  | boolean b => exact .boolean b
  | number n => exact .number (reflexive n)
  | string s => exact .string s
  | array items ih =>
      refine .array rfl fun pair member => ?_
      obtain ⟨equal, inside⟩ := mem_zip_self member
      exact equal ▸ ih pair.1 inside
  | object entries ih =>
      refine .object (.refl _) rfl (fun pair member => ?_) (.refl _)
      obtain ⟨equal, inside⟩ := mem_zip_self member
      exact equal ▸ ih pair.1 inside

theorem symm (symmetric : ∀ a b, same a b → same b a) {v w : Value N}
    (reordered : v.Reordered same w) : w.Reordered same v := by
  induction reordered with
  | null => exact .null
  | boolean b => exact .boolean b
  | number equal => exact .number (symmetric _ _ equal)
  | string s => exact .string s
  | array length _ ih =>
      exact .array length.symm fun pair member => ih (pair.2, pair.1) (mem_zip_swap member)
  | object left names _ right ih =>
      exact .object right.symm names.symm
        (fun pair member => ih (pair.2, pair.1) (mem_zip_swap member)) left.symm

end Value.Reordered

end Js
