import Chlom.Library.Js.Bytes
import Chlom.Library.Js.Value
import Mathlib.Data.List.Sort
import Mathlib.Order.Lex

/-!
# JSON texts in JavaScript

`JSON.stringify` escapes quotes, backslashes, control characters and lone surrogates.
A value is written with the keys of its objects in a chosen order.
-/

namespace Js

variable {N : Type}

/-! ## Strings -/

/-- The code units written as a backslash and a letter. -/
def shortEscapes : List (CodeUnit × CodeUnit) :=
  [(8, unit 'b'), (9, unit 't'), (10, unit 'n'), (12, unit 'f'), (13, unit 'r'),
    (unit '"', unit '"'), (unit '\\', unit '\\')]

def shortEscape (c : CodeUnit) : Option CodeUnit :=
  (shortEscapes.find? fun entry => entry.1 = c).map Prod.snd

/-- The four hexadecimal digits of a code unit. -/
def hex4 (c : CodeUnit) : Str :=
  [hexDigit (c.val / 0x1000), hexDigit (c.val / 0x100 % 0x10), hexDigit (c.val / 0x10 % 0x10),
    hexDigit (c.val % 0x10)]

/-- A code unit of a string literal.  `paired` says that it belongs to a surrogate pair. -/
def escapeUnit (paired : Bool) (c : CodeUnit) : Str :=
  match shortEscape c with
  | some letter => [unit '\\', letter]
  | none =>
      if c.val < 0x20 ∨ (isSurrogate c = true ∧ paired = false) then
        unit '\\' :: unit 'u' :: hex4 c
      else [c]

/-- The rest of a string literal.  `paired` says that the unit before opened a pair. -/
def quoteFrom (paired : Bool) : Str → Str
  | [] => [unit '"']
  | c :: rest =>
      let opens := isHigh c && rest.head?.any isLow
      escapeUnit (paired || opens) c ++ quoteFrom opens rest

/-- `JSON.stringify` of a string. -/
def quote (s : Str) : Str := unit '"' :: quoteFrom false s

/-! ## Values -/

/-- An order of entries by their keys. -/
def ByKey (le : Str → Str → Prop) {α : Type} (first second : Str × α) : Prop := le first.1 second.1

instance (le : Str → Str → Prop) [DecidableRel le] {α : Type} : DecidableRel (@ByKey le α) :=
  fun first second => inferInstanceAs (Decidable (le first.1 second.1))

/-- Put entries into the order of their keys; entries that the order does not tell
apart stay as they were. -/
def sortByKey (le : Str → Str → Prop) [DecidableRel le] {α : Type} (entries : List (Str × α)) :
    List (Str × α) :=
  entries.insertionSort (ByKey le)

/-- `Object.fromEntries`: of equal keys the last value stays, in the first one's place, and
array indices ascend in front of all other keys. -/
def fromEntries (entries : Entries N) : Entries N :=
  let assigned := spread [] entries
  sortByKey (fun first second => (arrayIndex first).getD 0 ≤ (arrayIndex second).getD 0)
      (assigned.filter fun entry => (arrayIndex entry.1).isSome) ++
    assigned.filter fun entry => (arrayIndex entry.1).isNone

/-- `texts.join(',')`. -/
def commaJoin (texts : List Str) : Str := List.intercalate [unit ','] texts

/-- A property of an object, given the text of its value. -/
def memberText (entry : Str × Str) : Str := quote entry.1 ++ (unit ':' :: entry.2)

variable [Numbers N] (le : Str → Str → Prop) [DecidableRel le]

mutual

/-- The text of a value, the keys of every object sorted. -/
def Value.text : Value N → Str
  | .null => lit "null"
  | .boolean b => if b then lit "true" else lit "false"
  | .number n => Numbers.text n
  | .string s => quote s
  | .array items => unit '[' :: (commaJoin (itemTexts items) ++ [unit ']'])
  | .object entries =>
      unit '\x7b' :: (commaJoin ((sortByKey le (entryTexts entries)).map memberText) ++
        [unit '\x7d'])

def itemTexts : List (Value N) → List Str
  | [] => []
  | v :: rest => v.text :: itemTexts rest

/-- The keys of an object with the texts of their values. -/
def entryTexts : Entries N → List (Str × Str)
  | [] => []
  | (key, v) :: rest => (key, v.text) :: entryTexts rest

end

/-- `JSON.stringify`: the keys stay in the order of the object. -/
def stringify (v : Value N) : Str := v.text fun _ _ => True

mutual

/-- The text of a value in a template. -/
def Value.toText : Value N → Str
  | .null => lit "null"
  | .boolean b => if b then lit "true" else lit "false"
  | .number n => Numbers.text n
  | .string s => s
  | .array items => commaJoin (joinedTexts items)
  | .object _ => lit "[object Object]"

/-- The texts of the items of an array that is joined, where `null` is empty. -/
def joinedTexts : List (Value N) → List Str
  | [] => []
  | .null :: rest => [] :: joinedTexts rest
  | v :: rest => v.toText :: joinedTexts rest

end

@[simp]
theorem itemTexts_eq_map (items : List (Value N)) : itemTexts le items = items.map (Value.text le) := by
  induction items with
  | nil => rfl
  | cons v rest ih => rw [itemTexts, ih, List.map_cons]

/-- A property with the text of its value. -/
def entryText (entry : Str × Value N) : Str × Str := (entry.1, entry.2.text le)

@[simp]
theorem entryTexts_eq_map (entries : Entries N) :
    entryTexts le entries = entries.map (entryText le) := by
  induction entries with
  | nil => rfl
  | cons entry rest ih => rw [entryTexts, ih, List.map_cons, entryText]

/-! ## Sorting by keys -/

section Sorting

variable {le} {α β : Type}

instance [Std.Total le] : Std.Total (@ByKey le α) :=
  ⟨fun first second => Std.Total.total first.1 second.1⟩

instance [IsTrans Str le] : IsTrans (Str × α) (ByKey le) :=
  ⟨fun _ _ _ first second => IsTrans.trans (r := le) _ _ _ first second⟩

theorem sortByKey_perm (entries : List (Str × α)) : (sortByKey le entries).Perm entries :=
  List.perm_insertionSort _ _

/-- Sorting reads nothing but the keys. -/
theorem sortByKey_map {f : Str × α → Str × β} (keepsKey : ∀ entry, (f entry).1 = entry.1)
    (entries : List (Str × α)) :
    sortByKey le (entries.map f) = (sortByKey le entries).map f := by
  refine (List.map_insertionSort (ByKey le) (ByKey le) f entries fun first _ second _ => ?_).symm
  rw [ByKey, ByKey, keepsKey, keepsKey]

/-- Entries that the order does not tell apart stay in their order. -/
theorem pair_sublist_sortByKey [Std.Total le] [IsTrans Str le] {first second : Str × α}
    {entries : List (Str × α)} (before : le first.1 second.1)
    (inOrder : [first, second].Sublist entries) :
    [first, second].Sublist (sortByKey le entries) :=
  List.pair_sublist_insertionSort (r := ByKey le) before inOrder

end Sorting

/-! ## The text does not depend on the order of keys -/

theorem text_array (items : List (Value N)) :
    (Value.array items).text le =
      unit '[' :: (commaJoin (items.map (Value.text le)) ++ [unit ']']) := by
  rw [Value.text, itemTexts_eq_map]

/-- The texts of the properties of an object, in the order of the keys. -/
def memberTexts (entries : Entries N) : List Str :=
  (sortByKey le entries).map fun entry => memberText (entryText le entry)

theorem text_object (entries : Entries N) :
    (Value.object entries).text le =
      unit '\x7b' :: (commaJoin (memberTexts le entries) ++ [unit '\x7d']) := by
  have keepsKey : ∀ entry : Str × Value N, (entryText le entry).1 = entry.1 := fun _ => rfl
  rw [Value.text, entryTexts_eq_map, sortByKey_map keepsKey, List.map_map]
  rfl

end Js
