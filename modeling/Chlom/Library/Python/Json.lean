import Chlom.Library.Python.Value
import Mathlib.Data.List.Sort
import Mathlib.Data.List.Lex

/-!
# JSON texts

Writing a value as JSON text, with sorted keys or in the order of its items, and
scanning JSON text the way the standard decoder does: whitespace, escapes, pairs of
surrogate escapes, numbers and constants.  What becomes of the items of an object,
of the digits of an integer and of the constants that are no JSON is left to hooks.
-/

namespace Python

variable {F : Type}

/-! ## Number texts -/

/-- The parts of a JSON number. -/
structure NumberText where
  negative : Bool
  whole : Str
  frac : Str
  expo : Str
  whole_valid : whole = lit "0" ∨ ∃ first rest, whole = first :: rest ∧ first ≠ point '0' ∧
    isDigit first = true ∧ ∀ c ∈ rest, isDigit c = true
  frac_valid : frac = [] ∨ ∃ first rest, frac = point '.' :: first :: rest ∧
    isDigit first = true ∧ ∀ c ∈ rest, isDigit c = true
  expo_valid : expo = [] ∨ ∃ mark sign first rest, expo = mark :: (sign ++ first :: rest) ∧
    (mark = point 'e' ∨ mark = point 'E') ∧ (sign = [] ∨ sign = lit "+" ∨ sign = lit "-") ∧
    isDigit first = true ∧ ∀ c ∈ rest, isDigit c = true

namespace NumberText

/-- The text of the sign. -/
def sign (t : NumberText) : Str := if t.negative then lit "-" else []

def text (t : NumberText) : Str := t.sign ++ (t.whole ++ (t.frac ++ t.expo))

/-- A number with a fraction or an exponent is read as a floating-point number. -/
def IsFloat (t : NumberText) : Prop := t.frac ≠ [] ∨ t.expo ≠ []

end NumberText

/-- How a platform writes and reads floating-point numbers: what is written of a
finite number is a number text and is read back as that number. -/
class FloatFormat (F : Type) extends FloatEq F where
  isFinite : F → Bool
  repr : F → Str
  parse : Str → F
  repr_text : ∀ {f : F}, isFinite f = true → ∃ t : NumberText, repr f = t.text ∧ t.IsFloat
  parse_repr : ∀ {f : F}, isFinite f = true → parse (repr f) = f

/-- A value that JSON can express. -/
inductive Value.IsJson [FloatFormat F] : Value F → Prop where
  | none : IsJson .none
  | bool (b : Bool) : IsJson (.bool b)
  | int (i : Int) : IsJson (.int i)
  | float {f : F} (finite : FloatFormat.isFinite f = true) : IsJson (.float f)
  | str (s : Str) : IsJson (.str s)
  | list {items : List (Value F)} (all : ∀ v ∈ items, IsJson v) : IsJson (.list items)
  | dict {entries : Entries F} (keys : ∀ entry ∈ entries, ∃ s, entry.1 = .str s)
      (all : ∀ entry ∈ entries, IsJson entry.2) : IsJson (.dict entries)

/-! ## Writing -/

section Writing

/-- A character inside a JSON string. -/
def escape (c : CodePoint) : Str :=
  if c = point '"' then lit "\\\""
  else if c = point '\\' then lit "\\\\"
  else if c = point '\n' then lit "\\n"
  else if c = point '\r' then lit "\\r"
  else if c = point '\t' then lit "\\t"
  else if c.val = 12 then lit "\\f"
  else if c.val = 8 then lit "\\b"
  else if c.val < 32 then lit "\\u00" ++ [hexDigit (c.val / 16), hexDigit (c.val % 16)]
  else [c]

def quote (s : Str) : Str := point '"' :: (s.flatMap escape ++ lit "\"")

/-- The text of a key; only strings are written. -/
def Key.text : Key → Str
  | .str s => s
  | .other name => name

variable [FloatFormat F]

mutual

/-- `json.dumps(value, ensure_ascii=False)` of a value JSON can express, with `gap`
after each comma and colon. -/
def dumps (gap : Str) : Value F → Str
  | .none => lit "null"
  | .bool true => lit "true"
  | .bool false => lit "false"
  | .int i => intText i
  | .float f => FloatFormat.repr f
  | .str s => quote s
  | .list items =>
      point '[' :: (List.intercalate (point ',' :: gap) (dumpsItems gap items) ++ lit "]")
  | .dict entries =>
      point '\x7b' :: (List.intercalate (point ',' :: gap) (dumpsEntries gap entries) ++ lit "\x7d")
  | _ => []

def dumpsItems (gap : Str) : List (Value F) → List Str
  | [] => []
  | v :: rest => dumps gap v :: dumpsItems gap rest

def dumpsEntries (gap : Str) : Entries F → List Str
  | [] => []
  | (key, v) :: rest =>
      (quote key.text ++ (point ':' :: gap ++ dumps gap v)) :: dumpsEntries gap rest

end

end Writing

/-! ## Sorting keys -/

/-- Items in the order of their keys. -/
abbrev Entries.KeyLe (first second : Key × Value F) : Prop := first.1.text ≤ second.1.text

/-- `sorted(entries)` by key. -/
def Entries.sort (entries : Entries F) : Entries F := entries.insertionSort Entries.KeyLe

mutual

/-- The order in which `sort_keys=True` writes a value. -/
def sortKeys : Value F → Value F
  | .list items => .list (sortKeysItems items)
  | .dict entries => .dict (Entries.sort (sortKeysEntries entries))
  | v => v

def sortKeysItems : List (Value F) → List (Value F)
  | [] => []
  | v :: rest => sortKeys v :: sortKeysItems rest

def sortKeysEntries : Entries F → Entries F
  | [] => []
  | (key, v) :: rest => (key, sortKeys v) :: sortKeysEntries rest

end

/-! ## Scanning -/

inductive JsonError where
  /-- The text is no JSON. -/
  | decode
  /-- A constant was refused. -/
  | constant (name : Str)
  /-- An object repeats a key. -/
  | duplicate (key : Str)
  /-- An integer has more digits than the interpreter converts. -/
  | digits

def isJsonSpace (c : CodePoint) : Bool :=
  c.val == 32 || c.val == 9 || c.val == 10 || c.val == 13

def skipSpace (s : Str) : Str := s.dropWhile isJsonSpace

/-! ### Strings -/

def hexValue (c : CodePoint) : Option Nat :=
  if isDigit c then some (c.val - 48)
  else if 97 ≤ c.val ∧ c.val ≤ 102 then some (c.val - 87)
  else if 65 ≤ c.val ∧ c.val ≤ 70 then some (c.val - 55)
  else none

/-- The code unit of four hexadecimal digits. -/
def hex4 (a b c d : CodePoint) : Option CodePoint := do
  let a ← hexValue a
  let b ← hexValue b
  let c ← hexValue c
  let d ← hexValue d
  return Fin.ofNat _ (((a * 16 + b) * 16 + c) * 16 + d)

/-- The character of a one-letter escape. -/
def unescape (c : CodePoint) : Option CodePoint :=
  if c = point '"' ∨ c = point '\\' ∨ c = point '/' then some c
  else if c = point 'b' then some 8
  else if c = point 'f' then some 12
  else if c = point 'n' then some 10
  else if c = point 'r' then some 13
  else if c = point 't' then some 9
  else none

/-- One more unit before the rest of a string; the flag marks a `\u` escape. -/
def consUnit (unit : CodePoint × Bool) : Except JsonError (List (CodePoint × Bool) × Str) →
    Except JsonError (List (CodePoint × Bool) × Str)
  | .ok (units, rest) => .ok (unit :: units, rest)
  | .error error => .error error

/-- The units of a string, scanned from behind the opening quote. -/
def scanUnits : Str → Except JsonError (List (CodePoint × Bool) × Str)
  | [] => .error .decode
  | c :: rest =>
      if c = point '"' then .ok ([], rest)
      else if c = point '\\' then
        match rest with
        | [] => .error .decode
        | letter :: rest =>
            if letter = point 'u' then
              match rest with
              | a :: b :: c :: d :: rest =>
                  match hex4 a b c d with
                  | some unit => consUnit (unit, true) (scanUnits rest)
                  | none => .error .decode
              | _ => .error .decode
            else
              match unescape letter with
              | some unit => consUnit (unit, false) (scanUnits rest)
              | none => .error .decode
      else if c.val < 32 then .error .decode
      else consUnit (c, false) (scanUnits rest)

def isHighSurrogate (c : CodePoint) : Bool := 0xD800 ≤ c.val && c.val ≤ 0xDBFF

def isLowSurrogate (c : CodePoint) : Bool := 0xDC00 ≤ c.val && c.val ≤ 0xDFFF

/-- Two adjacent escapes of a surrogate pair are one code point. -/
def joinPairs : List (CodePoint × Bool) → Str
  | [] => []
  | (high, true) :: (low, true) :: rest =>
      if isHighSurrogate high && isLowSurrogate low then
        Fin.ofNat _ (0x10000 + (high.val - 0xD800) * 0x400 + (low.val - 0xDC00)) :: joinPairs rest
      else high :: joinPairs ((low, true) :: rest)
  | (unit, _) :: rest => unit :: joinPairs rest

def scanString (s : Str) : Except JsonError (Str × Str) :=
  (scanUnits s).map fun found => (joinPairs found.1, found.2)

/-! ### Numbers -/

/-- The fraction at the front of a text, if there is one. -/
def scanFrac : Str → Str × Str
  | mark :: first :: rest =>
      if mark = point '.' ∧ isDigit first = true then
        (mark :: first :: rest.takeWhile isDigit, rest.dropWhile isDigit)
      else ([], mark :: first :: rest)
  | s => ([], s)

/-- The sign at the front of a text, if it is one of the given. -/
def scanSign (signs : Str) : Str → Str × Str
  | c :: rest => if c ∈ signs then ([c], rest) else ([], c :: rest)
  | [] => ([], [])

/-- The exponent at the front of a text, if there is one. -/
def scanExpo : Str → Str × Str
  | mark :: rest =>
      let (sign, digits) := scanSign (lit "+-") rest
      if (mark = point 'e' ∨ mark = point 'E') ∧ digits.takeWhile isDigit ≠ [] then
        (mark :: (sign ++ digits.takeWhile isDigit), digits.dropWhile isDigit)
      else ([], mark :: rest)
  | [] => ([], [])

/-- The digits before the fraction; a zero stands alone. -/
def scanWhole : Str → Option (Str × Str)
  | [] => none
  | c :: rest =>
      if isDigit c then
        if c = point '0' then some ([c], rest)
        else some (c :: rest.takeWhile isDigit, rest.dropWhile isDigit)
      else none

/-- The integer a sign and its digits spell. -/
def signedValue (sign digits : Str) : Int :=
  if sign = [] then digitsValue digits else -digitsValue digits

/-- A number at the front of a text, given what becomes of an integer's sign and digits. -/
def scanNumber [FloatFormat F] (integer : Str → Str → Except JsonError Int) (s : Str) :
    Except JsonError (Value F × Str) :=
  let (sign, unsigned) := scanSign (lit "-") s
  match scanWhole unsigned with
  | none => .error .decode
  | some (whole, afterWhole) =>
      let (frac, afterFrac) := scanFrac afterWhole
      let (expo, afterExpo) := scanExpo afterFrac
      if frac = [] ∧ expo = [] then
        (integer sign whole).map fun i => (.int i, afterWhole)
      else .ok (.float (FloatFormat.parse (sign ++ (whole ++ (frac ++ expo)))), afterExpo)

/-! ### Values -/

/-- What becomes of an object's items, of `NaN` and the infinities, and of the sign and the
digits of an integer. -/
structure Hooks (F : Type) where
  object : Entries F → Except JsonError (Entries F)
  constant : Str → Except JsonError (Value F)
  integer : Str → Str → Except JsonError Int

section Scanning

variable {α : Type} (close : CodePoint) (element : Str → Except JsonError (α × Str))

/-- The elements up to the closing bracket, from the first one on. -/
def scanElements : Nat → Str → Except JsonError (List α × Str)
  | 0, _ => .error .decode
  | fuel + 1, s => do
      let (found, rest) ← element s
      match skipSpace rest with
      | [] => .error .decode
      | c :: rest =>
          if c = close then return ([found], rest)
          else if c = point ',' then do
            let (others, rest) ← scanElements fuel (skipSpace rest)
            return (found :: others, rest)
          else .error .decode

/-- What stands between brackets, from behind the opening one. -/
def scanBracketed (fuel : Nat) (s : Str) : Except JsonError (List α × Str) :=
  match skipSpace s with
  | [] => .error .decode
  | c :: rest => if c = close then .ok ([], rest) else scanElements close element fuel (c :: rest)

/-- A key and its value. -/
def scanMember (value : Str → Except JsonError (Value F × Str)) :
    Str → Except JsonError ((Key × Value F) × Str)
  | [] => .error .decode
  | mark :: s =>
      if mark = point '"' then do
        let (key, rest) ← scanString s
        match skipSpace rest with
        | [] => .error .decode
        | c :: rest =>
            if c = point ':' then do
              let (v, rest) ← value (skipSpace rest)
              return ((.str key, v), rest)
            else .error .decode
      else .error .decode

end Scanning

section Loading

variable [FloatFormat F] (hooks : Hooks F)

/-- One value at the front of a text.  Every nested value and every further item costs
a character, so the length of the text is fuel enough. -/
def scanOnce : Nat → Str → Except JsonError (Value F × Str)
  | 0, _ => .error .decode
  | _ + 1, [] => .error .decode
  | fuel + 1, c :: rest =>
      if c = point '"' then do
        let (s, rest) ← scanString rest
        return (.str s, rest)
      else if c = point '\x7b' then do
        let (entries, rest) ← scanBracketed (point '\x7d') (scanMember (scanOnce fuel)) fuel rest
        return (.dict (← hooks.object entries), rest)
      else if c = point '[' then do
        let (items, rest) ← scanBracketed (point ']') (scanOnce fuel) fuel rest
        return (.list items, rest)
      else if lit "null" <+: c :: rest then return (.none, rest.drop 3)
      else if lit "true" <+: c :: rest then return (.bool true, rest.drop 3)
      else if lit "false" <+: c :: rest then return (.bool false, rest.drop 4)
      else if lit "NaN" <+: c :: rest then return (← hooks.constant (lit "NaN"), rest.drop 2)
      else if lit "Infinity" <+: c :: rest then
        return (← hooks.constant (lit "Infinity"), rest.drop 7)
      else if lit "-Infinity" <+: c :: rest then
        return (← hooks.constant (lit "-Infinity"), rest.drop 8)
      else scanNumber hooks.integer (c :: rest)

/-- `json.loads` of a string. -/
def loadsWith (s : Str) : Except JsonError (Value F) :=
  if s.head? = some (Fin.ofNat _ 0xFEFF) then .error .decode
  else do
    let (v, rest) ← scanOnce hooks (s.length + 1) (skipSpace s)
    if skipSpace rest = [] then return v else .error .decode

/-- A dictionary built item by item: a repeated key keeps its place and takes the last
value. -/
def Entries.assign (entries : Entries F) (key : Key) (v : Value F) : Entries F :=
  if key ∈ entries.map Prod.fst then
    entries.map fun entry => if entry.1 = key then (key, v) else entry
  else entries ++ [(key, v)]

/-- The hooks of a plain `json.loads`. -/
def Hooks.standard : Hooks F where
  object entries := .ok (entries.foldl (fun built entry => Entries.assign built entry.1 entry.2) [])
  constant name := .ok (.float (FloatFormat.parse name))
  integer sign digits := .ok (signedValue sign digits)

/-- Collect items, refusing the first repeated key. -/
def rejectDuplicateKeys (entries : Entries F) : Except JsonError (Entries F) :=
  entries.foldlM (fun built entry =>
    if entry.1 ∈ built.map Prod.fst then .error (.duplicate entry.1.text)
    else .ok (built ++ [entry])) []

/-- The hooks of a strict reading, which refuses repeated keys and constants. -/
def Hooks.strict : Hooks F where
  object := rejectDuplicateKeys
  constant name := .error (.constant name)
  integer sign digits := .ok (signedValue sign digits)

/-- The hooks under the interpreter's limit on the digits of an integer, where 0 is none. -/
def Hooks.limited (limit : Nat) (hooks : Hooks F) : Hooks F :=
  { hooks with
    integer := fun sign digits =>
      if limit ≠ 0 ∧ limit < digits.length then .error .digits else hooks.integer sign digits }

end Loading

/-! ## What an interpreter limits -/

mutual

/-- Every integer inside the JSON value has at most so many digits, where 0 is no limit. -/
def Value.fits (limit : Nat) : Value F → Bool
  | .int i => limit == 0 || (natText i.natAbs).length ≤ limit
  | .list items => itemsFit limit items
  | .dict entries => entriesFit limit entries
  | _ => true

def itemsFit (limit : Nat) : List (Value F) → Bool
  | [] => true
  | v :: rest => v.fits limit && itemsFit limit rest

def entriesFit (limit : Nat) : Entries F → Bool
  | [] => true
  | (_, v) :: rest => v.fits limit && entriesFit limit rest

end

@[simp]
theorem fits_int {limit : Nat} {i : Int} : (Value.int i : Value F).fits limit = true ↔
    limit = 0 ∨ (natText i.natAbs).length ≤ limit := by
  simp [Value.fits]

@[simp]
theorem fits_list {limit : Nat} {items : List (Value F)} :
    (Value.list items).fits limit = true ↔ ∀ v ∈ items, v.fits limit = true := by
  rw [Value.fits]
  induction items with
  | nil => simp [itemsFit]
  | cons v rest ih => rw [itemsFit, Bool.and_eq_true, ih, List.forall_mem_cons]

@[simp]
theorem fits_dict {limit : Nat} {entries : Entries F} :
    (Value.dict entries).fits limit = true ↔ ∀ entry ∈ entries, entry.2.fits limit = true := by
  rw [Value.fits]
  induction entries with
  | nil => simp [entriesFit]
  | cons entry rest ih => rw [entriesFit, Bool.and_eq_true, ih, List.forall_mem_cons]

mutual

/-- How deep arrays and objects are nested. -/
def Value.depth : Value F → Nat
  | .list items => itemsDepth items + 1
  | .dict entries => entriesDepth entries + 1
  | _ => 0

def itemsDepth : List (Value F) → Nat
  | [] => 0
  | v :: rest => max v.depth (itemsDepth rest)

def entriesDepth : Entries F → Nat
  | [] => 0
  | (_, v) :: rest => max v.depth (entriesDepth rest)

end

end Python
