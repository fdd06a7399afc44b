import Mathlib.Algebra.Ring.Nat
import Mathlib.Data.List.Basic

/-!
# JSON documents of a database

Numbers are kept by their text, and no key of an object stands twice.  Two objects are
concatenated field by field, a field of the second replacing the one of the same key in
the first; other documents are concatenated as arrays.
-/

/-- A JSON document. -/
inductive Json where
  | null
  | bool (value : Bool)
  | number (literal : List Char)
  | string (value : List Char)
  | array (items : List Json)
  | object (fields : List (List Char × Json))

namespace Json

/-! ## Fields -/

/-- The field of a key, if any. -/
def field (key : List Char) (fields : List (List Char × Json)) : Option Json :=
  (fields.find? fun entry => entry.1 = key).map Prod.snd

/-- The field of an object. -/
def get (key : List Char) : Json → Option Json
  | object fields => field key fields
  | _ => none

/-- The items of an array, or another document as the only one. -/
def items : Json → List Json
  | array items => items
  | document => [document]

/-- Concatenate two documents. -/
def concat : Json → Json → Json
  | object first, object second =>
      object ((first.filter fun entry => (field entry.1 second).isNone) ++ second)
  | first, second => array (first.items ++ second.items)

theorem field_append {key : List Char} {first second : List (List Char × Json)} :
    field key (first ++ second) = (field key first).or (field key second) := by
  simp [field, List.find?_append, Option.map_or]

/-- Leaving out all entries of some keys leaves the fields of the others. -/
theorem field_filter {key : List Char} {p : List Char → Bool} {fields : List (List Char × Json)} :
    field key (fields.filter fun entry => p entry.1) =
      if p key = true then field key fields else none := by
  induction fields with
  | nil => simp [field]
  | cons entry rest ih =>
      by_cases named : entry.1 = key
      · subst named
        cases kept : p entry.1 with
        | true => simp [field, kept]
        | false =>
            rw [List.filter_cons_of_neg (by simp [kept]), ih]
            simp [kept]
      · have skipped : field key (entry :: rest) = field key rest := by simp [field, named]
        rw [skipped, ← ih, List.filter_cons]
        split
        · simp [field, named]
        · rfl

/-- A field of two concatenated objects is taken from the second if it is there. -/
theorem get_concat {first second : List (List Char × Json)} {key : List Char} :
    (concat (object first) (object second)).get key =
      (field key second).or (field key first) := by
  rw [concat, get, field_append, field_filter (p := fun key => (field key second).isNone)]
  cases field key second <;> simp

/-! ## The length of the text -/

/-- The bytes of a character in a string. -/
def charOctets (c : Char) : Nat :=
  if c = '"' ∨ c = '\\' ∨ c.toNat ∈ [8, 9, 10, 12, 13] then 2
  else if c.toNat < 32 then 6
  else c.utf8Size

def stringOctets (value : List Char) : Nat :=
  2 + (value.map charOctets).sum

mutual

/-- The bytes of the text of a document, with a space after every comma and colon. -/
def octets : Json → Nat
  | null => 4
  | bool value => if value then 4 else 5
  | number literal => (literal.map Char.utf8Size).sum
  | string value => stringOctets value
  | array items => 2 + itemsOctets items
  | object fields => 2 + fieldsOctets fields

def itemsOctets : List Json → Nat
  | [] => 0
  | item :: rest => octets item + (if rest.isEmpty then 0 else 2) + itemsOctets rest

def fieldsOctets : List (List Char × Json) → Nat
  | [] => 0
  | (key, value) :: rest =>
      stringOctets key + 2 + octets value + (if rest.isEmpty then 0 else 2) + fieldsOctets rest

end

example : octets (object [(['a'], array [null, bool true]), (['b'], string ['\n'])]) = 30 := by
  decide

/-! ## A text that determines the document -/

def encodeText (value rest : List Char) : List Char :=
  match value with
  | [] => '"' :: rest
  | c :: value => 'c' :: c :: encodeText value rest

mutual

/-- A text of a document, followed by another text. -/
def encode : Json → List Char → List Char
  | null, rest => 'n' :: rest
  | bool value, rest => 'b' :: (if value then 't' else 'f') :: rest
  | number literal, rest => '0' :: encodeText literal rest
  | string value, rest => '"' :: encodeText value rest
  | array items, rest => '[' :: encodeItems items rest
  | object fields, rest => ':' :: encodeFields fields rest

def encodeItems : List Json → List Char → List Char
  | [], rest => ']' :: rest
  | item :: items, rest => ',' :: encode item (encodeItems items rest)

def encodeFields : List (List Char × Json) → List Char → List Char
  | [], rest => ';' :: rest
  | (key, value) :: fields, rest =>
      ',' :: encodeText key (encode value (encodeFields fields rest))

end

theorem encodeText_injective {value other rest rest' : List Char}
    (same : encodeText value rest = encodeText other rest') : value = other ∧ rest = rest' := by
  induction value generalizing other with
  | nil =>
      cases other with
      | nil => simpa [encodeText] using same
      | cons c other => simp [encodeText] at same
  | cons c value ih =>
      cases other with
      | nil => simp [encodeText] at same
      | cons d other =>
          simp only [encodeText, List.cons.injEq, true_and] at same
          obtain ⟨rfl, same⟩ := same
          obtain ⟨rfl, rests⟩ := ih same
          exact ⟨rfl, rests⟩

mutual

theorem encode_injective : ∀ (first second : Json) {rest rest' : List Char},
    encode first rest = encode second rest' → first = second ∧ rest = rest'
  | null, second, rest, rest', same => by
      cases second with
      | null => simpa [encode] using same
      | _ => simp [encode] at same
  | bool value, second, rest, rest', same => by
      cases second with
      | bool other => cases value <;> cases other <;> simp_all [encode]
      | _ => simp [encode] at same
  | number literal, second, rest, rest', same => by
      cases second with
      | number other =>
          simp only [encode, List.cons.injEq, true_and] at same
          obtain ⟨rfl, rests⟩ := encodeText_injective same
          exact ⟨rfl, rests⟩
      | _ => simp [encode] at same
  | string value, second, rest, rest', same => by
      cases second with
      | string other =>
          simp only [encode, List.cons.injEq, true_and] at same
          obtain ⟨rfl, rests⟩ := encodeText_injective same
          exact ⟨rfl, rests⟩
      | _ => simp [encode] at same
  | array items, second, rest, rest', same => by
      cases second with
      | array others =>
          simp only [encode, List.cons.injEq, true_and] at same
          obtain ⟨rfl, rests⟩ := encodeItems_injective items others same
          exact ⟨rfl, rests⟩
      | _ => simp [encode] at same
  | object fields, second, rest, rest', same => by
      cases second with
      | object others =>
          simp only [encode, List.cons.injEq, true_and] at same
          obtain ⟨rfl, rests⟩ := encodeFields_injective fields others same
          exact ⟨rfl, rests⟩
      | _ => simp [encode] at same

theorem encodeItems_injective : ∀ (first second : List Json) {rest rest' : List Char},
    encodeItems first rest = encodeItems second rest' → first = second ∧ rest = rest'
  | [], second, rest, rest', same => by
      cases second with
      | nil => simpa [encodeItems] using same
      | cons item items => simp [encodeItems] at same
  | item :: items, second, rest, rest', same => by
      cases second with
      | nil => simp [encodeItems] at same
      | cons other others =>
          simp only [encodeItems, List.cons.injEq, true_and] at same
          obtain ⟨rfl, tails⟩ := encode_injective item other same
          obtain ⟨rfl, rests⟩ := encodeItems_injective items others tails
          exact ⟨rfl, rests⟩

theorem encodeFields_injective : ∀ (first second : List (List Char × Json)) {rest rest' : List Char},
    encodeFields first rest = encodeFields second rest' → first = second ∧ rest = rest'
  | [], second, rest, rest', same => by
      cases second with
      | nil => simpa [encodeFields] using same
      | cons entry entries => simp [encodeFields] at same
  | (key, value) :: fields, second, rest, rest', same => by
      cases second with
      | nil => simp [encodeFields] at same
      | cons other others =>
          simp only [encodeFields, List.cons.injEq, true_and] at same
          obtain ⟨keys, values⟩ := encodeText_injective same
          obtain ⟨documents, tails⟩ := encode_injective value other.2 values
          obtain ⟨rfl, rests⟩ := encodeFields_injective fields others tails
          exact ⟨by rw [keys, documents], rests⟩

end

end Json
