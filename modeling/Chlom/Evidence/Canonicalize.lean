import Chlom.Library.Js.JsonOrder
import Chlom.Library.Js.Numerals
import Chlom.Primitives

/-!
# Canonical texts and digests of the evidence runtime

`canonicalize` sorts the keys of every object by `localeCompare`.  The text does not
depend on the order of keys exactly where that comparison tells them apart.
-/

namespace Chlom.Evidence

open Js

/-- What the runtime takes from the platform: the comparison of strings by locale, a
total preorder, and the digest. -/
structure Platform where
  localeCompare : Str → Str → Ordering
  sha256 : List UInt8 → Id32
  preorder : Std.TransCmp localeCompare

namespace Platform

variable (P : Platform)

/-- The order by which `sort` arranges keys: nothing moves in front of an equal key. -/
def LocaleLe (left right : Str) : Prop := (P.localeCompare left right).isLE = true

instance : DecidableRel P.LocaleLe := fun left right =>
  inferInstanceAs (Decidable ((P.localeCompare left right).isLE = true))

instance : Std.Total P.LocaleLe where
  total left right := by
    have := P.preorder
    have swapped : P.localeCompare right left = (P.localeCompare left right).swap :=
      Std.OrientedCmp.eq_swap
    rw [LocaleLe, LocaleLe, swapped]
    cases P.localeCompare left right <;> decide

instance : IsTrans Str P.LocaleLe where
  trans _ _ _ first second := by
    have := P.preorder
    exact Std.TransCmp.isLE_trans first second

end Platform

variable {N : Type} [Numbers N] (P : Platform)

mutual

/-- The sort reads the keys only, so the texts of the values can stand beside them. -/
def canonicalize : Value N → Str
  | .array items => lit "[" ++ commaJoin (canonicalizeItems items) ++ lit "]"
  | .object entries =>
      lit "\x7b" ++
        commaJoin ((sortByKey P.LocaleLe (canonicalizeEntries entries)).map fun (key, item) =>
          quote key ++ lit ":" ++ item) ++
        lit "\x7d"
  | .null => stringify (.null : Value N)
  | .boolean b => stringify (.boolean b : Value N)
  | .number n => stringify (.number n)
  | .string s => stringify (.string s : Value N)

def canonicalizeItems : List (Value N) → List Str
  | [] => []
  | item :: rest => canonicalize item :: canonicalizeItems rest

def canonicalizeEntries : Entries N → List (Str × Str)
  | [] => []
  | (key, item) :: rest => (key, canonicalize item) :: canonicalizeEntries rest

end

def sha256 (value : Value N) : Str := hexText (P.sha256 (utf8 (canonicalize P value))).toList

/-! ## The text of a value, sorted by locale -/

theorem canonicalizeItems_eq_map (items : List (Value N)) :
    canonicalizeItems P items = items.map (canonicalize P) := by
  induction items with
  | nil => rfl
  | cons item rest ih => rw [canonicalizeItems, ih, List.map_cons]

theorem canonicalizeEntries_eq_map (entries : Entries N) :
    canonicalizeEntries P entries = entries.map fun entry => (entry.1, canonicalize P entry.2) := by
  induction entries with
  | nil => rfl
  | cons entry rest ih => rw [canonicalizeEntries, ih, List.map_cons]

theorem canonicalize_eq_text (value : Value N) : canonicalize P value = value.text P.LocaleLe := by
  induction value using Value.induct with
  | null => rfl
  | boolean b => rfl
  | number n => rfl
  | string s => rfl
  | array items ih =>
      have opening : lit "[" = [unit '['] := by decide
      have closing : lit "]" = [unit ']'] := by decide
      rw [canonicalize, canonicalizeItems_eq_map, text_array, List.map_congr_left ih, opening, closing,
        List.append_assoc]
      rfl
  | object entries ih =>
      have opening : lit "\x7b" = [unit '\x7b'] := by decide
      have closing : lit "\x7d" = [unit '\x7d'] := by decide
      have colon : lit ":" = [unit ':'] := by decide
      have texts : canonicalizeEntries P entries = entries.map (entryText P.LocaleLe) := by
        rw [canonicalizeEntries_eq_map]
        exact List.map_congr_left fun entry member => congrArg (Prod.mk entry.1) (ih entry member)
      have members : ((sortByKey P.LocaleLe (canonicalizeEntries P entries)).map fun (key, item) =>
          quote key ++ lit ":" ++ item) = memberTexts P.LocaleLe entries := by
        rw [memberTexts_eq, texts, colon]
        exact List.map_congr_left fun entry _ => by simp [memberText]
      rw [canonicalize, members, text_object, opening, closing, List.append_assoc]
      rfl

/-! ## Independence from the order of keys -/

/-- Whatever order the keys of the value stand in, it has one text and one digest. -/
def OrderFree (value : Value N) : Prop :=
  ∀ other : Value N, other.WellFormed → value.Reordered (· = ·) other →
    canonicalize P other = canonicalize P value ∧ sha256 P other = sha256 P value

theorem orderFree_of_tieFree {value : Value N} (wellFormed : value.WellFormed)
    (tieFree : value.TieFree P.LocaleLe) : OrderFree P value := by
  intro other otherWellFormed reordered
  have same : canonicalize P other = canonicalize P value := by
    rw [canonicalize_eq_text, canonicalize_eq_text]
    exact (reordered.text_eq (fun _ _ equal => congrArg _ equal) wellFormed otherWellFormed
      tieFree).symm
  exact ⟨same, by rw [sha256, sha256, same]⟩

theorem tieFree_of_orderFree {value : Value N} (wellFormed : value.WellFormed)
    (free : OrderFree P value) : value.TieFree P.LocaleLe := by
  by_contra ties
  obtain ⟨other, otherWellFormed, reordered, differs⟩ := exists_reordered_text_ne wellFormed ties
  refine differs ?_
  rw [← canonicalize_eq_text, ← canonicalize_eq_text]
  exact (free other otherWellFormed reordered).1

end Chlom.Evidence
