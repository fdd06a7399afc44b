import Chlom.Library.Literals
import Mathlib.Data.List.DropRight
import Mathlib.Data.Char
import Mathlib.Order.Fin.Basic

/-!
# JavaScript strings

A JavaScript string is a sequence of 16-bit code units.  Where it becomes bytes, its
surrogate pairs are read as characters and lone surrogates are replaced, so only
strings without lone surrogates are determined by their bytes.
-/

namespace Js

abbrev CodeUnit := Fin 0x10000

abbrev Str := List CodeUnit

instance neZeroCodeUnits : @NeZero Nat Zero.ofOfNat0 0x10000 := ⟨Nat.succ_ne_zero 0xFFFF⟩

instance decidableMemStr (c : CodeUnit) (s : Str) : Decidable (c ∈ s) :=
  List.instDecidableMemOfLawfulBEq c s

instance decidableMemStrs (s : Str) (strings : List Str) : Decidable (s ∈ strings) :=
  List.instDecidableMemOfLawfulBEq s strings

def isHigh (c : CodeUnit) : Bool := 0xD800 ≤ c.val && c.val ≤ 0xDBFF

def isLow (c : CodeUnit) : Bool := 0xDC00 ≤ c.val && c.val ≤ 0xDFFF

def isSurrogate (c : CodeUnit) : Bool := isHigh c || isLow c

theorem isHigh_iff {c : CodeUnit} : isHigh c = true ↔ 0xD800 ≤ c.val ∧ c.val ≤ 0xDBFF := by
  simp [isHigh]

theorem isLow_iff {c : CodeUnit} : isLow c = true ↔ 0xDC00 ≤ c.val ∧ c.val ≤ 0xDFFF := by
  simp [isLow]

theorem isSurrogate_eq_false {c : CodeUnit} :
    isSurrogate c = false ↔ c.val < 0xD800 ∨ 0xDFFF < c.val := by
  rw [← Bool.not_eq_true, isSurrogate, Bool.or_eq_true, isHigh_iff, isLow_iff]
  omega

theorem isHigh_eq_false {c : CodeUnit} (single : isSurrogate c = false) : isHigh c = false :=
  (Bool.or_eq_false_iff.mp single).1

/-- A check of every item of a list, which does not run through the type of the items. -/
theorem forall_mem_of_all {α : Type} {P : α → Prop} [DecidablePred P] {items : List α}
    (checked : items.all (fun item => decide (P item)) = true) : ∀ item ∈ items, P item := by
  simpa using checked

/-! ## Characters -/

theorem scalar_toNat (c : Char) :
    c.toNat < 0xD800 ∨ 0xDFFF < c.toNat ∧ c.toNat < 0x110000 := c.valid

theorem toNat_ofNat {n : Nat} (scalar : n.isValidChar) : (Char.ofNat n).toNat = n := by
  rw [Char.ofNat, dif_pos scalar]
  rfl

/-- The first code unit of a character from U+10000 on. -/
def highOf (c : Char) : CodeUnit :=
  ⟨0xD800 + (c.toNat - 0x10000) / 0x400, by
    have := scalar_toNat c
    omega⟩

/-- The second code unit of a character from U+10000 on. -/
def lowOf (c : Char) : CodeUnit :=
  ⟨0xDC00 + (c.toNat - 0x10000) % 0x400, by omega⟩

def unitsOf (c : Char) : Str :=
  if small : c.toNat < 0x10000 then [⟨c.toNat, small⟩] else [highOf c, lowOf c]

def utf16 (chars : List Char) : Str := chars.flatMap unitsOf

/-- The code unit of an ASCII byte. -/
def ofByte (b : UInt8) : CodeUnit := ⟨b.toNat, b.toNat_lt.trans (by decide)⟩

/-- A string literal. -/
def lit (text : String) : Str :=
  cond (Literals.isAscii (Literals.bytes text)) ((Literals.bytes text).map ofByte)
    (utf16 text.toList)

theorem map_val_utf16 {chars : List Char} (small : ∀ c ∈ chars, c.toNat < 0x10000) :
    (utf16 chars).map Fin.val = chars.map Char.toNat := by
  induction chars with
  | nil => rfl
  | cons c rest ih =>
      have tail := ih fun d member => small d (List.mem_cons_of_mem _ member)
      rw [utf16] at tail
      rw [utf16, List.flatMap_cons, unitsOf, dif_pos (small c List.mem_cons_self), List.map_append,
        tail]
      rfl

theorem lit_eq (text : String) : lit text = utf16 text.toList := by
  rw [lit]
  cases ascii : Literals.isAscii (Literals.bytes text) with
  | false => rfl
  | true =>
      have codes := Literals.toNat_bytes ascii
      have small : ∀ c ∈ text.toList, c.toNat < 0x10000 := by
        intro c member
        have there : c.toNat ∈ (Literals.bytes text).map UInt8.toNat :=
          codes ▸ List.mem_map_of_mem member
        obtain ⟨b, -, same⟩ := List.mem_map.mp there
        exact same ▸ b.toNat_lt.trans (by decide)
      apply List.map_injective_iff.mpr Fin.val_injective
      rw [map_val_utf16 small, ← codes, cond_true, List.map_map]
      rfl

/-- The code unit of a character that has only one. -/
def unit (c : Char) : CodeUnit := Fin.ofNat 0x10000 c.toNat

/-- The character of a surrogate pair. -/
def joinPair (high low : CodeUnit) : Char :=
  Char.ofNat (0x10000 + (high.val - 0xD800) * 0x400 + (low.val - 0xDC00))

/-- The character of a code unit outside a pair. -/
def loneChar (c : CodeUnit) : Char :=
  if isSurrogate c then Char.ofNat 0xFFFD else Char.ofNat c.val

/-- The characters of a string. -/
def chars : Str → List Char
  | [] => []
  | [c] => [loneChar c]
  | c :: d :: rest =>
      if isHigh c && isLow d then joinPair c d :: chars rest else loneChar c :: chars (d :: rest)

/-- The bytes of a string, as `Buffer.from(string)` has them. -/
def utf8 (s : Str) : List UInt8 := (chars s).flatMap String.utf8EncodeChar

/-- `isWellFormed()`: no lone surrogates. -/
def IsWellFormed (s : Str) : Prop := ∃ cs : List Char, s = utf16 cs

/-! ## Reading the characters back -/

theorem chars_cons {c : CodeUnit} (single : isHigh c = false) (rest : Str) :
    chars (c :: rest) = loneChar c :: chars rest := by
  cases rest with
  | nil => rfl
  | cons d rest => simp [chars, single]

theorem chars_pair {c d : CodeUnit} (high : isHigh c = true) (low : isLow d = true) (rest : Str) :
    chars (c :: d :: rest) = joinPair c d :: chars rest := by
  simp [chars, high, low]

theorem isHigh_highOf {c : Char} (large : ¬ c.toNat < 0x10000) : isHigh (highOf c) = true := by
  have scalar := scalar_toNat c
  rw [isHigh_iff]
  simp only [highOf]
  omega

theorem isLow_lowOf (c : Char) : isLow (lowOf c) = true := by
  rw [isLow_iff]
  simp only [lowOf]
  omega

theorem joinPair_highOf_lowOf {c : Char} (large : ¬ c.toNat < 0x10000) :
    joinPair (highOf c) (lowOf c) = c := by
  have code : 0x10000 + ((highOf c).val - 0xD800) * 0x400 + ((lowOf c).val - 0xDC00) = c.toNat := by
    simp only [highOf, lowOf]
    omega
  rw [joinPair, code, Char.ofNat_toNat]

theorem chars_unitsOf_append (c : Char) (rest : Str) :
    chars (unitsOf c ++ rest) = c :: chars rest := by
  by_cases small : c.toNat < 0x10000
  · have scalar := scalar_toNat c
    have single : isSurrogate ⟨c.toNat, small⟩ = false := by
      rw [isSurrogate_eq_false]
      exact scalar.imp_right And.left
    rw [unitsOf, dif_pos small, List.singleton_append, chars_cons (isHigh_eq_false single)]
    simp [loneChar, single]
  · rw [unitsOf, dif_neg small, List.cons_append, List.singleton_append,
      chars_pair (isHigh_highOf small) (isLow_lowOf c), joinPair_highOf_lowOf small]

@[simp]
theorem chars_utf16 (cs : List Char) : chars (utf16 cs) = cs := by
  induction cs with
  | nil => rfl
  | cons c rest ih =>
      rw [utf16, List.flatMap_cons, chars_unitsOf_append]
      exact congrArg (c :: ·) ih

theorem utf16_injective : Function.Injective utf16 :=
  Function.LeftInverse.injective chars_utf16

@[simp]
theorem lit_inj {first second : String} : lit first = lit second ↔ first = second := by
  rw [lit_eq, lit_eq, utf16_injective.eq_iff, String.toList_inj]

/-! ## Strings without lone surrogates -/

theorem isWellFormed_nil : IsWellFormed [] := ⟨[], rfl⟩

theorem isWellFormed_lit (text : String) : IsWellFormed (lit text) := ⟨text.toList, lit_eq text⟩

theorem IsWellFormed.append {first second : Str} (one : IsWellFormed first)
    (two : IsWellFormed second) : IsWellFormed (first ++ second) := by
  obtain ⟨cs, rfl⟩ := one
  obtain ⟨ds, rfl⟩ := two
  exact ⟨cs ++ ds, List.flatMap_append.symm⟩

theorem isWellFormed_of_not_surrogate {c : CodeUnit} (single : isSurrogate c = false) :
    IsWellFormed [c] := by
  rw [isSurrogate_eq_false] at single
  have bound := c.isLt
  have scalar : c.val.isValidChar := by
    rw [Nat.isValidChar]
    omega
  refine ⟨[Char.ofNat c.val], ?_⟩
  simp [utf16, unitsOf, toNat_ofNat scalar]

theorem isWellFormed_pair {c d : CodeUnit} (high : isHigh c = true) (low : isLow d = true) :
    IsWellFormed [c, d] := by
  rw [isHigh_iff] at high
  rw [isLow_iff] at low
  have scalar : (0x10000 + (c.val - 0xD800) * 0x400 + (d.val - 0xDC00)).isValidChar := by
    rw [Nat.isValidChar]
    omega
  have code : (joinPair c d).toNat = 0x10000 + (c.val - 0xD800) * 0x400 + (d.val - 0xDC00) :=
    toNat_ofNat scalar
  have large : ¬ (joinPair c d).toNat < 0x10000 := by omega
  have first : c = highOf (joinPair c d) := by
    apply Fin.ext
    simp only [highOf, code]
    omega
  have second : d = lowOf (joinPair c d) := by
    apply Fin.ext
    simp only [lowOf, code]
    omega
  refine ⟨[joinPair c d], ?_⟩
  rw [utf16, List.flatMap_cons, List.flatMap_nil, List.append_nil, unitsOf, dif_neg large, ← first,
    ← second]

/-- The bytes of a string without lone surrogates belong to no other such string. -/
theorem utf8_inj {first second : Str} (one : IsWellFormed first) (two : IsWellFormed second) :
    utf8 first = utf8 second ↔ first = second := by
  obtain ⟨cs, rfl⟩ := one
  obtain ⟨ds, rfl⟩ := two
  refine ⟨fun same => ?_, fun same => congrArg utf8 same⟩
  rw [utf8, utf8, chars_utf16, chars_utf16] at same
  have decoded : cs.utf8Encode.utf8Decode? = some cs.toArray := List.utf8Decode?_utf8Encode
  have others : ds.utf8Encode.utf8Decode? = some ds.toArray := List.utf8Decode?_utf8Encode
  rw [List.utf8Encode, same, ← List.utf8Encode, others] at decoded
  have equal : ds.toArray = cs.toArray := Option.some.inj decoded
  exact congrArg utf16 (by simpa using equal.symm)

/-! ## White space -/

/-- White space and line terminators. -/
def isWhite (c : CodeUnit) : Bool :=
  decide (c.val ∈ [0x09, 0x0A, 0x0B, 0x0C, 0x0D, 0x20, 0xA0, 0x1680, 0x2028, 0x2029, 0x202F, 0x205F,
    0x3000, 0xFEFF]) || (0x2000 ≤ c.val && c.val ≤ 0x200A)

def trim (s : Str) : Str := (s.dropWhile isWhite).rdropWhile isWhite

end Js
