import Chlom.Library.Literals
import Mathlib.Data.List.DropRight
import Mathlib.Order.Fin.Basic

/-!
# Python strings

A Python string is a sequence of code points, lone surrogates included.  Only a
string without them has a UTF-8 form.  Stripping whitespace, decimal numerals and
hexadecimal digests come with the facts that make texts built from them readable
in one way only.
-/

namespace Python

abbrev CodePoint := Fin 0x110000

abbrev Str := List CodePoint

instance decidableMemStr (c : CodePoint) (s : Str) : Decidable (c ∈ s) :=
  List.instDecidableMemOfLawfulBEq c s

instance decidableMemStrs (s : Str) (strings : List Str) : Decidable (s ∈ strings) :=
  List.instDecidableMemOfLawfulBEq s strings

/-- The code point of a character. -/
def point (c : Char) : CodePoint :=
  ⟨c.toNat, by
    have valid : c.toNat.isValidChar := c.valid
    rcases valid with low | ⟨_, high⟩
    · exact low.trans (by decide)
    · exact high⟩

/-- The code point of an ASCII byte. -/
def ofByte (b : UInt8) : CodePoint := ⟨b.toNat, b.toNat_lt.trans (by decide)⟩

/-- A string literal. -/
def lit (text : String) : Str :=
  cond (Literals.isAscii (Literals.bytes text)) ((Literals.bytes text).map ofByte)
    (text.toList.map point)

theorem lit_eq (text : String) : lit text = text.toList.map point := by
  rw [lit]
  cases ascii : Literals.isAscii (Literals.bytes text) with
  | false => rfl
  | true =>
      apply List.map_injective_iff.mpr Fin.val_injective
      have codes := Literals.toNat_bytes ascii
      rw [List.map_map]
      simpa [ofByte, point, Function.comp_def] using codes

@[simp]
theorem point_inj {c d : Char} : point c = point d ↔ c = d := by
  constructor
  · intro equal
    have codes : c.toNat = d.toNat := Fin.mk.inj equal
    exact Char.toNat_inj.mp codes
  · rintro rfl
    rfl

theorem map_point_injective : Function.Injective (List.map point) :=
  List.map_injective_iff.mpr fun _ _ => point_inj.mp

@[simp]
theorem lit_inj {first second : String} : lit first = lit second ↔ first = second := by
  rw [lit_eq, lit_eq, map_point_injective.eq_iff, String.toList_inj]

/-! ## UTF-8 -/

/-- The character at a code point, if it is no surrogate. -/
def scalar (c : CodePoint) : Option Char :=
  if valid : c.val.isValidChar then some (Char.ofNatAux c.val valid) else none

/-- `str.encode("utf-8")`, which fails on surrogates. -/
def encodeUtf8 (s : Str) : Option (List UInt8) :=
  (s.mapM scalar).map (List.flatMap String.utf8EncodeChar)

/-- `bytes.decode("utf-8")`. -/
def decodeUtf8 (bytes : List UInt8) : Option Str :=
  bytes.toByteArray.utf8Decode?.map fun chars => chars.toList.map point

/-- What a file opened as text reads: every line end is a line feed. -/
def universalNewlines : Str → Str
  | [] => []
  | [c] => [if c = point '\r' then point '\n' else c]
  | c :: d :: rest =>
      if c = point '\r' then
        if d = point '\n' then point '\n' :: universalNewlines rest
        else point '\n' :: universalNewlines (d :: rest)
      else c :: universalNewlines (d :: rest)

/-- A string of Unicode scalar values only. -/
def Scalars (s : Str) : Prop := ∀ c ∈ s, c.val.isValidChar

-- one check for each code point of the string, not for each code point there is
instance (s : Str) : Decidable (Scalars s) :=
  List.decidableBAll _ s

theorem scalar_eq_some {c : CodePoint} {char : Char} : scalar c = some char ↔ c = point char := by
  unfold scalar
  constructor
  · intro found
    by_cases valid : c.val.isValidChar
    · rw [dif_pos valid] at found
      obtain rfl := Option.some.inj found
      rfl
    · rw [dif_neg valid] at found
      cases found
  · rintro rfl
    exact dif_pos char.valid

theorem mapM_scalar_eq_some {s : Str} {chars : List Char} :
    s.mapM scalar = some chars ↔ s = chars.map point := by
  induction s generalizing chars with
  | nil => cases chars <;> simp
  | cons c rest ih =>
      rw [List.mapM_cons]
      cases chars with
      | nil => cases found : scalar c <;> cases tail : rest.mapM scalar <;> simp
      | cons char chars =>
          cases found : scalar c with
          | none =>
              have differs : c ≠ point char := fun equal => by
                rw [scalar_eq_some.mpr equal] at found
                cases found
              simp [differs]
          | some other =>
              rw [scalar_eq_some] at found
              subst found
              cases tail : rest.mapM scalar with
              | none =>
                  have differs : rest ≠ chars.map point := fun equal => by
                    rw [ih.mpr equal] at tail
                    cases tail
                  simp [differs]
              | some others =>
                  rw [ih] at tail
                  subst tail
                  simp [map_point_injective.eq_iff]

theorem encodeUtf8_eq_some {s : Str} {bytes : List UInt8} :
    encodeUtf8 s = some bytes ↔
      ∃ chars : List Char, s = chars.map point ∧ bytes = chars.flatMap String.utf8EncodeChar := by
  simp only [encodeUtf8, Option.map_eq_some_iff, mapM_scalar_eq_some, eq_comm]

theorem exists_encodeUtf8 {s : Str} : (∃ bytes, encodeUtf8 s = some bytes) ↔ Scalars s := by
  constructor
  · rintro ⟨bytes, encoded⟩
    obtain ⟨chars, rfl, _⟩ := encodeUtf8_eq_some.mp encoded
    intro c member
    obtain ⟨char, _, rfl⟩ := List.mem_map.mp member
    exact char.valid
  · intro scalars
    have chars : ∃ chars : List Char, s = chars.map point := by
      induction s with
      | nil => exact ⟨[], rfl⟩
      | cons c rest ih =>
          obtain ⟨chars, tail⟩ := ih fun d member => scalars d (List.mem_cons_of_mem _ member)
          have head := scalars c List.mem_cons_self
          exact ⟨Char.ofNatAux c.val head :: chars, by rw [List.map_cons, ← tail]; rfl⟩
    obtain ⟨chars, spelled⟩ := chars
    exact ⟨_, encodeUtf8_eq_some.mpr ⟨chars, spelled, rfl⟩⟩

theorem decodeUtf8_encodeUtf8 {s : Str} {bytes : List UInt8} (encoded : encodeUtf8 s = some bytes) :
    decodeUtf8 bytes = some s := by
  obtain ⟨chars, rfl, rfl⟩ := encodeUtf8_eq_some.mp encoded
  have decoded : chars.utf8Encode.utf8Decode? = some chars.toArray := List.utf8Decode?_utf8Encode
  rw [List.utf8Encode] at decoded
  simp [decodeUtf8, decoded]

/-- A UTF-8 form belongs to one string. -/
theorem encodeUtf8_inj {first second : Str} {bytes : List UInt8}
    (firstEncoded : encodeUtf8 first = some bytes)
    (secondEncoded : encodeUtf8 second = some bytes) : first = second :=
  Option.some.inj <|
    (decodeUtf8_encodeUtf8 firstEncoded).symm.trans (decodeUtf8_encodeUtf8 secondEncoded)

/-! ## Whitespace -/

/-- `str.isspace` of one code point. -/
def isSpace (c : CodePoint) : Bool :=
  (9 ≤ c.val && c.val ≤ 13) || (28 ≤ c.val && c.val ≤ 32) || c.val == 133 || c.val == 160 ||
    c.val == 5760 || (8192 ≤ c.val && c.val ≤ 8202) || c.val == 8232 || c.val == 8233 ||
    c.val == 8239 || c.val == 8287 || c.val == 12288

/-- `str.strip()`. -/
def strip (s : Str) : Str := (s.dropWhile isSpace).rdropWhile isSpace

/-- A string with no whitespace at its ends stays as it is. -/
theorem strip_eq_self {s : Str} (first : ∀ c, s.head? = some c → isSpace c = false)
    (last : ∀ c, s.getLast? = some c → isSpace c = false) : strip s = s := by
  have front : s.dropWhile isSpace = s := by
    cases s with
    | nil => rfl
    | cons c rest => simp [first c rfl]
  rw [strip, front, List.rdropWhile_eq_self_iff]
  intro nonempty
  simp [last _ (List.getLast?_eq_some_getLast nonempty)]

theorem strip_ends {s : Str} {c : CodePoint} :
    ((strip s).head? = some c → isSpace c = false) ∧
      ((strip s).getLast? = some c → isSpace c = false) := by
  constructor
  · intro found
    obtain ⟨kept, split⟩ : strip s <+: s.dropWhile isSpace := List.rdropWhile_prefix isSpace _
    have head : (s.dropWhile isSpace).head? = some c := by
      cases stripped : strip s with
      | nil => simp [stripped] at found
      | cons d rest =>
          rw [← split, stripped]
          simpa [stripped] using found
    have stopped := List.head?_dropWhile_not isSpace s
    rw [head] at stopped
    simpa using stopped
  · intro found
    have nonempty : strip s ≠ [] := fun empty => by simp [empty] at found
    have stopped := List.rdropWhile_last_not isSpace (s.dropWhile isSpace) nonempty
    rw [List.getLast?_eq_some_getLast nonempty, Option.some.injEq] at found
    change ¬ isSpace ((strip s).getLast nonempty) = true at stopped
    simpa [found] using stopped

@[simp]
theorem strip_strip (s : Str) : strip (strip s) = strip s :=
  strip_eq_self (fun _ => strip_ends.1) (fun _ => strip_ends.2)

end Python
