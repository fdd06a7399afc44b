import Chlom.Library.Python.Json

/-!
# Reading JSON strings and numbers back

The scanner reads what the writer wrote: the characters of a string, and a number
text up to whatever does not continue it.
-/

namespace Python

variable {F : Type}

/-! ## Strings -/

@[simp]
theorem hexValue_hexDigit {d : Nat} (small : d < 16) : hexValue (hexDigit d) = some d := by
  interval_cases d <;> rfl

section Units

variable {rest : Str} {unit : CodePoint}

theorem scanUnits_quote : scanUnits (point '"' :: rest) = .ok ([], rest) := by
  rw [scanUnits.eq_def]
  simp

theorem scanUnits_letter {letter : CodePoint} (notUnicode : letter ≠ point 'u')
    (known : unescape letter = some unit) :
    scanUnits (point '\\' :: letter :: rest) = consUnit (unit, false) (scanUnits rest) := by
  rw [scanUnits.eq_def]
  simp [notUnicode, known]

theorem scanUnits_unicode {a b c d : CodePoint} (known : hex4 a b c d = some unit) :
    scanUnits (point '\\' :: point 'u' :: a :: b :: c :: d :: rest) =
      consUnit (unit, true) (scanUnits rest) := by
  rw [scanUnits.eq_def]
  simp [known]

theorem scanUnits_plain (notQuote : unit ≠ point '"') (notSlash : unit ≠ point '\\')
    (notControl : ¬ unit.val < 32) :
    scanUnits (unit :: rest) = consUnit (unit, false) (scanUnits rest) := by
  rw [scanUnits.eq_def]
  simp [notQuote, notSlash, notControl]

end Units

/-- A character that has a letter of its own behind the backslash. -/
theorem escape_letter {c : CodePoint}
    (short : c = point '"' ∨ c = point '\\' ∨ c = point '\n' ∨ c = point '\r' ∨
      c = point '\t' ∨ c = 12 ∨ c = 8) :
    ∃ letter, escape c = [point '\\', letter] ∧ letter ≠ point 'u' ∧ unescape letter = some c := by
  rcases short with rfl | rfl | rfl | rfl | rfl | rfl | rfl
  · exact ⟨point '"', by decide⟩
  · exact ⟨point '\\', by decide⟩
  · exact ⟨point 'n', by decide⟩
  · exact ⟨point 'r', by decide⟩
  · exact ⟨point 't', by decide⟩
  · exact ⟨point 'f', by decide⟩
  · exact ⟨point 'b', by decide⟩

/-- An escaped character is scanned as itself, and a `\u` escape is no surrogate. -/
theorem scanUnits_escape (c : CodePoint) (rest : Str) :
    ∃ flag : Bool, (flag = true → c.val < 32) ∧
      scanUnits (escape c ++ rest) = consUnit (c, flag) (scanUnits rest) := by
  by_cases short : c = point '"' ∨ c = point '\\' ∨ c = point '\n' ∨ c = point '\r' ∨
      c = point '\t' ∨ c = 12 ∨ c = 8
  · obtain ⟨letter, spelled, notUnicode, known⟩ := escape_letter short
    refine ⟨false, nofun, ?_⟩
    rw [spelled]
    exact scanUnits_letter notUnicode known
  · simp only [not_or] at short
    obtain ⟨quoteNe, slashNe, newlineNe, returnNe, tabNe, feedNe, backNe⟩ := short
    have feedVal : c.val ≠ 12 := fun equal => feedNe (Fin.ext equal)
    have backVal : c.val ≠ 8 := fun equal => backNe (Fin.ext equal)
    by_cases control : c.val < 32
    · have spelled : escape c = point '\\' :: point 'u' :: point '0' :: point '0' ::
          [hexDigit (c.val / 16), hexDigit (c.val % 16)] := by
        simp [escape, quoteNe, slashNe, newlineNe, returnNe, tabNe, feedVal, backVal, control, lit_eq]
      have high : hexValue (hexDigit (c.val / 16)) = some (c.val / 16) :=
        hexValue_hexDigit (by omega)
      have low : hexValue (hexDigit (c.val % 16)) = some (c.val % 16) :=
        hexValue_hexDigit (by omega)
      have zero : hexValue (point '0') = some 0 := rfl
      have known : hex4 (point '0') (point '0') (hexDigit (c.val / 16)) (hexDigit (c.val % 16)) =
          some c := by
        rw [hex4, high, low, zero]
        refine congrArg some (Fin.ext ?_)
        simp only [Fin.val_ofNat]
        omega
      refine ⟨true, fun _ => control, ?_⟩
      rw [spelled]
      exact scanUnits_unicode known
    · have spelled : escape c = [c] := by
        simp [escape, quoteNe, slashNe, newlineNe, returnNe, tabNe, feedVal, backVal, control]
      refine ⟨false, nofun, ?_⟩
      rw [spelled]
      exact scanUnits_plain quoteNe slashNe control

/-- Without escapes of surrogates there is nothing to join. -/
theorem joinPairs_of_small {units : List (CodePoint × Bool)}
    (small : ∀ unit ∈ units, unit.2 = true → unit.1.val < 32) :
    joinPairs units = units.map Prod.fst := by
  induction units with
  | nil => rfl
  | cons unit rest ih =>
      have tail := ih fun other member => small other (List.mem_cons_of_mem _ member)
      obtain ⟨c, flag⟩ := unit
      cases flag with
      | false => simp [joinPairs, tail]
      | true =>
          have bound : c.val < 32 := small (c, true) List.mem_cons_self rfl
          have notHigh : isHighSurrogate c = false := by
            simp only [isHighSurrogate, Bool.and_eq_false_iff, decide_eq_false_iff_not]
            omega
          cases rest with
          | nil => simp [joinPairs]
          | cons next others =>
              obtain ⟨d, nextFlag⟩ := next
              cases nextFlag with
              | false => simpa [joinPairs] using tail
              | true =>
                  rw [joinPairs, notHigh]
                  simpa using tail

theorem scanUnits_flatMap_escape (s rest : Str) :
    ∃ units : List (CodePoint × Bool), units.map Prod.fst = s ∧
      (∀ unit ∈ units, unit.2 = true → unit.1.val < 32) ∧
      scanUnits (s.flatMap escape ++ (lit "\"" ++ rest)) = .ok (units, rest) := by
  induction s with
  | nil => exact ⟨[], rfl, by simp, scanUnits_quote⟩
  | cons c s ih =>
      obtain ⟨units, spelled, small, scanned⟩ := ih
      obtain ⟨flag, flagSmall, stepped⟩ :=
        scanUnits_escape c (s.flatMap escape ++ (lit "\"" ++ rest))
      refine ⟨(c, flag) :: units, by simp [spelled], ?_, ?_⟩
      · exact List.forall_mem_cons.mpr ⟨flagSmall, small⟩
      · rw [List.flatMap_cons, List.append_assoc, stepped, scanned]
        rfl

/-- A written string is scanned back. -/
theorem scanString_flatMap_escape (s rest : Str) :
    scanString (s.flatMap escape ++ (lit "\"" ++ rest)) = .ok (s, rest) := by
  obtain ⟨units, spelled, small, scanned⟩ := scanUnits_flatMap_escape s rest
  rw [scanString, scanned]
  simp [Except.map, joinPairs_of_small small, spelled]

/-! ## Numbers -/

/-- A text that does not continue a number. -/
def NumberEnd (rest : Str) : Prop :=
  ∀ c, rest.head? = some c →
    isDigit c = false ∧ c ≠ point '.' ∧ c ≠ point 'e' ∧ c ≠ point 'E'

theorem numberEnd_nil : NumberEnd [] := nofun

theorem numberEnd_cons {c : CodePoint} {rest : Str}
    (mark : c = point ',' ∨ c = point ']' ∨ c = point '\x7d') : NumberEnd (c :: rest) := by
  intro d found
  obtain rfl := Option.some.inj found
  rcases mark with rfl | rfl | rfl <;> decide

/-- Digits before something else are taken whole. -/
theorem span_digits {digits rest : Str} (all : ∀ c ∈ digits, isDigit c = true)
    (stop : ∀ c, rest.head? = some c → isDigit c = false) :
    (digits ++ rest).takeWhile isDigit = digits ∧ (digits ++ rest).dropWhile isDigit = rest := by
  have restTake : rest.takeWhile isDigit = [] := by
    cases rest with
    | nil => rfl
    | cons c rest => simp [stop c rfl]
  have restDrop : rest.dropWhile isDigit = rest := by
    cases rest with
    | nil => rfl
    | cons c rest => simp [stop c rfl]
  rw [List.takeWhile_append_of_pos all, List.dropWhile_append_of_pos all, restTake, restDrop]
  simp

theorem span_number {digits rest : Str} (all : ∀ c ∈ digits, isDigit c = true)
    (stop : NumberEnd rest) :
    (digits ++ rest).takeWhile isDigit = digits ∧ (digits ++ rest).dropWhile isDigit = rest :=
  span_digits all fun c found => (stop c found).1

theorem scanSign_none {signs s : Str} (unsigned : ∀ c, s.head? = some c → c ∉ signs) :
    scanSign signs s = ([], s) := by
  cases s with
  | nil => rfl
  | cons c rest => simp [scanSign, unsigned c rfl]

theorem scanFrac_none {s : Str} (whole : ∀ c, s.head? = some c → c ≠ point '.') :
    scanFrac s = ([], s) := by
  match s with
  | [] => rfl
  | [c] => rfl
  | c :: d :: rest => simp [scanFrac, whole c rfl]

theorem scanExpo_none {s : Str} (plain : ∀ c, s.head? = some c → c ≠ point 'e' ∧ c ≠ point 'E') :
    scanExpo s = ([], s) := by
  cases s with
  | nil => rfl
  | cons c rest => simp [scanExpo, plain c rfl]

namespace NumberText

variable (t : NumberText) {rest : Str}

/-- The exponent is scanned whole. -/
theorem scanExpo_expo (stop : NumberEnd rest) : scanExpo (t.expo ++ rest) = (t.expo, rest) := by
  rcases t.expo_valid with none | ⟨mark, sign, first, digits, spelled, letter, signed, digit, all⟩
  · rw [none]
    exact scanExpo_none fun c found => (stop c found).2.2
  · have every : ∀ c ∈ first :: digits, isDigit c = true := List.forall_mem_cons.mpr ⟨digit, all⟩
    obtain ⟨taken, dropped⟩ := span_number every stop
    have firstSign : first ∉ lit "+-" := by
      intro member
      rcases List.mem_pair.mp member with rfl | rfl <;> cases digit
    have signScan : scanSign (lit "+-") (sign ++ (first :: digits ++ rest)) =
        (sign, first :: digits ++ rest) := by
      rcases signed with rfl | rfl | rfl
      · exact scanSign_none fun c found => by
          obtain rfl := Option.some.inj found
          exact firstSign
      · simp [scanSign, lit_eq]
      · simp [scanSign, lit_eq]
    rw [spelled, List.cons_append, List.append_assoc, scanExpo, signScan]
    simp only [taken, dropped]
    simp [letter]

/-- The fraction is scanned whole. -/
theorem scanFrac_frac (stop : NumberEnd rest) :
    scanFrac (t.frac ++ (t.expo ++ rest)) = (t.frac, t.expo ++ rest) := by
  have afterFrac : ∀ c, (t.expo ++ rest).head? = some c → c ≠ point '.' ∧ isDigit c = false := by
    intro c found
    rcases t.expo_valid with none | ⟨mark, sign, first, digits, spelled, letter, _⟩
    · rw [none] at found
      exact ⟨(stop c found).2.1, (stop c found).1⟩
    · rw [spelled] at found
      obtain rfl := Option.some.inj found
      rcases letter with rfl | rfl <;> exact ⟨by decide, by decide⟩
  rcases t.frac_valid with none | ⟨first, digits, spelled, digit, all⟩
  · rw [none]
    exact scanFrac_none fun c found => (afterFrac c found).1
  · obtain ⟨taken, dropped⟩ := span_digits all fun c found => (afterFrac c found).2
    rw [spelled]
    simp [scanFrac, digit, taken, dropped]

/-- What follows the whole part does not continue its digits. -/
theorem head_afterWhole (stop : NumberEnd rest) {c : CodePoint}
    (found : (t.frac ++ (t.expo ++ rest)).head? = some c) : isDigit c = false := by
  rcases t.frac_valid with none | ⟨first, digits, spelled, _⟩
  · rw [none, List.nil_append] at found
    rcases t.expo_valid with none | ⟨mark, sign, first, digits, spelled, letter, _⟩
    · rw [none] at found
      exact (stop c found).1
    · rw [spelled] at found
      obtain rfl := Option.some.inj found
      rcases letter with rfl | rfl <;> decide
  · rw [spelled] at found
    obtain rfl := Option.some.inj found
    decide

theorem scanWhole_whole (stop : NumberEnd rest) :
    scanWhole (t.whole ++ (t.frac ++ (t.expo ++ rest))) =
      some (t.whole, t.frac ++ (t.expo ++ rest)) := by
  rcases t.whole_valid with zero | ⟨first, digits, spelled, notZero, digit, all⟩
  · rw [zero]
    rfl
  · obtain ⟨taken, dropped⟩ := span_digits all fun c found => t.head_afterWhole stop found
    rw [spelled, List.cons_append]
    simp [scanWhole, digit, notZero, taken, dropped]

theorem head_whole : ∃ first digits, t.whole = first :: digits ∧ isDigit first = true := by
  rcases t.whole_valid with zero | ⟨first, digits, spelled, _, digit, _⟩
  · exact ⟨point '0', [], zero, rfl⟩
  · exact ⟨first, digits, spelled, digit⟩

theorem scanSign_text :
    scanSign (lit "-") (t.text ++ rest) = (t.sign, t.whole ++ (t.frac ++ (t.expo ++ rest))) := by
  simp only [text, sign, List.append_assoc]
  cases t.negative with
  | true => rfl
  | false =>
      obtain ⟨first, digits, spelled, digit⟩ := t.head_whole
      refine scanSign_none fun c found => ?_
      rw [spelled] at found
      obtain rfl := Option.some.inj found
      intro member
      obtain rfl := List.mem_singleton.mp member
      cases digit

/-- A number text is read as an integer or as a floating-point number. -/
theorem scanNumber_text [FloatFormat F] {integer : Str → Str → Except JsonError Int}
    (stop : NumberEnd rest) :
    scanNumber (F := F) integer (t.text ++ rest) =
      if t.frac = [] ∧ t.expo = [] then (integer t.sign t.whole).map fun i => (.int i, rest)
      else .ok (.float (FloatFormat.parse t.text), rest) := by
  simp only [scanNumber, t.scanSign_text, t.scanWhole_whole stop, t.scanFrac_frac stop,
    t.scanExpo_expo stop]
  split
  · next plain => simp [plain]
  · rfl

end NumberText

/-- The number text of an integer. -/
def NumberText.ofInt (i : Int) : NumberText where
  negative := decide (i < 0)
  whole := natText i.natAbs
  frac := []
  expo := []
  whole_valid := by
    by_cases zero : i.natAbs = 0
    · exact .inl (by rw [zero]; rfl)
    · cases spelled : natText i.natAbs with
      | nil => exact absurd spelled (natText_ne_nil _)
      | cons first digits =>
          have every : ∀ c ∈ first :: digits, isDigit c = true := by
            rw [← spelled]
            exact fun c member => isDigit_of_mem_natText member
          obtain ⟨digit, all⟩ := List.forall_mem_cons.mp every
          exact .inr ⟨first, digits, rfl, natText_head_ne_zero (Nat.pos_of_ne_zero zero) spelled,
            digit, all⟩
  frac_valid := .inl rfl
  expo_valid := .inl rfl

theorem NumberText.ofInt_text (i : Int) : (NumberText.ofInt i).text = intText i := by
  by_cases negative : i < 0
  · simp [NumberText.text, NumberText.sign, NumberText.ofInt, intText, negative, lit_eq]
  · simp [NumberText.text, NumberText.sign, NumberText.ofInt, intText, negative]

theorem NumberText.ofInt_value (i : Int) :
    signedValue (NumberText.ofInt i).sign (NumberText.ofInt i).whole = i := by
  by_cases negative : i < 0
  · simp only [signedValue, NumberText.sign, NumberText.ofInt, negative, decide_true, if_true,
      digitsValue_natText]
    rw [if_neg (by decide)]
    omega
  · simp only [signedValue, NumberText.sign, NumberText.ofInt, negative, decide_false,
      Bool.false_eq_true, if_false, if_true, digitsValue_natText]
    omega

/-! ## Blanks and separators -/

theorem skipSpace_cons {c : CodePoint} {rest : Str} (visible : isJsonSpace c = false) :
    skipSpace (c :: rest) = c :: rest := by
  simp [skipSpace, visible]

theorem skipSpace_append {gap : Str} (blank : ∀ c ∈ gap, isJsonSpace c = true) (s : Str) :
    skipSpace (gap ++ s) = skipSpace s := by
  rw [skipSpace, List.dropWhile_append_of_pos blank]
  rfl

theorem length_le_intercalate {separator text : Str} {texts : List Str} (member : text ∈ texts) :
    text.length ≤ (List.intercalate separator texts).length := by
  induction texts with
  | nil => cases member
  | cons first rest ih =>
      cases rest with
      | nil =>
          obtain rfl := List.mem_singleton.mp member
          simp
      | cons second others =>
          rw [List.intercalate_cons_cons, List.length_append, List.length_append]
          rcases List.mem_cons.mp member with rfl | later
          · omega
          · have bound := ih later
            omega

theorem length_texts_le_intercalate {separator : Str} {texts : List Str}
    (nonempty : ∀ text ∈ texts, text ≠ []) :
    texts.length ≤ (List.intercalate separator texts).length := by
  induction texts with
  | nil => simp
  | cons first rest ih =>
      obtain ⟨firstNe, restNe⟩ := List.forall_mem_cons.mp nonempty
      have firstPos := List.length_pos_iff.mpr firstNe
      have bound := ih restNe
      cases rest with
      | nil =>
          rw [List.intercalate_singleton, List.length_singleton]
          exact firstPos
      | cons second others =>
          rw [List.intercalate_cons_cons, List.length_append, List.length_append, List.length_cons]
          omega

end Python
