import Chlom.Library.Python.JsonTokens

/-!
# Reading JSON values back

The scanner reads what the writer wrote: the items of lists and dictionaries one
after the other, and by induction every value.  Sorting keys changes no value but the
order of its items, so a text with sorted keys determines the value up to that order.
-/

namespace Python

variable {F : Type} [FloatFormat F] {gap : Str}

@[simp]
theorem dumpsItems_eq_map (items : List (Value F)) :
    dumpsItems gap items = items.map (dumps gap) := by
  induction items with
  | nil => rfl
  | cons v rest ih => simp [dumpsItems, ih]

/-- The text of one item of a dictionary. -/
def dumpsEntry (gap : Str) (entry : Key × Value F) : Str :=
  quote entry.1.text ++ (point ':' :: gap ++ dumps gap entry.2)

@[simp]
theorem dumpsEntries_eq_map (entries : Entries F) :
    dumpsEntries gap entries = entries.map (dumpsEntry gap) := by
  induction entries with
  | nil => rfl
  | cons entry rest ih => simp [dumpsEntries, dumpsEntry, ih]

/-! ## What a value starts with -/

/-- The first character of a value's text. -/
def ValueStart (c : CodePoint) : Prop :=
  isJsonSpace c = false ∧ c ≠ point ']' ∧ c ≠ point '\x7d' ∧ c.val < 128

instance (c : CodePoint) : Decidable (ValueStart c) :=
  inferInstanceAs (Decidable (_ ∧ _ ∧ _ ∧ _))

theorem valueStart_of_isDigit {c : CodePoint} (digit : isDigit c = true) : ValueStart c := by
  simp only [isDigit, Bool.and_eq_true, decide_eq_true_eq] at digit
  refine ⟨?_, ?_, ?_, by omega⟩
  · simp only [isJsonSpace, Bool.or_eq_false_iff, beq_eq_false_iff_ne]
    omega
  · rintro rfl
    exact absurd digit (by decide)
  · rintro rfl
    exact absurd digit (by decide)

/-- A number text starts with a digit, perhaps behind a minus sign. -/
theorem NumberText.text_start (t : NumberText) :
    ∃ first rest, isDigit first = true ∧
      (t.text = first :: rest ∨ t.text = point '-' :: first :: rest) := by
  obtain ⟨first, digits, spelled, digit⟩ := t.head_whole
  refine ⟨first, digits ++ (t.frac ++ t.expo), digit, ?_⟩
  cases negative : t.negative with
  | true => exact .inr (by simp [text, sign, negative, spelled, lit_eq])
  | false => exact .inl (by simp [text, sign, negative, spelled])

theorem NumberText.valueStart (t : NumberText) :
    ∃ c rest, t.text = c :: rest ∧ ValueStart c := by
  obtain ⟨first, rest, digit, spelled | spelled⟩ := t.text_start
  · exact ⟨first, rest, spelled, valueStart_of_isDigit digit⟩
  · exact ⟨point '-', first :: rest, spelled, by decide⟩

variable (gap) in
theorem dumps_start {v : Value F} (json : v.IsJson) :
    ∃ c rest, dumps gap v = c :: rest ∧ ValueStart c := by
  cases json with
  | none => exact ⟨_, _, rfl, by decide⟩
  | bool b => cases b <;> exact ⟨_, _, rfl, by decide⟩
  | int i =>
      rw [dumps, ← NumberText.ofInt_text]
      exact (NumberText.ofInt i).valueStart
  | float finite =>
      obtain ⟨t, spelled, _⟩ := FloatFormat.repr_text finite
      rw [dumps, spelled]
      exact t.valueStart
  | str s => exact ⟨_, _, rfl, by decide⟩
  | list all => exact ⟨_, _, rfl, by decide⟩
  | dict keys all => exact ⟨_, _, rfl, by decide⟩

variable (gap) in
theorem dumps_ne_nil {v : Value F} (json : v.IsJson) : dumps gap v ≠ [] := by
  obtain ⟨c, rest, spelled, _⟩ := dumps_start gap json
  simp [spelled]

/-! ## Elements between brackets -/

section Elements

variable {α : Type} {write : α → Str} {element : Str → Except JsonError (α × Str)}

/-- An element is read back from the front of any text that does not continue it. -/
def ReadsBack (write : α → Str) (element : Str → Except JsonError (α × Str)) (item : α) : Prop :=
  ∀ rest, NumberEnd rest → element (write item ++ rest) = .ok (item, rest)

/-- The text of an element starts with a character no bracket or blank is. -/
def Starts (write : α → Str) (item : α) : Prop :=
  ∃ c rest, write item = c :: rest ∧ ValueStart c

/-- The texts of the elements with commas between them. -/
def commaSeparated (gap : Str) (write : α → Str) (items : List α) : Str :=
  List.intercalate (point ',' :: gap) (items.map write)

theorem commaSeparated_cons_cons (first second : α) (rest : List α) :
    commaSeparated gap write (first :: second :: rest) =
      write first ++ (point ',' :: (gap ++ commaSeparated gap write (second :: rest))) := by
  simp only [commaSeparated, List.map_cons]
  rw [List.intercalate_cons_cons]
  simp

variable (gap) in
theorem commaSeparated_start {first : α} (rest : List α) (starts : Starts write first) :
    ∃ c more, commaSeparated gap write (first :: rest) = c :: more ∧ ValueStart c := by
  obtain ⟨c, text, spelled, start⟩ := starts
  refine ⟨c, List.intercalate (point ',' :: gap) (text :: rest.map write), ?_, start⟩
  rw [commaSeparated, List.map_cons, spelled, List.intercalate_cons_cons_left]

theorem scanElements_commaSeparated (blank : ∀ c ∈ gap, isJsonSpace c = true) {close : CodePoint}
    (bracket : close = point ']' ∨ close = point '\x7d') {items : List α} (nonempty : items ≠ [])
    (starts : ∀ item ∈ items, Starts write item)
    (reads : ∀ item ∈ items, ReadsBack write element item) {fuel : Nat}
    (enough : items.length ≤ fuel) (rest : Str) :
    scanElements close element fuel (commaSeparated gap write items ++ (close :: rest)) =
      .ok (items, rest) := by
  have closeVisible : isJsonSpace close = false := by
    rcases bracket with rfl | rfl <;> rfl
  induction items generalizing fuel with
  | nil => exact absurd rfl nonempty
  | cons first others ih =>
      obtain ⟨fuel, rfl⟩ : ∃ less, fuel = less + 1 := ⟨fuel - 1, by simp at enough; omega⟩
      obtain ⟨_, othersStart⟩ := List.forall_mem_cons.mp starts
      obtain ⟨firstReads, othersRead⟩ := List.forall_mem_cons.mp reads
      cases others with
      | nil =>
          have scanned : element (write first ++ (close :: rest)) = .ok (first, close :: rest) :=
            firstReads _ (numberEnd_cons (.inr bracket))
          have text : commaSeparated gap write [first] = write first := by simp [commaSeparated]
          rw [text, scanElements, scanned]
          simp [bind, Except.bind, skipSpace_cons closeVisible, pure, Except.pure]
      | cons second later =>
          have tail := ih (by simp) othersStart othersRead (by simpa using enough)
          obtain ⟨c, more, spelled, visible, _⟩ :=
            commaSeparated_start gap later (othersStart second List.mem_cons_self)
          have comma : point ',' ≠ close := by
            rcases bracket with rfl | rfl <;> decide
          have scanned := firstReads
            (point ',' :: (gap ++ (commaSeparated gap write (second :: later) ++ (close :: rest))))
            (numberEnd_cons (.inl rfl))
          have skipped : skipSpace (gap ++ (commaSeparated gap write (second :: later) ++
              (close :: rest))) = commaSeparated gap write (second :: later) ++ (close :: rest) := by
            rw [skipSpace_append blank, spelled]
            exact skipSpace_cons visible
          have commaSkipped : ∀ s, skipSpace (point ',' :: s) = point ',' :: s := fun s =>
            skipSpace_cons rfl
          rw [commaSeparated_cons_cons, scanElements]
          simp only [List.append_assoc, List.cons_append, scanned, bind, Except.bind, commaSkipped,
            comma, if_false, if_true, skipped, tail]
          rfl

/-- Everything between brackets is read back. -/
theorem scanBracketed_commaSeparated (blank : ∀ c ∈ gap, isJsonSpace c = true) {close : CodePoint}
    (bracket : close = point ']' ∨ close = point '\x7d') {items : List α}
    (starts : ∀ item ∈ items, Starts write item)
    (reads : ∀ item ∈ items, ReadsBack write element item) {fuel : Nat}
    (enough : items.length ≤ fuel) (rest : Str) :
    scanBracketed close element fuel (commaSeparated gap write items ++ (close :: rest)) =
      .ok (items, rest) := by
  cases items with
  | nil =>
      have visible : isJsonSpace close = false := by
        rcases bracket with rfl | rfl <;> rfl
      simp [scanBracketed, commaSeparated, skipSpace_cons visible]
  | cons first others =>
      obtain ⟨c, more, spelled, visible, notBracket, notBrace, _⟩ :=
        commaSeparated_start gap others (starts first List.mem_cons_self)
      have differs : c ≠ close := by
        rcases bracket with rfl | rfl
        · exact notBracket
        · exact notBrace
      have scanned := scanElements_commaSeparated blank bracket (by simp) starts reads enough rest
      rw [spelled, List.cons_append] at scanned ⊢
      rw [scanBracketed, skipSpace_cons visible]
      simpa [differs] using scanned

end Elements

/-! ## Values -/

/-- Hooks that leave an object without repeated keys as it is and read every integer of so
many digits, where 0 is no limit. -/
structure Hooks.Faithful (hooks : Hooks F) (limit : Nat) : Prop where
  object : ∀ entries : Entries F, (entries.map Prod.fst).Nodup → hooks.object entries = .ok entries
  integer : ∀ sign digits, limit = 0 ∨ digits.length ≤ limit →
    hooks.integer sign digits = .ok (signedValue sign digits)

section Values

variable {hooks : Hooks F} {limit : Nat}

/-- A number text is no string, bracket or constant. -/
theorem scanOnce_number (t : NumberText) (fuel : Nat) (rest : Str) :
    scanOnce hooks (fuel + 1) (t.text ++ rest) = scanNumber hooks.integer (t.text ++ rest) := by
  have digitNe : ∀ {c : CodePoint} {d : Char}, isDigit c = true → isDigit (point d) = false →
      c ≠ point d := by
    rintro c d digit other rfl
    rw [digit] at other
    cases other
  obtain ⟨first, more, digit, spelled | spelled⟩ := t.text_start
  · have differs : ∀ d : Char, isDigit (point d) = false → first ≠ point d := fun d =>
      digitNe digit
    rw [spelled, List.cons_append, scanOnce]
    simp [lit_eq, (differs _ rfl : first ≠ point '"'), (differs _ rfl : first ≠ point '\x7b'),
      (differs _ rfl : first ≠ point '['), (differs _ rfl : first ≠ point 'n').symm,
      (differs _ rfl : first ≠ point 't').symm, (differs _ rfl : first ≠ point 'f').symm,
      (differs _ rfl : first ≠ point 'N').symm, (differs _ rfl : first ≠ point 'I').symm,
      (differs _ rfl : first ≠ point '-').symm]
  · have differs : first ≠ point 'I' := digitNe digit rfl
    rw [spelled, List.cons_append, List.cons_append, scanOnce]
    simp [lit_eq, differs.symm]

theorem scanMember_dumpsEntry (blank : ∀ c ∈ gap, isJsonSpace c = true)
    {value : Str → Except JsonError (Value F × Str)} {entry : Key × Value F}
    (key : ∃ s, entry.1 = .str s) (json : entry.2.IsJson)
    (reads : ReadsBack (dumps gap) value entry.2) :
    ReadsBack (dumpsEntry gap) (scanMember value) entry := by
  intro rest stop
  obtain ⟨key, v⟩ := entry
  obtain ⟨s, rfl⟩ := key
  obtain ⟨c, text, spelled, visible, _⟩ := dumps_start gap json
  have string := scanString_flatMap_escape s (point ':' :: (gap ++ (dumps gap v ++ rest)))
  have colon : skipSpace (point ':' :: (gap ++ (dumps gap v ++ rest))) =
      point ':' :: (gap ++ (dumps gap v ++ rest)) := skipSpace_cons rfl
  have skipped : skipSpace (gap ++ (dumps gap v ++ rest)) = dumps gap v ++ rest := by
    rw [skipSpace_append blank, spelled]
    exact skipSpace_cons visible
  have scanned := reads rest stop
  simp only [dumpsEntry, quote, Key.text, List.cons_append, List.append_assoc, scanMember,
    if_true, bind, Except.bind, string, colon, skipped, scanned]
  rfl

variable (gap) in
theorem length_dumps_le {v : Value F} {items : List (Value F)} (member : v ∈ items) :
    (dumps gap v).length ≤ (commaSeparated gap (dumps gap) items).length :=
  length_le_intercalate (List.mem_map_of_mem member)

variable (gap) in
theorem length_dumps_le_entries {entry : Key × Value F} {entries : Entries F}
    (member : entry ∈ entries) :
    (dumps gap entry.2).length ≤ (commaSeparated gap (dumpsEntry gap) entries).length := by
  have whole : (dumpsEntry gap entry).length ≤
      (commaSeparated gap (dumpsEntry gap) entries).length :=
    length_le_intercalate (List.mem_map_of_mem member)
  have part : (dumps gap entry.2).length ≤ (dumpsEntry gap entry).length := by
    simp only [dumpsEntry, List.length_append, List.cons_append, List.length_cons]
    omega
  exact part.trans whole

theorem length_items_le {α : Type} {write : α → Str} {items : List α}
    (starts : ∀ item ∈ items, Starts write item) :
    items.length ≤ (commaSeparated gap write items).length := by
  have nonempty : ∀ text ∈ items.map write, text ≠ [] := by
    intro text member
    obtain ⟨item, itemMember, rfl⟩ := List.mem_map.mp member
    obtain ⟨c, rest, spelled, _⟩ := starts item itemMember
    simp [spelled]
  have shorter : (items.map write).length ≤
      (List.intercalate (point ',' :: gap) (items.map write)).length :=
    length_texts_le_intercalate nonempty
  simpa [commaSeparated] using shorter

theorem starts_dumpsEntry (entry : Key × Value F) : Starts (dumpsEntry gap) entry :=
  ⟨point '"', _, rfl, by decide⟩

theorem bracket_ne : point '[' ≠ point '"' ∧ point '[' ≠ point '\x7b' := by decide

theorem brace_ne : point '\x7b' ≠ point '"' := by decide

/-- Every JSON value is read back from the front of its text. -/
theorem scanOnce_dumps (faithful : hooks.Faithful limit) (blank : ∀ c ∈ gap, isJsonSpace c = true)
    {v : Value F} (json : v.IsJson) (wellFormed : v.WellFormed) (fits : v.fits limit = true) {fuel : Nat}
    (enough : (dumps gap v).length ≤ fuel) : ReadsBack (dumps gap) (scanOnce hooks fuel) v := by
  intro rest stop
  obtain ⟨fuel, rfl⟩ : ∃ less, fuel = less + 1 := by
    obtain ⟨c, text, spelled, _⟩ := dumps_start gap json
    rw [spelled] at enough
    exact ⟨fuel - 1, by simp at enough; omega⟩
  -- the text of a part is shorter than the text of the whole, so the fuel lasts
  induction v using Value.induct generalizing fuel rest with
  | none => rfl
  | bool b => cases b <;> rfl
  | int i =>
      have read := faithful.integer (NumberText.ofInt i).sign (NumberText.ofInt i).whole
        (fits_int.mp fits)
      rw [dumps, ← NumberText.ofInt_text, scanOnce_number,
        (NumberText.ofInt i).scanNumber_text stop, if_pos ⟨rfl, rfl⟩, read,
        NumberText.ofInt_value]
      rfl
  | float f =>
      cases json with
      | float finite =>
          obtain ⟨t, spelled, isFloat⟩ := FloatFormat.repr_text finite
          have notWhole : ¬ (t.frac = [] ∧ t.expo = []) := fun whole =>
            isFloat.elim (fun frac => frac whole.1) fun expo => expo whole.2
          rw [dumps, spelled, scanOnce_number, t.scanNumber_text stop, if_neg notWhole, ← spelled,
            FloatFormat.parse_repr finite]
  | str s =>
      have scanned := scanString_flatMap_escape s rest
      simp only [dumps, quote, List.cons_append, List.append_assoc, scanOnce, if_true, bind,
        Except.bind, scanned]
      rfl
  | list items ih =>
      cases json with
      | list itemsJson =>
      cases wellFormed with
      | list itemsWell =>
          have itemsFit := fits_list.mp fits
          have starts : ∀ item ∈ items, Starts (dumps gap) item := fun item member =>
            dumps_start gap (itemsJson item member)
          have room : (commaSeparated gap (dumps gap) items).length ≤ fuel := by
            simp only [dumps, dumpsItems_eq_map, List.length_cons, List.length_append] at enough
            rw [commaSeparated]
            omega
          have reads : ∀ item ∈ items, ReadsBack (dumps gap) (scanOnce hooks fuel) item := by
            intro item member itemRest itemStop
            have itemRoom := (length_dumps_le gap member).trans room
            obtain ⟨less, rfl⟩ : ∃ less, fuel = less + 1 := by
              have positive := List.length_pos_iff.mpr
                (dumps_ne_nil gap (itemsJson item member))
              exact ⟨fuel - 1, by omega⟩
            exact ih item member (itemsJson item member) (itemsWell item member)
              (itemsFit item member) itemRest itemStop less itemRoom
          have scanned := scanBracketed_commaSeparated blank (.inl rfl) starts reads
            ((length_items_le starts).trans room) rest
          rw [commaSeparated] at scanned
          simp only [dumps, dumpsItems_eq_map, List.cons_append, List.append_assoc, scanOnce,
            bracket_ne.1, bracket_ne.2, if_false, if_true, bind, Except.bind]
          rw [show lit "]" ++ rest = point ']' :: rest from rfl, scanned]
          rfl
  | dict entries ih =>
      cases json with
      | dict keys valuesJson =>
      cases wellFormed with
      | dict distinct valuesWell =>
          have valuesFit := fits_dict.mp fits
          have room : (commaSeparated gap (dumpsEntry gap) entries).length ≤ fuel := by
            simp only [dumps, dumpsEntries_eq_map, List.length_cons, List.length_append] at enough
            rw [commaSeparated]
            omega
          have reads : ∀ entry ∈ entries,
              ReadsBack (dumpsEntry gap) (scanMember (scanOnce hooks fuel)) entry := by
            intro entry member
            refine scanMember_dumpsEntry blank (keys entry member) (valuesJson entry member) ?_
            intro valueRest valueStop
            have valueRoom := (length_dumps_le_entries gap member).trans room
            obtain ⟨less, rfl⟩ : ∃ less, fuel = less + 1 := by
              have positive := List.length_pos_iff.mpr
                (dumps_ne_nil gap (valuesJson entry member))
              exact ⟨fuel - 1, by omega⟩
            exact ih entry member (valuesJson entry member) (valuesWell entry member)
              (valuesFit entry member) valueRest valueStop less valueRoom
          have starts : ∀ entry ∈ entries, Starts (dumpsEntry gap) entry := fun entry _ =>
            starts_dumpsEntry entry
          have scanned := scanBracketed_commaSeparated blank (.inr rfl) starts reads
            ((length_items_le starts).trans room) rest
          rw [commaSeparated] at scanned
          simp only [dumps, dumpsEntries_eq_map, List.cons_append, List.append_assoc, scanOnce,
            brace_ne, if_false, if_true, bind, Except.bind]
          rw [show lit "\x7d" ++ rest = point '\x7d' :: rest from rfl, scanned]
          simp only [faithful.object entries distinct]
          rfl
  | mapping name entries => cases json
  | datetime d => cases json
  | other name => cases json

/-- Loading a written value gives the value. -/
theorem loadsWith_dumps (faithful : hooks.Faithful limit)
    (blank : ∀ c ∈ gap, isJsonSpace c = true) {v : Value F} (json : v.IsJson)
    (wellFormed : v.WellFormed) (fits : v.fits limit = true) : loadsWith hooks (dumps gap v) = .ok v := by
  obtain ⟨c, text, spelled, visible, _, _, ascii⟩ := dumps_start gap json
  have noMark : (dumps gap v).head? ≠ some (Fin.ofNat _ 0xFEFF) := by
    rw [spelled]
    intro equal
    obtain rfl := Option.some.inj equal
    exact absurd ascii (by decide)
  have front : skipSpace (dumps gap v) = dumps gap v := by
    rw [spelled]
    exact skipSpace_cons visible
  have scanned := scanOnce_dumps faithful blank json wellFormed fits
    (Nat.le_succ (dumps gap v).length) [] numberEnd_nil
  rw [List.append_nil] at scanned
  simp only [loadsWith, noMark, if_false, front, bind, Except.bind, scanned]
  rfl

end Values

/-! ## The hooks -/

omit [FloatFormat F] in
theorem key_fresh {built rest : Entries F} {entry : Key × Value F}
    (distinct : ((built ++ entry :: rest).map Prod.fst).Nodup) :
    entry.1 ∉ built.map Prod.fst := by
  rw [List.map_append, List.map_cons] at distinct
  intro member
  exact (List.nodup_append.mp distinct).2.2 _ member _ List.mem_cons_self rfl

omit [FloatFormat F] in
theorem foldl_assign {built entries : Entries F}
    (distinct : ((built ++ entries).map Prod.fst).Nodup) :
    entries.foldl (fun built entry => Entries.assign built entry.1 entry.2) built =
      built ++ entries := by
  induction entries generalizing built with
  | nil => simp
  | cons entry rest ih =>
      have stepped : Entries.assign built entry.1 entry.2 = built ++ [entry] :=
        if_neg (key_fresh distinct)
      rw [List.foldl_cons, stepped, ih (by simpa using distinct)]
      simp

omit [FloatFormat F] in
theorem foldlM_reject {built entries : Entries F}
    (distinct : ((built ++ entries).map Prod.fst).Nodup) :
    entries.foldlM (fun built entry =>
        if entry.1 ∈ built.map Prod.fst then Except.error (JsonError.duplicate entry.1.text)
        else Except.ok (built ++ [entry])) built = .ok (built ++ entries) := by
  induction entries generalizing built with
  | nil => simp [pure, Except.pure]
  | cons entry rest ih =>
      have later : (((built ++ [entry]) ++ rest).map Prod.fst).Nodup := by simpa using distinct
      rw [List.foldlM_cons, if_neg (key_fresh distinct)]
      simpa [bind, Except.bind] using ih later

theorem Hooks.standard_faithful : (Hooks.standard : Hooks F).Faithful 0 where
  object entries distinct := by
    have built := foldl_assign (by simpa using distinct : (([] ++ entries).map Prod.fst).Nodup)
    simp only [Hooks.standard, built, List.nil_append]
  integer _ _ _ := rfl

omit [FloatFormat F] in
theorem Hooks.strict_faithful : (Hooks.strict : Hooks F).Faithful 0 where
  object entries distinct := by
    have built := foldlM_reject (by simpa using distinct : (([] ++ entries).map Prod.fst).Nodup)
    simpa only [Hooks.strict, rejectDuplicateKeys, List.nil_append] using built
  integer _ _ _ := rfl

omit [FloatFormat F] in
theorem Hooks.Faithful.limited {hooks : Hooks F} (faithful : hooks.Faithful 0) (limit : Nat) :
    (hooks.limited limit).Faithful limit where
  object := faithful.object
  integer sign digits short := by
    have within : ¬ (limit ≠ 0 ∧ limit < digits.length) := by omega
    exact (if_neg within).trans (faithful.integer sign digits (.inl rfl))

omit [FloatFormat F] in
/-- Without a limit every value fits. -/
theorem fits_zero (v : Value F) : v.fits 0 = true := by
  induction v using Value.induct with
  | list items ih => exact fits_list.mpr ih
  | dict entries ih => exact fits_dict.mpr ih
  | none | bool | int | float | str | mapping | datetime | other => rfl

end Python
