import Chlom.Library.Js.Json

/-!
# Reading JSON texts

No text of a value is the beginning of the text of a different one, however the text
goes on after a comma, a colon or a closing bracket.  So a text belongs to one value,
up to the order of keys and the zeros.
-/

namespace Js

variable {N : Type}

/-! ## String literals -/

theorem mem_shortEscapes {c letter : CodeUnit} (found : shortEscape c = some letter) :
    (c, letter) ∈ shortEscapes := by
  rw [shortEscape, Option.map_eq_some_iff] at found
  obtain ⟨entry, found, rfl⟩ := found
  have named := List.find?_some found
  obtain rfl : entry.1 = c := by simpa using named
  exact List.mem_of_find?_eq_some found

theorem shortEscape_inj {c d letter : CodeUnit} (first : shortEscape c = some letter)
    (second : shortEscape d = some letter) : c = d := by
  have distinct : (shortEscapes.map Prod.snd).Nodup := by decide
  have same : (c, letter) = (d, letter) :=
    List.inj_on_of_nodup_map distinct (mem_shortEscapes first) (mem_shortEscapes second) rfl
  exact congrArg Prod.fst same

theorem shortEscape_ne_u {c : CodeUnit} : shortEscape c ≠ some (unit 'u') := fun found => by
  have other : ∀ entry ∈ shortEscapes, entry.2 ≠ unit 'u' := forall_mem_of_all (by decide)
  exact other _ (mem_shortEscapes found) rfl

theorem hexDigit_inj {d e : Nat} (dSmall : d < 16) (eSmall : e < 16)
    (equal : hexDigit d = hexDigit e) : d = e := by
  have distinct : ∀ d < 16, ∀ e < 16, hexDigit d = hexDigit e → d = e := by decide
  exact distinct d dSmall e eSmall equal

theorem hex4_inj {c d : CodeUnit} (equal : hex4 c = hex4 d) : c = d := by
  have cBound := c.isLt
  have dBound := d.isLt
  simp only [hex4, List.cons.injEq, and_true] at equal
  obtain ⟨first, second, third, fourth⟩ := equal
  have one := hexDigit_inj (by omega) (by omega) first
  have two := hexDigit_inj (by omega) (by omega) second
  have three := hexDigit_inj (by omega) (by omega) third
  have four := hexDigit_inj (by omega) (by omega) fourth
  exact Fin.ext (by omega)

/-- How a code unit may stand in a string literal. -/
inductive Spells (c : CodeUnit) : Str → Prop where
  | short {letter : CodeUnit} (found : shortEscape c = some letter) : Spells c [unit '\\', letter]
  | code : Spells c (unit '\\' :: unit 'u' :: hex4 c)
  | plain (notSlash : c ≠ unit '\\') (notQuote : c ≠ unit '"') : Spells c [c]

theorem spells_escapeUnit (paired : Bool) (c : CodeUnit) : Spells c (escapeUnit paired c) := by
  unfold escapeUnit
  cases found : shortEscape c with
  | some letter => exact .short found
  | none =>
      dsimp only
      split_ifs
      · exact .code
      · refine .plain ?_ ?_
        · rintro rfl
          exact absurd found (by decide)
        · rintro rfl
          exact absurd found (by decide)

/-- The spelling of a code unit can be read off the front of a text. -/
theorem Spells.inj {c d : CodeUnit} {s t rest tail : Str} (first : Spells c s) (second : Spells d t)
    (equal : s ++ rest = t ++ tail) : c = d ∧ rest = tail := by
  cases first with
  | short found =>
      cases second with
      | short other =>
          simp only [List.cons_append, List.nil_append, List.cons.injEq, true_and] at equal
          exact ⟨shortEscape_inj found (equal.1 ▸ other), equal.2⟩
      | code =>
          simp only [List.cons_append, List.nil_append, List.cons.injEq, true_and] at equal
          exact absurd (equal.1 ▸ found) shortEscape_ne_u
      | plain notSlash =>
          simp only [List.cons_append, List.nil_append, List.cons.injEq] at equal
          exact absurd equal.1.symm notSlash
  | code =>
      cases second with
      | short other =>
          simp only [List.cons_append, List.nil_append, List.cons.injEq, true_and] at equal
          exact absurd (equal.1 ▸ other) shortEscape_ne_u
      | code =>
          simp only [List.cons_append, List.cons.injEq, true_and] at equal
          obtain ⟨digits, rest⟩ := List.append_inj equal rfl
          exact ⟨hex4_inj digits, rest⟩
      | plain notSlash =>
          simp only [List.cons_append, List.nil_append, List.cons.injEq] at equal
          exact absurd equal.1.symm notSlash
  | plain notSlash =>
      cases second with
      | short other =>
          simp only [List.cons_append, List.nil_append, List.cons.injEq] at equal
          exact absurd equal.1 notSlash
      | code =>
          simp only [List.cons_append, List.nil_append, List.cons.injEq] at equal
          exact absurd equal.1 notSlash
      | plain =>
          simp only [List.cons_append, List.nil_append, List.cons.injEq] at equal
          exact equal

/-- No code unit inside a string literal is spelled like its end. -/
theorem Spells.ne_quote {c : CodeUnit} {s rest tail : Str} (spells : Spells c s) :
    s ++ rest ≠ unit '"' :: tail := by
  have slash : unit '\\' ≠ unit '"' := by decide
  cases spells with
  | short found => simp [slash]
  | code => simp [slash]
  | plain notSlash notQuote => simp [notQuote]

theorem quoteFrom_inj {p q : Bool} {s t rest tail : Str}
    (equal : quoteFrom p s ++ rest = quoteFrom q t ++ tail) : s = t ∧ rest = tail := by
  induction s generalizing p q t with
  | nil =>
      cases t with
      | nil => simpa [quoteFrom] using equal
      | cons d t =>
          rw [quoteFrom, quoteFrom, List.append_assoc] at equal
          exact absurd equal.symm (spells_escapeUnit _ d).ne_quote
  | cons c s ih =>
      cases t with
      | nil =>
          rw [quoteFrom, quoteFrom, List.append_assoc] at equal
          exact absurd equal (spells_escapeUnit _ c).ne_quote
      | cons d t =>
          rw [quoteFrom, quoteFrom, List.append_assoc, List.append_assoc] at equal
          obtain ⟨rfl, equal⟩ := (spells_escapeUnit _ c).inj (spells_escapeUnit _ d) equal
          obtain ⟨rfl, rfl⟩ := ih equal
          exact ⟨rfl, rfl⟩

/-- A string literal can be read off the front of a text. -/
theorem quote_inj {s t rest tail : Str} (equal : quote s ++ rest = quote t ++ tail) :
    s = t ∧ rest = tail :=
  quoteFrom_inj (List.cons.inj equal).2

/-! ## Lists of texts -/

/-- The rest of a bracketed list after one of its texts. -/
def listRest (close : CodeUnit) : List Str → Str
  | [] => [close]
  | s :: rest => unit ',' :: (s ++ listRest close rest)

theorem commaJoin_cons_append (close : CodeUnit) (s : Str) (rest : List Str) :
    commaJoin (s :: rest) ++ [close] = s ++ listRest close rest := by
  induction rest generalizing s with
  | nil => simp [commaJoin, listRest]
  | cons t rest ih =>
      have split : commaJoin (s :: t :: rest) = s ++ (unit ',' :: commaJoin (t :: rest)) := by
        simp [commaJoin, List.intercalate]
      rw [split, List.append_assoc, List.cons_append, ih t, listRest]

/-- Where a text must stop: at a code unit that stands in no number. -/
def Stops (rest : Str) : Prop := ∀ c, rest.head? = some c → c ∉ lit "0123456789+-.e"

theorem stops_listRest {close : CodeUnit} (closes : close ∉ lit "0123456789+-.e")
    (texts : List Str) (rest : Str) : Stops (listRest close texts ++ rest) := by
  have comma : unit ',' ∉ lit "0123456789+-.e" := by decide
  cases texts with
  | nil => simpa [Stops, listRest] using closes
  | cons s texts => simpa [Stops, listRest] using comma

section Lists

variable {α : Type} (write : α → Str) (R : α → α → Prop)

/-- The text of an item can be read off the front of a text, up to a relation. -/
def ReadsOff (items others : List α) : Prop :=
  ∀ item ∈ items, ∀ other ∈ others, ∀ rest tail, Stops rest → Stops tail →
    write item ++ rest = write other ++ tail → R item other ∧ rest = tail

variable {write R}

theorem listRest_inj {close : CodeUnit} (closes : close ∉ lit "0123456789+-.e")
    (notComma : close ≠ unit ',') {items others : List α} {rest tail : Str}
    (readsOff : ReadsOff write R items others)
    (equal : listRest close (items.map write) ++ rest = listRest close (others.map write) ++ tail) :
    List.Forall₂ R items others ∧ rest = tail := by
  induction items generalizing others with
  | nil =>
      cases others with
      | nil => exact ⟨.nil, by simpa [listRest] using equal⟩
      | cons other others =>
          simp only [List.map_nil, List.map_cons, listRest, List.cons_append, List.cons.injEq] at equal
          exact absurd equal.1 notComma
  | cons item items ih =>
      cases others with
      | nil =>
          simp only [List.map_nil, List.map_cons, listRest, List.cons_append, List.cons.injEq] at equal
          exact absurd equal.1.symm notComma
      | cons other others =>
          simp only [List.map_cons, listRest, List.cons_append, List.append_assoc, List.cons.injEq,
            true_and] at equal
          obtain ⟨related, equal⟩ := readsOff item List.mem_cons_self other List.mem_cons_self _ _
            (stops_listRest closes _ _) (stops_listRest closes _ _) equal
          obtain ⟨all, equal⟩ := ih (fun one member two other => readsOff one
            (List.mem_cons_of_mem _ member) two (List.mem_cons_of_mem _ other)) equal
          exact ⟨.cons related all, equal⟩

/-- A bracketed list of texts can be read off the front of a text. -/
theorem commaJoin_inj {close : CodeUnit} (closes : close ∉ lit "0123456789+-.e")
    (notComma : close ≠ unit ',') {items others : List α} {rest tail : Str}
    (readsOff : ReadsOff write R items others)
    (opens : ∀ item ∈ items ++ others, ∀ more, (write item ++ more).head? ≠ some close)
    (equal : commaJoin (items.map write) ++ [close] ++ rest =
      commaJoin (others.map write) ++ [close] ++ tail) :
    List.Forall₂ R items others ∧ rest = tail := by
  cases items with
  | nil =>
      cases others with
      | nil => exact ⟨.nil, by simpa [commaJoin] using equal⟩
      | cons other others =>
          rw [List.map_cons, commaJoin_cons_append, List.append_assoc (write other)] at equal
          have opened := opens other (by simp) (listRest close (others.map write) ++ tail)
          rw [← equal] at opened
          exact absurd rfl opened
  | cons item items =>
      cases others with
      | nil =>
          rw [List.map_cons, commaJoin_cons_append, List.append_assoc (write item)] at equal
          have opened := opens item (by simp) (listRest close (items.map write) ++ rest)
          rw [equal] at opened
          exact absurd rfl opened
      | cons other others =>
          rw [List.map_cons, List.map_cons, commaJoin_cons_append, commaJoin_cons_append,
            List.append_assoc, List.append_assoc] at equal
          obtain ⟨related, equal⟩ := readsOff item List.mem_cons_self other List.mem_cons_self _ _
            (stops_listRest closes _ _) (stops_listRest closes _ _) equal
          obtain ⟨all, equal⟩ := listRest_inj closes notComma (fun one member two other => readsOff one
            (List.mem_cons_of_mem _ member) two (List.mem_cons_of_mem _ other)) equal
          exact ⟨.cons related all, equal⟩

end Lists

/-! ## Values -/

/-- What a value starts like: each kind has first code units of its own. -/
def Value.kind : Value N → Nat
  | .null => 0
  | .boolean b => if b then 1 else 2
  | .number _ => 3
  | .string _ => 4
  | .array _ => 5
  | .object _ => 6

def startKind (c : CodeUnit) : Nat :=
  if c = unit 'n' then 0
  else if c = unit 't' then 1
  else if c = unit 'f' then 2
  else if c = unit '"' then 4
  else if c = unit '[' then 5
  else if c = unit '\x7b' then 6
  else 3

def closers : List CodeUnit := [unit ']', unit '\x7d']

variable [Numbers N] (le : Str → Str → Prop) [DecidableRel le]

theorem text_start {v : Value N} (finite : v.Finite) :
    ∃ c rest, v.text le = c :: rest ∧ startKind c = v.kind ∧ c ∉ closers := by
  cases finite with
  | null =>
      have word : lit "null" = unit 'n' :: lit "ull" := by decide
      exact ⟨_, _, word, rfl, by decide⟩
  | boolean b =>
      cases b with
      | true =>
          have word : lit "true" = unit 't' :: lit "rue" := by decide
          exact ⟨_, _, word, rfl, by decide⟩
      | false =>
          have word : lit "false" = unit 'f' :: lit "alse" := by decide
          exact ⟨_, _, word, rfl, by decide⟩
  | @number n finite =>
      have starts : ∀ c ∈ lit "0123456789+-.e", startKind c = 3 ∧ c ∉ closers :=
        forall_mem_of_all (by decide)
      cases written : Numbers.text n with
      | nil => exact absurd written (Numbers.text_ne_nil n finite)
      | cons c rest =>
          have member := Numbers.text_units n finite c (written ▸ List.mem_cons_self)
          exact ⟨c, rest, by rw [Value.text, written], starts c member⟩
  | string s => exact ⟨unit '"', quoteFrom false s, by rw [Value.text, quote], rfl, by decide⟩
  | array all => exact ⟨unit '[', _, text_array le _, rfl, by decide⟩
  | object all => exact ⟨unit '\x7b', _, text_object le _, rfl, by decide⟩

variable {le}

theorem kind_eq {v w : Value N} (finite : v.Finite) (otherFinite : w.Finite) {rest tail : Str}
    (equal : v.text le ++ rest = w.text le ++ tail) : v.kind = w.kind := by
  obtain ⟨c, s, written, starts, _⟩ := text_start le finite
  obtain ⟨d, t, otherWritten, otherStarts, _⟩ := text_start le otherFinite
  rw [written, otherWritten] at equal
  rw [← starts, ← otherStarts, (List.cons.inj equal).1]

/-- Two runs of number units in front of something else are the same. -/
theorem run_inj {a b rest tail : Str} (aUnits : ∀ c ∈ a, c ∈ lit "0123456789+-.e")
    (bUnits : ∀ c ∈ b, c ∈ lit "0123456789+-.e") (stops : Stops rest) (others : Stops tail)
    (equal : a ++ rest = b ++ tail) : a = b ∧ rest = tail := by
  induction a generalizing b with
  | nil =>
      cases b with
      | nil => exact ⟨rfl, equal⟩
      | cons d b =>
          obtain rfl : rest = d :: (b ++ tail) := equal
          exact absurd (bUnits d List.mem_cons_self) (stops d rfl)
  | cons c a ih =>
      cases b with
      | nil =>
          obtain rfl : c :: (a ++ rest) = tail := equal
          exact absurd (aUnits c List.mem_cons_self) (others c rfl)
      | cons d b =>
          obtain ⟨first, more⟩ := List.cons.inj equal
          obtain ⟨same, after⟩ := ih (fun c member => aUnits c (List.mem_cons_of_mem _ member))
            (fun c member => bUnits c (List.mem_cons_of_mem _ member)) more
          exact ⟨congrArg₂ _ first same, after⟩

/-- The first code unit of a value closes nothing. -/
theorem text_head_ne {v : Value N} (finite : v.Finite) {close : CodeUnit} (closer : close ∈ closers)
    (rest : Str) : (v.text le ++ rest).head? ≠ some close := by
  obtain ⟨c, s, written, _, opens⟩ := text_start le finite
  rw [written]
  rintro equal
  obtain rfl : c = close := Option.some.inj equal
  exact opens closer

/-- The text of a value can be read off the front of a text, up to the order of keys and
the zeros. -/
theorem text_reads
    (injective : ∀ a b : N, Numbers.isFinite a = true → Numbers.isFinite b = true →
      Numbers.text a = Numbers.text b → SameNumber a b)
    {v w : Value N} (finite : v.Finite) (otherFinite : w.Finite) {rest tail : Str}
    (stops : Stops rest) (others : Stops tail) (equal : v.text le ++ rest = w.text le ++ tail) :
    v.Reordered SameNumber w ∧ rest = tail := by
  have closes : ∀ close ∈ closers, close ∉ lit "0123456789+-.e" ∧ close ≠ unit ',' :=
    forall_mem_of_all (by decide)
  have kinds := kind_eq finite otherFinite equal
  induction v using Value.induct generalizing w rest tail with
  | null =>
      cases w with
      | null => exact ⟨.null, List.append_cancel_left equal⟩
      | boolean b => cases b <;> cases kinds
      | _ => cases kinds
  | boolean b =>
      cases w with
      | boolean d =>
          obtain rfl : b = d := by cases b <;> cases d <;> first | rfl | cases kinds
          exact ⟨.boolean b, List.append_cancel_left equal⟩
      | _ => cases b <;> cases kinds
  | number a =>
      cases finite with | number finite =>
      cases otherFinite with
      | number otherFinite =>
          rw [Value.text, Value.text] at equal
          obtain ⟨written, equal⟩ := run_inj (Numbers.text_units _ finite)
            (Numbers.text_units _ otherFinite) stops others equal
          exact ⟨.number (injective _ _ finite otherFinite written), equal⟩
      | boolean b => cases b <;> cases kinds
      | _ => cases kinds
  | string s =>
      cases w with
      | string t =>
          rw [Value.text, Value.text] at equal
          obtain ⟨written, after⟩ := quote_inj equal
          exact ⟨written ▸ .string s, after⟩
      | boolean b => cases b <;> cases kinds
      | _ => cases kinds
  | array items ih =>
      cases finite with | array finite =>
      cases otherFinite with
      | @array otherItems otherFinite =>
          have closer : unit ']' ∈ closers := by decide
          rw [text_array, text_array] at equal
          have readsOff : ReadsOff (Value.text le) (Value.Reordered SameNumber) items otherItems :=
            fun item member other otherMember rest tail stops others equal =>
              ih item member (finite item member) (otherFinite other otherMember) stops others equal
                (kind_eq (finite item member) (otherFinite other otherMember) equal)
          have opens : ∀ item ∈ items ++ otherItems, ∀ more,
              (item.text le ++ more).head? ≠ some (unit ']') := fun item member =>
            text_head_ne ((List.mem_append.mp member).elim (finite item) (otherFinite item)) closer
          obtain ⟨all, equal⟩ := commaJoin_inj (closes _ closer).1 (closes _ closer).2 readsOff opens
            (List.cons.inj equal).2
          obtain ⟨length, all⟩ := List.forall₂_iff_zip.mp all
          exact ⟨.array length fun pair member => all member, equal⟩
      | boolean b => cases b <;> cases kinds
      | _ => cases kinds
  | object entries ih =>
      cases finite with | object finite =>
      cases otherFinite with
      | @object otherEntries otherFinite =>
          have closer : unit '\x7d' ∈ closers := by decide
          have sorted : (sortByKey le entries).Perm entries := sortByKey_perm entries
          have otherSorted : (sortByKey le otherEntries).Perm otherEntries :=
            sortByKey_perm otherEntries
          rw [text_object, text_object, memberTexts, memberTexts] at equal
          have readsOff : ReadsOff (fun entry => memberText (entryText le entry))
              (fun one two => one.1 = two.1 ∧ one.2.Reordered SameNumber two.2)
              (sortByKey le entries) (sortByKey le otherEntries) := by
            intro entry member other otherMember rest tail stops others equal
            have inside := sorted.mem_iff.mp member
            have otherInside := otherSorted.mem_iff.mp otherMember
            simp only [memberText, entryText, List.append_assoc, List.cons_append] at equal
            obtain ⟨names, equal⟩ := quote_inj equal
            have equal := (List.cons.inj equal).2
            obtain ⟨values, equal⟩ := ih entry inside (finite entry inside)
              (otherFinite other otherInside) stops others equal
              (kind_eq (finite entry inside) (otherFinite other otherInside) equal)
            exact ⟨⟨names, values⟩, equal⟩
          have opens : ∀ entry ∈ sortByKey le entries ++ sortByKey le otherEntries, ∀ more,
              (memberText (entryText le entry) ++ more).head? ≠ some (unit '\x7d') := by
            intro entry _ more closed
            have differs : unit '"' ≠ unit '\x7d' := by decide
            exact differs (Option.some.inj closed)
          obtain ⟨all, equal⟩ := commaJoin_inj (closes _ closer).1 (closes _ closer).2 readsOff opens
            (List.cons.inj equal).2
          have names : (sortByKey le entries).map Prod.fst = (sortByKey le otherEntries).map Prod.fst := by
            rw [← List.forall₂_eq_eq_eq, List.forall₂_map_left_iff, List.forall₂_map_right_iff]
            exact all.imp fun _ _ related => related.1
          obtain ⟨_, all⟩ := List.forall₂_iff_zip.mp all
          exact ⟨.object sorted.symm names (fun pair member => (all member).2) otherSorted, equal⟩
      | boolean b => cases b <;> cases kinds
      | _ => cases kinds

/-! ## Texts without lone surrogates -/

omit [DecidableRel le] in
theorem isWellFormed_of_all {s : Str} (all : ∀ c ∈ s, isSurrogate c = false) : IsWellFormed s := by
  induction s with
  | nil => exact isWellFormed_nil
  | cons c rest ih =>
      have front := isWellFormed_of_not_surrogate (all c List.mem_cons_self)
      exact front.append (ih fun d member => all d (List.mem_cons_of_mem _ member))

theorem shortEscape_surrogate {c : CodeUnit} (surrogate : isSurrogate c = true) :
    shortEscape c = none := by
  cases found : shortEscape c with
  | none => rfl
  | some letter =>
      have plain : ∀ entry ∈ shortEscapes, isSurrogate entry.1 = false :=
        forall_mem_of_all (by decide)
      rw [plain _ (mem_shortEscapes found)] at surrogate
      cases surrogate

/-- A code unit of a surrogate pair stands as it is. -/
theorem escapeUnit_paired {c : CodeUnit} (surrogate : isSurrogate c = true) :
    escapeUnit true c = [c] := by
  have large : ¬ c.val < 0x20 := by
    intro small
    have single : isSurrogate c = false := isSurrogate_eq_false.mpr (by omega)
    rw [single] at surrogate
    cases surrogate
  rw [escapeUnit, shortEscape_surrogate surrogate]
  simp [large]

theorem isWellFormed_escapeUnit (c : CodeUnit) : IsWellFormed (escapeUnit false c) := by
  have digits : ∀ d < 16, isSurrogate (hexDigit d) = false := by decide
  have letters : ∀ entry ∈ shortEscapes, isSurrogate entry.2 = false :=
    forall_mem_of_all (by decide)
  have slash : isSurrogate (unit '\\') = false := by decide
  have escapeLetter : isSurrogate (unit 'u') = false := by decide
  unfold escapeUnit
  cases found : shortEscape c with
  | some letter =>
      refine isWellFormed_of_all fun d member => ?_
      rcases List.mem_pair.mp member with rfl | rfl
      · exact slash
      · exact letters _ (mem_shortEscapes found)
  | none =>
      dsimp only
      split_ifs with escaped
      · refine isWellFormed_of_all fun d member => ?_
        have bound := c.isLt
        simp only [hex4, List.mem_cons, List.not_mem_nil, or_false] at member
        rcases member with rfl | rfl | rfl | rfl | rfl | rfl
        · exact slash
        · exact escapeLetter
        · exact digits _ (by omega)
        · exact digits _ (by omega)
        · exact digits _ (by omega)
        · exact digits _ (by omega)
      · have single : isSurrogate c = false := by simpa using fun surrogate => escaped (.inr ⟨surrogate, rfl⟩)
        exact isWellFormed_of_not_surrogate single

/-- The rest of a string literal, also after the first unit of a surrogate pair. -/
theorem isWellFormed_quoteFrom (s : Str) :
    IsWellFormed (quoteFrom false s) ∧ ∀ high, isHigh high = true → s.head?.any isLow = true →
      IsWellFormed (high :: quoteFrom true s) := by
  have quoteMark : isSurrogate (unit '"') = false := by decide
  induction s with
  | nil => exact ⟨isWellFormed_of_not_surrogate quoteMark, fun _ _ low => nomatch low⟩
  | cons c rest ih =>
      constructor
      · rw [quoteFrom]
        cases opens : isHigh c && rest.head?.any isLow with
        | false => exact (isWellFormed_escapeUnit c).append ih.1
        | true =>
            obtain ⟨high, low⟩ := Bool.and_eq_true_iff.mp opens
            rw [Bool.or_true, escapeUnit_paired (by rw [isSurrogate, high, Bool.true_or])]
            exact ih.2 c high low
      · intro high isHighUnit low
        have lowUnit : isLow c = true := by simpa using low
        have notHigh : isHigh c = false := by
          rw [← Bool.not_eq_true, isHigh_iff]
          rw [isLow_iff] at lowUnit
          omega
        rw [quoteFrom]
        rw [notHigh, Bool.false_and, Bool.or_false,
          escapeUnit_paired (by rw [isSurrogate, lowUnit, Bool.or_true])]
        exact (isWellFormed_pair isHighUnit lowUnit).append ih.1

theorem isWellFormed_quote (s : Str) : IsWellFormed (quote s) := by
  have quoteMark : isSurrogate (unit '"') = false := by decide
  exact (isWellFormed_of_not_surrogate quoteMark).append (isWellFormed_quoteFrom s).1

theorem isWellFormed_commaJoin {texts : List Str} (all : ∀ s ∈ texts, IsWellFormed s) :
    IsWellFormed (commaJoin texts) := by
  have comma : IsWellFormed [unit ','] := isWellFormed_of_not_surrogate (by decide)
  induction texts with
  | nil => exact isWellFormed_nil
  | cons s rest ih =>
      have front := all s List.mem_cons_self
      cases rest with
      | nil => simpa [commaJoin] using front
      | cons t rest =>
          have split : commaJoin (s :: t :: rest) = s ++ ([unit ','] ++ commaJoin (t :: rest)) := by
            simp [commaJoin, List.intercalate]
          rw [split]
          exact front.append (comma.append (ih fun u member => all u (List.mem_cons_of_mem _ member)))

/-- The text of a value has no lone surrogates. -/
theorem isWellFormed_text {v : Value N} (finite : v.Finite) : IsWellFormed (v.text le) := by
  induction finite with
  | null => exact isWellFormed_lit "null"
  | boolean b =>
      cases b with
      | true => exact isWellFormed_lit "true"
      | false => exact isWellFormed_lit "false"
  | @number n finite =>
      have plain : ∀ c ∈ lit "0123456789+-.e", isSurrogate c = false :=
        forall_mem_of_all (by decide)
      exact isWellFormed_of_all fun c member => plain c (Numbers.text_units n finite c member)
  | string s => exact isWellFormed_quote s
  | @array items _ ih =>
      have opening : IsWellFormed [unit '['] := isWellFormed_of_not_surrogate (by decide)
      have closing : IsWellFormed [unit ']'] := isWellFormed_of_not_surrogate (by decide)
      rw [text_array]
      refine opening.append ((isWellFormed_commaJoin fun s member => ?_).append closing)
      obtain ⟨item, inside, rfl⟩ := List.mem_map.mp member
      exact ih item inside
  | @object entries _ ih =>
      have opening : IsWellFormed [unit '\x7b'] := isWellFormed_of_not_surrogate (by decide)
      have closing : IsWellFormed [unit '\x7d'] := isWellFormed_of_not_surrogate (by decide)
      have colon : IsWellFormed [unit ':'] := isWellFormed_of_not_surrogate (by decide)
      rw [text_object]
      refine opening.append ((isWellFormed_commaJoin fun s member => ?_).append closing)
      obtain ⟨entry, inside, rfl⟩ := List.mem_map.mp member
      have value := ih entry ((sortByKey_perm entries).mem_iff.mp inside)
      exact (isWellFormed_quote entry.1).append (colon.append value)

end Js
