import Chlom.Library.Python.JsonCanonical

/-!
# JSON texts of scalar values

What JSON adds to the strings of a value is plain ASCII, so a value whose strings have a
UTF-8 form is written as a text that has one.
-/

namespace Python

variable {F : Type}

/-! ## Texts -/

theorem isValidChar_of_lt {c : CodePoint} (ascii : c.val < 128) : c.val.isValidChar :=
  .inl (by omega)

theorem scalars_append {first second : Str} :
    Scalars (first ++ second) ↔ Scalars first ∧ Scalars second :=
  List.forall_mem_append

theorem scalars_cons {c : CodePoint} {rest : Str} :
    Scalars (c :: rest) ↔ c.val.isValidChar ∧ Scalars rest :=
  List.forall_mem_cons

theorem scalars_nil : Scalars [] :=
  List.forall_mem_nil _

theorem isValidChar_point (c : Char) : (point c).val.isValidChar :=
  c.valid

theorem scalars_lit (text : String) : Scalars (lit text) := by
  intro c member
  rw [lit_eq] at member
  obtain ⟨char, _, rfl⟩ := List.mem_map.mp member
  exact char.valid

theorem isValidChar_of_isDigit {c : CodePoint} (digit : isDigit c = true) :
    c.val.isValidChar := by
  simp only [isDigit, Bool.and_eq_true, decide_eq_true_eq] at digit
  exact isValidChar_of_lt (by omega)

theorem isValidChar_of_isLowerHex {c : CodePoint} (hex : isLowerHex c = true) :
    c.val.isValidChar := by
  simp only [isLowerHex, Bool.or_eq_true, Bool.and_eq_true, decide_eq_true_eq] at hex
  rcases hex with digit | letter
  · exact isValidChar_of_isDigit digit
  · exact isValidChar_of_lt (by omega)

theorem scalars_intText (i : Int) : Scalars (intText i) := by
  have digits : Scalars (natText i.natAbs) := fun c member =>
    isValidChar_of_isDigit (isDigit_of_mem_natText member)
  unfold intText
  split
  · exact scalars_cons.mpr ⟨isValidChar_point _, digits⟩
  · exact digits

theorem scalars_intercalate {separator : Str} {texts : List Str} (separates : Scalars separator)
    (all : ∀ text ∈ texts, Scalars text) : Scalars (List.intercalate separator texts) := by
  induction texts with
  | nil => exact scalars_nil
  | cons first rest ih =>
      cases rest with
      | nil => simpa using all first List.mem_cons_self
      | cons second rest =>
          rw [List.intercalate_cons_cons]
          have tail := ih fun text member => all text (List.mem_cons_of_mem _ member)
          exact scalars_append.mpr
            ⟨scalars_append.mpr ⟨all first List.mem_cons_self, separates⟩, tail⟩

/-! ## Tokens -/

theorem scalars_escape {c : CodePoint} (scalar : c.val.isValidChar) : Scalars (escape c) := by
  unfold escape
  repeat' split
  all_goals first
    | exact scalars_lit _
    | skip
  · refine scalars_append.mpr ⟨scalars_lit _, scalars_cons.mpr ⟨isValidChar_point _, ?_⟩⟩
    exact scalars_cons.mpr ⟨isValidChar_point _, scalars_nil⟩
  · exact scalars_cons.mpr ⟨scalar, scalars_nil⟩

theorem scalars_quote {s : Str} (scalars : Scalars s) : Scalars (quote s) := by
  refine scalars_cons.mpr ⟨isValidChar_point _, scalars_append.mpr ⟨?_, scalars_lit _⟩⟩
  intro d member
  obtain ⟨c, inside, escaped⟩ := List.mem_flatMap.mp member
  exact scalars_escape (scalars c inside) d escaped

theorem NumberText.scalars_text (t : NumberText) : Scalars t.text := by
  have digits : ∀ {first : CodePoint} {rest : Str}, isDigit first = true →
      (∀ c ∈ rest, isDigit c = true) → Scalars (first :: rest) := fun head tail =>
    scalars_cons.mpr ⟨isValidChar_of_isDigit head, fun c member =>
      isValidChar_of_isDigit (tail c member)⟩
  have sign : Scalars t.sign := by
    unfold NumberText.sign
    split
    · exact scalars_lit _
    · exact scalars_nil
  have whole : Scalars t.whole := by
    rcases t.whole_valid with zero | ⟨first, rest, spelled, _, head, tail⟩
    · rw [zero]
      exact scalars_lit _
    · rw [spelled]
      exact digits head tail
  have frac : Scalars t.frac := by
    rcases t.frac_valid with absent | ⟨first, rest, spelled, head, tail⟩
    · rw [absent]
      exact scalars_nil
    · rw [spelled]
      exact scalars_cons.mpr ⟨isValidChar_point _, digits head tail⟩
  have expo : Scalars t.expo := by
    rcases t.expo_valid with absent | ⟨mark, sign, first, rest, spelled, markEq, signEq, head, tail⟩
    · rw [absent]
      exact scalars_nil
    · rw [spelled]
      refine scalars_cons.mpr ⟨?_, scalars_append.mpr ⟨?_, digits head tail⟩⟩
      · rcases markEq with rfl | rfl <;> exact isValidChar_point _
      · rcases signEq with rfl | rfl | rfl
        · exact scalars_nil
        · exact scalars_lit _
        · exact scalars_lit _
  exact scalars_append.mpr ⟨sign, scalars_append.mpr ⟨whole, scalars_append.mpr ⟨frac, expo⟩⟩⟩

/-! ## Values -/

/-- Every string inside the value is made of scalar values. -/
inductive Value.Unicode : Value F → Prop where
  | none : Unicode .none
  | bool (b : Bool) : Unicode (.bool b)
  | int (i : Int) : Unicode (.int i)
  | float (f : F) : Unicode (.float f)
  | str {s : Str} (scalars : Scalars s) : Unicode (.str s)
  | list {items : List (Value F)} (all : ∀ v ∈ items, Unicode v) : Unicode (.list items)
  | dict {entries : Entries F} (keys : ∀ entry ∈ entries, Scalars entry.1.text)
      (all : ∀ entry ∈ entries, Unicode entry.2) : Unicode (.dict entries)

mutual

/-- Whether every string inside the value is made of scalar values. -/
def Value.isUnicode : Value F → Bool
  | .none | .bool _ | .int _ | .float _ => true
  | .str s => decide (Scalars s)
  | .list items => Value.areUnicode items
  | .dict entries => Entries.areUnicode entries
  | _ => false

def Value.areUnicode : List (Value F) → Bool
  | [] => true
  | v :: rest => v.isUnicode && Value.areUnicode rest

def Entries.areUnicode : Entries F → Bool
  | [] => true
  | (name, v) :: rest => decide (Scalars name.text) && v.isUnicode && Entries.areUnicode rest

end

theorem Value.unicode_of_isUnicode {v : Value F} (checked : v.isUnicode = true) : v.Unicode := by
  induction v using Value.induct with
  | none => exact .none
  | bool b => exact .bool b
  | int i => exact .int i
  | float f => exact .float f
  | str s => exact .str (of_decide_eq_true checked)
  | list items ih =>
      refine .list ?_
      rw [isUnicode] at checked
      induction items with
      | nil => simp
      | cons v rest tail =>
          rw [areUnicode, Bool.and_eq_true] at checked
          exact List.forall_mem_cons.mpr ⟨ih v List.mem_cons_self checked.1,
            tail (fun w member => ih w (List.mem_cons_of_mem _ member)) checked.2⟩
  | dict entries ih =>
      rw [isUnicode] at checked
      have both : ∀ entry ∈ entries, Scalars entry.1.text ∧ entry.2.Unicode := by
        induction entries with
        | nil => simp
        | cons entry rest tail =>
            obtain ⟨name, v⟩ := entry
            simp only [Entries.areUnicode, Bool.and_eq_true, decide_eq_true_eq] at checked
            exact List.forall_mem_cons.mpr ⟨⟨checked.1.1, ih _ List.mem_cons_self checked.1.2⟩,
              tail (fun other member => ih other (List.mem_cons_of_mem _ member)) checked.2⟩
      exact .dict (fun entry member => (both entry member).1) fun entry member => (both entry member).2
  | mapping | datetime | other => cases checked

theorem sortKeys_unicode {v : Value F} (unicode : v.Unicode) : (sortKeys v).Unicode := by
  induction unicode with
  | list all ih =>
      simp only [sortKeys, sortKeysItems_eq_map]
      refine .list fun v member => ?_
      obtain ⟨source, sourceMember, rfl⟩ := List.mem_map.mp member
      exact ih source sourceMember
  | @dict entries keys all ih =>
      simp only [sortKeys, sortKeysEntries_eq_map]
      have order := Entries.sort_perm (entries.map sortKeysEntry)
      refine .dict (fun entry member => ?_) fun entry member => ?_
      · obtain ⟨source, sourceMember, rfl⟩ := List.mem_map.mp (order.mem_iff.mp member)
        exact keys source sourceMember
      · obtain ⟨source, sourceMember, rfl⟩ := List.mem_map.mp (order.mem_iff.mp member)
        exact ih source sourceMember
  | none => exact .none
  | bool b => exact .bool b
  | int i => exact .int i
  | float f => exact .float f
  | str scalars => exact .str scalars

/-- Such a value is written as a text of scalar values. -/
theorem scalars_dumps [FloatFormat F] {gap : Str} (gapScalars : Scalars gap) {v : Value F}
    (json : v.IsJson) (unicode : v.Unicode) : Scalars (dumps gap v) := by
  have comma : Scalars (point ',' :: gap) := scalars_cons.mpr ⟨isValidChar_point _, gapScalars⟩
  induction json with
  | none => exact scalars_lit _
  | bool b => cases b <;> exact scalars_lit _
  | int i => exact scalars_intText i
  | float finite =>
      obtain ⟨t, spelled, _⟩ := FloatFormat.repr_text finite
      rw [dumps, spelled]
      exact t.scalars_text
  | str s =>
      cases unicode with
      | str scalars => exact scalars_quote scalars
  | list _ ih =>
      cases unicode with
      | list all =>
          rw [dumps, dumpsItems_eq_map]
          refine scalars_cons.mpr ⟨isValidChar_point _, scalars_append.mpr ⟨?_, scalars_lit _⟩⟩
          refine scalars_intercalate comma fun text member => ?_
          obtain ⟨v, inside, rfl⟩ := List.mem_map.mp member
          exact ih v inside (all v inside)
  | dict _ _ ih =>
      cases unicode with
      | dict keys all =>
          rw [dumps, dumpsEntries_eq_map]
          refine scalars_cons.mpr ⟨isValidChar_point _, scalars_append.mpr ⟨?_, scalars_lit _⟩⟩
          refine scalars_intercalate comma fun text member => ?_
          obtain ⟨entry, inside, rfl⟩ := List.mem_map.mp member
          refine scalars_append.mpr ⟨scalars_quote (keys entry inside), ?_⟩
          refine scalars_append.mpr ⟨?_, ih entry inside (all entry inside)⟩
          exact scalars_cons.mpr ⟨isValidChar_point _, gapScalars⟩

/-! ## Strings of a text -/

theorem mem_escape_or_ascii (c : CodePoint) : c ∈ escape c ∨ c.val < 128 := by
  unfold escape
  by_cases quote : c = point '"'
  · exact .inr (by rw [quote]; decide)
  · by_cases slash : c = point '\\'
    · exact .inr (by rw [slash]; decide)
    · by_cases control : c.val < 32
      · exact .inr (by omega)
      · refine .inl ?_
        have visible : ∀ d : Char, d.toNat < 32 → c ≠ point d := by
          rintro d small rfl
          exact control small
        have notCode : ∀ n < 32, c.val ≠ n := fun n small => by omega
        simp [quote, slash, visible '\n' (by decide), visible '\r' (by decide),
          visible '\t' (by decide), notCode 12 (by decide), notCode 8 (by decide), control]

theorem scalars_of_quote {s : Str} (scalars : Scalars (quote s)) : Scalars s := by
  intro c member
  rcases mem_escape_or_ascii c with kept | ascii
  · refine scalars c (List.mem_cons_of_mem _ (List.mem_append_left _ ?_))
    exact List.mem_flatMap.mpr ⟨c, member, kept⟩
  · exact isValidChar_of_lt ascii

theorem mem_intercalate {separator text : Str} {texts : List Str} (member : text ∈ texts)
    {c : CodePoint} (inside : c ∈ text) : c ∈ List.intercalate separator texts := by
  induction texts with
  | nil => cases member
  | cons first rest ih =>
      cases rest with
      | nil =>
          obtain rfl := List.mem_singleton.mp member
          simpa using inside
      | cons second rest =>
          rw [List.intercalate_cons_cons, List.mem_append, List.mem_append]
          rcases List.mem_cons.mp member with rfl | later
          · exact .inl (.inl inside)
          · exact .inr (ih later)

/-- A value that is written as a text of scalar values has strings of scalar values. -/
theorem unicode_of_scalars_dumps [FloatFormat F] {gap : Str} {v : Value F} (json : v.IsJson)
    (scalars : Scalars (dumps gap v)) : v.Unicode := by
  induction json with
  | none => exact .none
  | bool b => exact .bool b
  | int i => exact .int i
  | float finite => exact .float _
  | str s => exact .str (scalars_of_quote scalars)
  | @list items _ ih =>
      refine .list fun v member => ih v member fun c inside => ?_
      refine scalars c ?_
      rw [dumps, dumpsItems_eq_map]
      refine List.mem_cons_of_mem _ (List.mem_append_left _ ?_)
      exact mem_intercalate (List.mem_map_of_mem member) inside
  | @dict entries _ _ ih =>
      have texts : ∀ entry ∈ entries, ∀ c,
          c ∈ quote entry.1.text ++ (point ':' :: gap ++ dumps gap entry.2) → c.val.isValidChar := by
        intro entry member c inside
        refine scalars c ?_
        rw [dumps, dumpsEntries_eq_map]
        refine List.mem_cons_of_mem _ (List.mem_append_left _ ?_)
        exact mem_intercalate (List.mem_map_of_mem member) inside
      refine .dict (fun entry member => scalars_of_quote fun c inside => ?_) fun entry member => ?_
      · exact texts entry member c (List.mem_append_left _ inside)
      · refine ih entry member fun c inside => ?_
        exact texts entry member c (List.mem_append_right _ (List.mem_append_right _ inside))

theorem unicode_of_sortKeys {v : Value F} (unicode : (sortKeys v).Unicode) : v.Unicode := by
  induction v using Value.induct with
  | none => exact .none
  | bool b => exact .bool b
  | int i => exact .int i
  | float f => exact .float f
  | str s => exact unicode
  | list items ih =>
      rw [sortKeys, sortKeysItems_eq_map] at unicode
      cases unicode with
      | list all => exact .list fun v member => ih v member (all _ (List.mem_map_of_mem member))
  | dict entries ih =>
      rw [sortKeys, sortKeysEntries_eq_map] at unicode
      have order := Entries.sort_perm (entries.map sortKeysEntry)
      cases unicode with
      | dict keys all =>
          have sorted : ∀ entry ∈ entries, sortKeysEntry entry ∈ Entries.sort (entries.map sortKeysEntry) :=
            fun entry member => order.mem_iff.mpr (List.mem_map_of_mem member)
          exact .dict (fun entry member => keys (sortKeysEntry entry) (sorted entry member))
            fun entry member => ih entry member (all _ (sorted entry member))
  | mapping name entries => exact unicode
  | datetime d => exact unicode
  | other name => exact unicode

end Python
