import Chlom.Library.Js.JsonReading

/-!
# Texts and the order of keys

The sort that puts the keys in order is stable.  Where it tells the keys of an object
apart, except for array indices, which every object lists in one order anyway, the
text of a value does not depend on the order in which keys were set.  Where it does
not, some order of the keys gives another text.
-/

namespace Js

variable {N : Type} {le : Str → Str → Prop} [DecidableRel le]

/-! ## Keys that the order does not tell apart -/

/-- The order does not tell the keys apart, and an object may list them either way. -/
def Tied (le : Str → Str → Prop) (first second : Str) : Prop :=
  first ≠ second ∧ arrayIndex first = none ∧ arrayIndex second = none ∧
    le first second ∧ le second first

instance (first second : Str) : Decidable (Tied le first second) := by
  unfold Tied
  infer_instance

/-- No object inside the value has two tied keys. -/
inductive Value.TieFree (le : Str → Str → Prop) : Value N → Prop where
  | null : TieFree le .null
  | boolean (b : Bool) : TieFree le (.boolean b)
  | number (n : N) : TieFree le (.number n)
  | string (s : Str) : TieFree le (.string s)
  | array {items : List (Value N)} (all : ∀ v ∈ items, TieFree le v) : TieFree le (.array items)
  | object {entries : Entries N}
      (apart : ∀ first ∈ entries.map Prod.fst, ∀ second ∈ entries.map Prod.fst,
        ¬ Tied le first second)
      (all : ∀ entry ∈ entries, TieFree le entry.2) : TieFree le (.object entries)

omit [DecidableRel le] in
/-- An order that tells all keys apart ties none. -/
theorem tieFree_of_antisymm (antisymm : ∀ first second, le first second → le second first →
    first = second) (v : Value N) : v.TieFree le := by
  induction v using Value.induct with
  | null => exact .null
  | boolean b => exact .boolean b
  | number n => exact .number n
  | string s => exact .string s
  | array items ih => exact .array ih
  | object entries ih =>
      exact .object (fun first _ second _ tied =>
        tied.1 (antisymm first second tied.2.2.2.1 tied.2.2.2.2)) ih

/-! ## Stability -/

section Stability

variable {α : Type}

/-- The order of sorted entries: by the keys, and as they were listed where these tie. -/
def StablyBefore (le : Str → Str → Prop) (first second : Str × α) : Prop :=
  le first.1 second.1 ∧ (le second.1 first.1 → ListedBefore first.1 second.1)

theorem orderedInsert_stable [Std.Total le] [IsTrans Str le] {entry : Str × α}
    {entries : List (Str × α)} (sorted : entries.Pairwise (StablyBefore le))
    (listed : ∀ other ∈ entries, ListedBefore entry.1 other.1) :
    (entries.orderedInsert (ByKey le) entry).Pairwise (StablyBefore le) := by
  induction entries with
  | nil => exact List.pairwise_singleton _ _
  | cons other rest ih =>
      obtain ⟨head, tail⟩ := List.pairwise_cons.mp sorted
      rw [List.orderedInsert_cons]
      split_ifs with before
      · refine List.pairwise_cons.mpr ⟨fun later member => ⟨?_, fun _ => listed later member⟩, sorted⟩
        rcases List.mem_cons.mp member with rfl | member
        · exact before
        · exact IsTrans.trans (r := le) _ _ _ before (head later member).1
      · refine List.pairwise_cons.mpr ⟨fun later member => ?_,
          ih tail fun later member => listed later (List.mem_cons_of_mem _ member)⟩
        rcases (List.mem_orderedInsert _).mp member with rfl | member
        · exact ⟨(Std.Total.total (r := le) _ _).resolve_left before, fun tie => absurd tie before⟩
        · exact head later member

theorem sortByKey_stable [Std.Total le] [IsTrans Str le] {entries : List (Str × α)}
    (listed : (entries.map Prod.fst).Pairwise ListedBefore) :
    (sortByKey le entries).Pairwise (StablyBefore le) := by
  induction entries with
  | nil => exact .nil
  | cons entry rest ih =>
      obtain ⟨head, tail⟩ := List.pairwise_cons.mp listed
      refine orderedInsert_stable (ih tail) fun other member => head other.1 ?_
      exact List.mem_map_of_mem ((sortByKey_perm rest).mem_iff.mp member)

/-- Two keys that are each listed before the other are no array indices. -/
theorem arrayIndex_eq_none {first second : Str} (before : ListedBefore first second)
    (after : ListedBefore second first) : arrayIndex first = none ∧ arrayIndex second = none := by
  constructor
  · cases found : arrayIndex first with
    | none => rfl
    | some index =>
        obtain ⟨other, less, otherFound⟩ := after index found
        obtain ⟨same, more, again⟩ := before other otherFound
        have equal : index = same := Option.some.inj (found.symm.trans again)
        omega
  · cases found : arrayIndex second with
    | none => rfl
    | some index =>
        obtain ⟨other, less, otherFound⟩ := before index found
        obtain ⟨same, more, again⟩ := after other otherFound
        have equal : index = same := Option.some.inj (found.symm.trans again)
        omega

/-- The order in which untied entries stood does not survive sorting. -/
theorem sortByKey_congr [Std.Total le] [IsTrans Str le] {entries others : List (Str × α)}
    (same : entries.Perm others) (distinct : (entries.map Prod.fst).Nodup)
    (listed : (entries.map Prod.fst).Pairwise ListedBefore)
    (otherListed : (others.map Prod.fst).Pairwise ListedBefore)
    (apart : ∀ first ∈ entries.map Prod.fst, ∀ second ∈ entries.map Prod.fst,
      ¬ Tied le first second) :
    sortByKey le entries = sortByKey le others := by
  have reordered : (sortByKey le entries).Perm (sortByKey le others) :=
    (sortByKey_perm entries).trans (same.trans (sortByKey_perm others).symm)
  refine List.Perm.eq_of_pairwise ?_ (sortByKey_stable listed) (sortByKey_stable otherListed)
    reordered
  intro first second firstMember secondMember before after
  have firstIn := (sortByKey_perm entries).mem_iff.mp firstMember
  have secondIn := same.mem_iff.mpr ((sortByKey_perm others).mem_iff.mp secondMember)
  obtain ⟨firstIndex, secondIndex⟩ := arrayIndex_eq_none (before.2 after.1) (after.2 before.1)
  refine List.inj_on_of_nodup_map distinct firstIn secondIn ?_
  by_contra differs
  exact apart first.1 (List.mem_map_of_mem firstIn) second.1 (List.mem_map_of_mem secondIn)
    ⟨differs, firstIndex, secondIndex, before.1, after.1⟩

end Stability

/-! ## One text for all orders -/

variable [Numbers N]

theorem map_fst_entryText (entries : Entries N) :
    (entries.map (entryText le)).map Prod.fst = entries.map Prod.fst := by
  rw [List.map_map]
  rfl

theorem memberTexts_eq (entries : Entries N) :
    memberTexts le entries = (sortByKey le (entries.map (entryText le))).map memberText := by
  have keepsKey : ∀ entry : Str × Value N, (entryText le entry).1 = entry.1 := fun _ => rfl
  rw [sortByKey_map keepsKey, List.map_map]
  rfl

/-- Entries listed side by side under the same keys, with the same texts. -/
theorem map_entryText_eq {listed matched : Entries N}
    (names : listed.map Prod.fst = matched.map Prod.fst)
    (texts : ∀ pair ∈ listed.zip matched, pair.1.2.text le = pair.2.2.text le) :
    listed.map (entryText le) = matched.map (entryText le) := by
  induction listed generalizing matched with
  | nil =>
      cases matched with
      | nil => rfl
      | cons other matched => cases names
  | cons entry listed ih =>
      cases matched with
      | nil => cases names
      | cons other matched =>
          obtain ⟨name, names⟩ := List.cons.inj names
          have text := texts (entry, other) List.mem_cons_self
          rw [List.map_cons, List.map_cons,
            ih names fun pair member => texts pair (List.mem_cons_of_mem _ member), entryText,
            entryText, name, text]

/-- The text of a value with untied keys does not depend on the order of keys. -/
theorem Value.Reordered.text_eq [Std.Total le] [IsTrans Str le] {same : N → N → Prop}
    (numbers : ∀ a b, same a b → Numbers.text a = Numbers.text b) {v w : Value N}
    (reordered : v.Reordered same w) (wellFormed : v.WellFormed) (otherWellFormed : w.WellFormed)
    (tieFree : v.TieFree le) : v.text le = w.text le := by
  induction reordered with
  | null | boolean | string => rfl
  | number equal => exact numbers _ _ equal
  | @array items others length _ ih =>
      cases wellFormed with | array wellFormed =>
      cases otherWellFormed with | array otherWellFormed =>
      cases tieFree with | array tieFree =>
      have texts : items.map (Value.text le) = others.map (Value.text le) := by
        rw [← List.forall₂_eq_eq_eq, List.forall₂_map_left_iff, List.forall₂_map_right_iff,
          List.forall₂_iff_zip]
        refine ⟨length, fun {v w} member => ?_⟩
        obtain ⟨first, second⟩ := List.of_mem_zip member
        exact ih (v, w) member (wellFormed v first) (otherWellFormed w second) (tieFree v first)
      rw [text_array, text_array, texts]
  | @object entries others listed matched left names _ right ih =>
      cases wellFormed with | object distinct order wellFormed =>
      cases otherWellFormed with | object _ otherOrder otherWellFormed =>
      cases tieFree with | object apart tieFree =>
      have texts : listed.map (entryText le) = matched.map (entryText le) := by
        refine map_entryText_eq names fun pair member => ?_
        obtain ⟨first, second⟩ := List.of_mem_zip (a := pair.1) (b := pair.2) member
        have inside := left.mem_iff.mpr first
        exact ih pair member (wellFormed _ inside) (otherWellFormed _ (right.mem_iff.mp second))
          (tieFree _ inside)
      have permuted : (entries.map (entryText le)).Perm (others.map (entryText le)) :=
        (left.map _).trans (texts ▸ right.map _)
      have sorted : sortByKey le (entries.map (entryText le)) =
          sortByKey le (others.map (entryText le)) := by
        refine sortByKey_congr permuted ?_ ?_ ?_ ?_ <;> rw [map_fst_entryText] <;> assumption
      rw [text_object, text_object, memberTexts_eq, memberTexts_eq, sorted]

/-! ## Ties -/

/-- A list of texts around one of its places. -/
theorem commaJoin_split (before : List Str) (text : Str) (after : List Str) :
    commaJoin (before ++ text :: after) =
      (before.map (· ++ [unit ','])).flatten ++ (text ++ (after.map (unit ',' :: ·)).flatten) := by
  induction before with
  | nil =>
      induction after generalizing text with
      | nil => simp [commaJoin]
      | cons next after ih =>
          have split : commaJoin (text :: next :: after) = text ++ (unit ',' :: commaJoin (next :: after)) := by
            simp [commaJoin, List.intercalate]
          simp only [List.nil_append] at ih ⊢
          rw [split, ih next]
          simp
  | cons first before ih =>
      have split : commaJoin (first :: (before ++ text :: after)) =
          first ++ (unit ',' :: commaJoin (before ++ text :: after)) := by
        cases before <;> simp [commaJoin, List.intercalate]
      rw [List.cons_append, split, ih]
      simp

/-- Replacing one text of a list changes the list. -/
theorem commaJoin_replace_ne {before after : List Str} {text other : Str} (differs : text ≠ other) :
    commaJoin (before ++ text :: after) ≠ commaJoin (before ++ other :: after) := by
  rw [commaJoin_split, commaJoin_split]
  intro equal
  exact differs (List.append_cancel_right (List.append_cancel_left equal))

/-- Two orders of the same properties are told apart by their texts. -/
theorem listRest_members_inj {close : CodeUnit} {entries others : Entries N}
    (same : entries.Perm others) (distinct : (entries.map Prod.fst).Nodup)
    (equal : listRest close (entries.map fun entry => memberText (entryText le entry)) =
      listRest close (others.map fun entry => memberText (entryText le entry))) :
    entries = others := by
  induction entries generalizing others with
  | nil => exact (List.nil_perm.mp same).symm
  | cons entry entries ih =>
      cases others with
      | nil => exact absurd same.length_eq (by simp)
      | cons other others =>
          simp only [List.map_cons, listRest, List.cons.injEq, true_and, memberText, entryText,
            List.append_assoc, List.cons_append] at equal
          obtain ⟨name, values⟩ := quote_inj equal
          obtain rfl : entry = other := List.inj_on_of_nodup_map distinct List.mem_cons_self
            (same.mem_iff.mpr List.mem_cons_self) name
          have remaining := List.append_cancel_left (List.cons.inj values).2
          rw [ih ((List.perm_cons entry).mp same) (List.nodup_cons.mp distinct).2 remaining]

theorem commaJoin_members_inj {close : CodeUnit} {entries others : Entries N}
    (same : entries.Perm others) (distinct : (entries.map Prod.fst).Nodup)
    (equal : commaJoin (entries.map fun entry => memberText (entryText le entry)) ++ [close] =
      commaJoin (others.map fun entry => memberText (entryText le entry)) ++ [close]) :
    entries = others := by
  refine @listRest_members_inj N le _ _ close _ _ same distinct ?_
  cases entries with
  | nil => rw [List.nil_perm.mp same]
  | cons entry entries =>
      cases others with
      | nil => exact absurd same.length_eq (by simp)
      | cons other others =>
          rw [List.map_cons, List.map_cons, commaJoin_cons_append, commaJoin_cons_append] at equal
          rw [List.map_cons, List.map_cons, listRest, listRest, equal]

/-- No two items stand in both orders in a list without repetitions. -/
theorem not_both_orders {α : Type} {first second : α} {items : List α} (distinct : items.Nodup)
    (before : [first, second].Sublist items) (after : [second, first].Sublist items) : False := by
  induction items with
  | nil => cases before
  | cons item items ih =>
      obtain ⟨fresh, distinct⟩ := List.nodup_cons.mp distinct
      rcases List.cons_sublist_cons'.mp before with inside | ⟨same, inside⟩
      · rcases List.cons_sublist_cons'.mp after with further | ⟨same, _⟩
        · exact ih distinct inside further
        · exact fresh (same ▸ inside.subset (by simp))
      · rcases List.cons_sublist_cons'.mp after with further | ⟨equal, _⟩
        · exact fresh (same ▸ further.subset (by simp))
        · exact fresh (equal ▸ inside.subset (by simp))

/-- The properties with all keys that are no array indices in the opposite order. -/
def oppositeOrder (entries : Entries N) : Entries N :=
  entries.filter (fun entry => (arrayIndex entry.1).isSome) ++
    (entries.filter fun entry => !(arrayIndex entry.1).isSome).reverse

omit [Numbers N] in
theorem oppositeOrder_perm (entries : Entries N) : (oppositeOrder entries).Perm entries :=
  ((List.reverse_perm _).append_left _).trans (List.filter_append_perm _ _)

omit [Numbers N] in
theorem oppositeOrder_listed {entries : Entries N}
    (listed : (entries.map Prod.fst).Pairwise ListedBefore) :
    ((oppositeOrder entries).map Prod.fst).Pairwise ListedBefore := by
  have free : ∀ entry ∈ (entries.filter fun entry => !(arrayIndex entry.1).isSome).reverse,
      ∀ key, ListedBefore key entry.1 := by
    intro entry member key index found
    have none := (List.mem_filter.mp (List.mem_reverse.mp member)).2
    simp [found] at none
  rw [List.pairwise_map] at listed ⊢
  refine List.pairwise_append.mpr ⟨listed.sublist List.filter_sublist, ?_, ?_⟩
  · exact List.pairwise_of_forall_mem_list fun _ _ other member => free other member _
  · exact fun _ _ other member => free other member _

omit [Numbers N] in
/-- Two entries stand in one order or in the other. -/
theorem sublist_or_sublist {α : Type} {items : List α} {first second : α}
    (firstMember : first ∈ items) (secondMember : second ∈ items) (differs : first ≠ second) :
    [first, second].Sublist items ∨ [second, first].Sublist items := by
  induction items with
  | nil => cases firstMember
  | cons item items ih =>
      rcases List.mem_cons.mp firstMember with rfl | inside
      · left
        have member := (List.mem_cons.mp secondMember).resolve_left differs.symm
        exact (List.singleton_sublist.mpr member).cons_cons first
      · rcases List.mem_cons.mp secondMember with rfl | further
        · right
          exact (List.singleton_sublist.mpr inside).cons_cons second
        · exact (ih inside further).imp (·.cons item) (·.cons item)

/-- An object with two tied keys has another text when its keys stand in the opposite
order. -/
theorem oppositeOrder_text_ne [Std.Total le] [IsTrans Str le] {entries : Entries N}
    (distinct : (entries.map Prod.fst).Nodup) {first second : Str × Value N}
    (firstMember : first ∈ entries) (secondMember : second ∈ entries)
    (tied : Tied le first.1 second.1) :
    (Value.object (oppositeOrder entries)).text le ≠ (Value.object entries).text le := by
  wlog inOrder : [first, second].Sublist entries generalizing first second with symmetric
  · have differs : first ≠ second := fun equal => tied.1 (congrArg Prod.fst equal)
    exact symmetric secondMember firstMember
      ⟨tied.1.symm, tied.2.2.1, tied.2.1, tied.2.2.2.2, tied.2.2.2.1⟩
      ((sublist_or_sublist firstMember secondMember differs).resolve_left inOrder)
  obtain ⟨_, firstIndex, secondIndex, before, after⟩ := tied
  have opposite : [second, first].Sublist (oppositeOrder entries) := by
    have kept := inOrder.filter fun entry => !(arrayIndex entry.1).isSome
    have reversed := kept.reverse
    simp only [List.filter_cons, firstIndex, secondIndex, Option.isSome_none, Bool.not_false,
      List.filter_nil, if_true, List.reverse_cons, List.reverse_nil, List.nil_append,
      List.singleton_append] at reversed
    exact reversed.trans (List.sublist_append_right _ _)
  have permuted : (sortByKey le (oppositeOrder entries)).Perm (sortByKey le entries) :=
    (sortByKey_perm _).trans ((oppositeOrder_perm entries).trans (sortByKey_perm _).symm)
  intro equal
  rw [text_object, text_object] at equal
  have sorted : sortByKey le (oppositeOrder entries) = sortByKey le entries := by
    refine commaJoin_members_inj permuted ?_ (List.cons.inj equal).2
    exact ((sortByKey_perm _).trans (oppositeOrder_perm entries)).map Prod.fst |>.nodup_iff.mpr distinct
  have sortedDistinct : (sortByKey le entries).Nodup :=
    (sortByKey_perm entries).nodup_iff.mpr (List.Nodup.of_map Prod.fst distinct)
  exact not_both_orders sortedDistinct (pair_sublist_sortByKey before inOrder)
    (sorted ▸ pair_sublist_sortByKey after opposite)

/-- A list without repetitions around one of its members. -/
theorem exists_split {α : Type} {item : α} {items : List α} (member : item ∈ items)
    (distinct : items.Nodup) :
    ∃ before after, items = before ++ item :: after ∧ item ∉ before ∧ item ∉ after := by
  obtain ⟨before, after, split⟩ := List.append_of_mem member
  rw [split, List.nodup_middle, List.nodup_cons, List.mem_append, not_or] at distinct
  exact ⟨before, after, split, distinct.1.1, distinct.1.2⟩

omit [Numbers N] in
theorem mem_zip_map {α : Type} {f : α → α} {items : List α} {pair : α × α}
    (member : pair ∈ items.zip (items.map f)) : pair.1 ∈ items ∧ pair.2 = f pair.1 := by
  rw [List.zip_map_right, List.mem_map] at member
  obtain ⟨source, inside, rfl⟩ := member
  obtain ⟨equal, inside⟩ := mem_zip_self inside
  exact ⟨inside, congrArg f equal.symm⟩

/-- Replace the value of one property. -/
def setValue (key : Str) (value : Value N) (entry : Str × Value N) : Str × Value N :=
  if entry.1 = key then (entry.1, value) else entry

omit [Numbers N] in
theorem setValue_fst (key : Str) (value : Value N) (entry : Str × Value N) :
    (setValue key value entry).1 = entry.1 := by
  unfold setValue
  split_ifs <;> rfl

/-- Replacing the value of a property by one with another text changes the text of the
object. -/
theorem setValue_text_ne {entries : Entries N} (distinct : (entries.map Prod.fst).Nodup)
    {entry : Str × Value N} (member : entry ∈ entries) {value : Value N}
    (differs : value.text le ≠ entry.2.text le) :
    (Value.object (entries.map (setValue entry.1 value))).text le ≠ (Value.object entries).text le := by
  have order : (sortByKey le entries).Perm entries := sortByKey_perm entries
  have keys : ((sortByKey le entries).map Prod.fst).Nodup := (order.map _).nodup_iff.mpr distinct
  obtain ⟨before, after, split, notBefore, notAfter⟩ :=
    exists_split (order.mem_iff.mpr member) (List.Nodup.of_map _ keys)
  have unchanged : ∀ other ∈ before ++ after, setValue entry.1 value other = other := by
    intro other inside
    refine if_neg fun same => ?_
    have sorted : other ∈ sortByKey le entries := by
      rw [split, List.mem_append, List.mem_cons]
      exact (List.mem_append.mp inside).imp_right .inr
    obtain rfl := List.inj_on_of_nodup_map keys sorted (order.mem_iff.mpr member) same
    exact (List.mem_append.mp inside).elim notBefore notAfter
  have replaced : sortByKey le (entries.map (setValue entry.1 value)) =
      before ++ (entry.1, value) :: after := by
    rw [sortByKey_map (setValue_fst _ _), split, List.map_append, List.map_cons,
      List.map_congr_left fun other inside => unchanged other (List.mem_append_left _ inside),
      List.map_congr_left fun other inside => unchanged other (List.mem_append_right _ inside),
      List.map_id', List.map_id', setValue, if_pos rfl]
  rw [text_object, text_object, memberTexts, memberTexts, replaced, split]
  intro equal
  have inner := List.append_cancel_right (List.cons.inj equal).2
  rw [List.map_append, List.map_append, List.map_cons, List.map_cons] at inner
  refine commaJoin_replace_ne (fun same => differs ?_) inner
  simp only [memberText, entryText] at same
  exact (List.cons.inj (List.append_cancel_left same)).2

/-- Where the order ties keys inside a value, some order of its keys gives another text. -/
theorem exists_reordered_text_ne [Std.Total le] [IsTrans Str le] {v : Value N}
    (wellFormed : v.WellFormed) (ties : ¬ v.TieFree le) :
    ∃ w : Value N, w.WellFormed ∧ v.Reordered (· = ·) w ∧ w.text le ≠ v.text le := by
  have reflexive : ∀ v : Value N, v.Reordered (· = ·) v := .refl fun _ => rfl
  induction wellFormed with
  | null => exact absurd .null ties
  | boolean b => exact absurd (.boolean b) ties
  | number n => exact absurd (.number n) ties
  | string s => exact absurd (.string s) ties
  | @array items all ih =>
      have tiedItem : ∃ item ∈ items, ¬ item.TieFree le := by
        by_contra none
        push Not at none
        exact ties (.array none)
      obtain ⟨item, member, tied⟩ := tiedItem
      obtain ⟨other, otherWellFormed, reordered, differs⟩ := ih item member tied
      obtain ⟨before, after, rfl⟩ := List.append_of_mem member
      refine ⟨.array (before ++ other :: after), ?_, ?_, ?_⟩
      · refine .array fun v inside => ?_
        rcases List.mem_append.mp inside with inside | inside
        · exact all v (List.mem_append_left _ inside)
        · rcases List.mem_cons.mp inside with rfl | inside
          · exact otherWellFormed
          · exact all v (List.mem_append_right _ (List.mem_cons_of_mem _ inside))
      · refine .array (by simp) fun pair inside => ?_
        rw [List.zip_append rfl, List.zip_cons_cons, List.mem_append, List.mem_cons] at inside
        rcases inside with inside | rfl | inside
        · exact (mem_zip_self inside).1 ▸ reflexive pair.1
        · exact reordered
        · exact (mem_zip_self inside).1 ▸ reflexive pair.1
      · rw [text_array, text_array]
        intro equal
        have inner := List.append_cancel_right (List.cons.inj equal).2
        rw [List.map_append, List.map_append, List.map_cons, List.map_cons] at inner
        exact commaJoin_replace_ne differs inner
  | @object entries distinct listed all ih =>
      by_cases tiedValue : ∃ entry ∈ entries, ¬ entry.2.TieFree le
      · obtain ⟨entry, member, tied⟩ := tiedValue
        obtain ⟨other, otherWellFormed, reordered, differs⟩ := ih entry member tied
        have keys : (entries.map (setValue entry.1 other)).map Prod.fst = entries.map Prod.fst := by
          rw [List.map_map]
          exact List.map_congr_left fun one _ => setValue_fst _ _ one
        refine ⟨.object (entries.map (setValue entry.1 other)), ?_, ?_,
          setValue_text_ne distinct member differs⟩
        · refine .object (keys ▸ distinct) (keys ▸ listed) fun one inside => ?_
          obtain ⟨source, listedSource, rfl⟩ := List.mem_map.mp inside
          unfold setValue
          split_ifs
          · exact otherWellFormed
          · exact all source listedSource
        · refine .object (.refl _) keys.symm (fun pair inside => ?_) (.refl _)
          obtain ⟨inside, replaced⟩ := mem_zip_map inside
          rw [replaced, setValue]
          split_ifs with same
          · rw [List.inj_on_of_nodup_map distinct inside member same]
            exact reordered
          · exact reflexive _
      · push Not at tiedValue
        have tiedKeys : ∃ first ∈ entries, ∃ second ∈ entries, Tied le first.1 second.1 := by
          by_contra none
          push Not at none
          refine ties (.object (fun first firstMember second secondMember => ?_) tiedValue)
          obtain ⟨one, oneMember, rfl⟩ := List.mem_map.mp firstMember
          obtain ⟨two, twoMember, rfl⟩ := List.mem_map.mp secondMember
          exact none one oneMember two twoMember
        obtain ⟨first, firstMember, second, secondMember, tied⟩ := tiedKeys
        have permuted := oppositeOrder_perm entries
        refine ⟨.object (oppositeOrder entries), ?_, ?_,
          oppositeOrder_text_ne distinct firstMember secondMember tied⟩
        · exact .object ((permuted.map _).nodup_iff.mpr distinct) (oppositeOrder_listed listed)
            fun entry inside => all entry (permuted.mem_iff.mp inside)
        · exact .object permuted.symm rfl
            (fun pair inside => (mem_zip_self inside).1 ▸ reflexive pair.1.2) (.refl _)

end Js
