import Chlom.Library.Python.JsonCanonical

/-!
# Values up to the order of their keys

Two values can differ in nothing but the order in which their dictionaries list their
items.  Putting the keys of a value in order, by any order that tells them apart, picks
one value out of all that differ in this way.
-/

namespace Python

variable {F : Type}

/-! ## Reordering -/

/-- The values differ at most in the order of the items of dictionaries, at any depth. -/
inductive Value.Reordered : Value F → Value F → Prop where
  | refl (v : Value F) : Reordered v v
  | list {items others : List (Value F)} (length : items.length = others.length)
      (all : ∀ (index : Nat) v w, items[index]? = some v → others[index]? = some w →
        Reordered v w) :
      Reordered (.list items) (.list others)
  | dict {entries others : Entries F}
      (keys : (entries.map Prod.fst).Perm (others.map Prod.fst))
      (all : ∀ name v w, (name, v) ∈ entries → (name, w) ∈ others → Reordered v w) :
      Reordered (.dict entries) (.dict others)

/-- A list is reordered item by item. -/
theorem Value.Reordered.of_list {items : List (Value F)} {w : Value F}
    (same : (Value.list items).Reordered w) :
    ∃ others, w = .list others ∧ items.length = others.length ∧
      ∀ (index : Nat) v w, items[index]? = some v → others[index]? = some w → v.Reordered w := by
  cases same with
  | refl =>
      refine ⟨items, rfl, rfl, fun index v w first second => ?_⟩
      rw [Option.some.inj (first.symm.trans second)]
      exact .refl w
  | list length all => exact ⟨_, rfl, length, all⟩

/-- A dictionary is reordered under the same keys. -/
theorem Value.Reordered.of_dict {entries : Entries F} {w : Value F}
    (same : (Value.dict entries).Reordered w) (distinct : (entries.map Prod.fst).Nodup) :
    ∃ others, w = .dict others ∧ (entries.map Prod.fst).Perm (others.map Prod.fst) ∧
      ∀ name v w, (name, v) ∈ entries → (name, w) ∈ others → v.Reordered w := by
  cases same with
  | refl =>
      refine ⟨entries, rfl, .refl _, fun name v w first second => ?_⟩
      obtain ⟨_, rfl⟩ := Prod.mk.inj (List.inj_on_of_nodup_map distinct first second rfl)
      exact .refl v
  | dict keys all => exact ⟨_, rfl, keys, all⟩

theorem Value.Reordered.symm {v w : Value F} (same : v.Reordered w) : w.Reordered v := by
  induction same with
  | refl v => exact .refl v
  | list length _ ih =>
      exact .list length.symm fun index v w first second => ih index w v second first
  | dict keys _ ih => exact .dict keys.symm fun name v w first second => ih name w v second first

theorem Value.Reordered.trans {u v w : Value F} (first : u.Reordered v) (second : v.Reordered w) :
    u.Reordered w := by
  induction first generalizing w with
  | refl => exact second
  | @list items middle length all ih =>
      cases second with
      | refl => exact .list length all
      | list length' all' =>
          refine .list (length.trans length') fun index u w left right => ?_
          have inside : index < middle.length := by
            rw [length']
            exact (List.getElem?_eq_some_iff.mp right).1
          have between := List.getElem?_eq_getElem inside
          exact ih index u _ left between (all' index _ w between right)
  | @dict entries middle keys all ih =>
      cases second with
      | refl => exact .dict keys all
      | dict keys' all' =>
          refine .dict (keys.trans keys') fun name u w left right => ?_
          obtain ⟨⟨_, v⟩, between, rfl⟩ :=
            List.mem_map.mp (keys.mem_iff.mp (List.mem_map_of_mem (f := Prod.fst) left))
          exact ih _ u v left between (all' _ v w between right)

/-- Every item of a reordered object has a partner under its key. -/
theorem Value.Reordered.partner {entries others : Entries F}
    (keys : (entries.map Prod.fst).Perm (others.map Prod.fst)) {entry : Key × Value F}
    (member : entry ∈ others) : ∃ v, (entry.1, v) ∈ entries := by
  obtain ⟨⟨_, v⟩, inside, rfl⟩ :=
    List.mem_map.mp (keys.mem_iff.mpr (List.mem_map_of_mem (f := Prod.fst) member))
  exact ⟨v, inside⟩

theorem Value.Reordered.fits {limit : Nat} {v w : Value F} (same : v.Reordered w)
    (fits : v.fits limit = true) : w.fits limit = true := by
  induction same with
  | refl => exact fits
  | @list items others length _ ih =>
      rw [fits_list] at fits ⊢
      intro w member
      obtain ⟨index, inside, rfl⟩ := List.mem_iff_getElem.mp member
      have first := List.getElem?_eq_getElem (length ▸ inside : index < items.length)
      exact ih index _ _ first (List.getElem?_eq_getElem inside) (fits _ (List.getElem_mem _))
  | @dict entries others keys _ ih =>
      rw [fits_dict] at fits ⊢
      intro entry member
      obtain ⟨v, inside⟩ := Value.Reordered.partner keys member
      exact ih entry.1 v entry.2 inside member (fits (entry.1, v) inside)

theorem depth_list_le {items : List (Value F)} {bound : Nat} :
    (Value.list items).depth ≤ bound + 1 ↔ ∀ v ∈ items, v.depth ≤ bound := by
  rw [Value.depth, Nat.succ_le_succ_iff]
  induction items with
  | nil => simp [itemsDepth]
  | cons v rest ih => rw [itemsDepth, max_le_iff, ih, List.forall_mem_cons]

theorem depth_dict_le {entries : Entries F} {bound : Nat} :
    (Value.dict entries).depth ≤ bound + 1 ↔ ∀ entry ∈ entries, entry.2.depth ≤ bound := by
  rw [Value.depth, Nat.succ_le_succ_iff]
  induction entries with
  | nil => simp [entriesDepth]
  | cons entry rest ih => rw [entriesDepth, max_le_iff, ih, List.forall_mem_cons]

theorem Value.Reordered.depth_le {v w : Value F} (same : v.Reordered w) {bound : Nat}
    (within : v.depth ≤ bound) : w.depth ≤ bound := by
  induction same generalizing bound with
  | refl => exact within
  | @list items others length _ ih =>
      obtain ⟨less, rfl⟩ : ∃ less, bound = less + 1 := ⟨bound - 1, by rw [Value.depth] at within; omega⟩
      rw [depth_list_le] at within ⊢
      intro w member
      obtain ⟨index, inside, rfl⟩ := List.mem_iff_getElem.mp member
      have first := List.getElem?_eq_getElem (length ▸ inside : index < items.length)
      exact ih index _ _ first (List.getElem?_eq_getElem inside) (within _ (List.getElem_mem _))
  | @dict entries others keys _ ih =>
      obtain ⟨less, rfl⟩ : ∃ less, bound = less + 1 := ⟨bound - 1, by rw [Value.depth] at within; omega⟩
      rw [depth_dict_le] at within ⊢
      intro entry member
      obtain ⟨v, inside⟩ := Value.Reordered.partner keys member
      exact ih entry.1 v entry.2 inside member (within (entry.1, v) inside)

/-- Two lists are mapped alike exactly if the elements at each place are. -/
theorem map_eq_map_iff_getElem? {α β γ : Type} {f : α → γ} {g : β → γ} {items : List α}
    {others : List β} :
    items.map f = others.map g ↔ items.length = others.length ∧
      ∀ (index : Nat) v w, items[index]? = some v → others[index]? = some w → f v = g w := by
  induction items generalizing others with
  | nil =>
      cases others with
      | nil => simp
      | cons w rest => simp
  | cons v rest ih =>
      cases others with
      | nil => simp
      | cons w others =>
          rw [List.map_cons, List.map_cons, List.cons.injEq, ih, List.length_cons, List.length_cons,
            Nat.succ_inj]
          constructor
          · rintro ⟨head, length, tail⟩
            refine ⟨length, fun index first second firstAt secondAt => ?_⟩
            cases index with
            | zero =>
                obtain rfl := Option.some.inj firstAt
                obtain rfl := Option.some.inj secondAt
                exact head
            | succ index => exact tail index first second firstAt secondAt
          · rintro ⟨length, all⟩
            exact ⟨all 0 v w rfl rfl, length, fun index => all (index + 1)⟩

/-! ## Ordering keys -/

section Ordering

variable (le : Key → Key → Prop) [DecidableRel le]

/-- Items by their keys. -/
abbrev Entries.By (first second : Key × Value F) : Prop := le first.1 second.1

mutual

/-- The value with the items of every dictionary in an order of their keys. -/
def orderKeys : Value F → Value F
  | .list items => .list (orderKeysItems items)
  | .dict entries => .dict ((orderKeysEntries entries).insertionSort (Entries.By le))
  | v => v

def orderKeysItems : List (Value F) → List (Value F)
  | [] => []
  | v :: rest => orderKeys v :: orderKeysItems rest

def orderKeysEntries : Entries F → Entries F
  | [] => []
  | (name, v) :: rest => (name, orderKeys v) :: orderKeysEntries rest

end

@[simp]
theorem orderKeysItems_eq_map (items : List (Value F)) :
    orderKeysItems le items = items.map (orderKeys le) := by
  induction items with
  | nil => rfl
  | cons v rest ih => rw [orderKeysItems, ih, List.map_cons]

/-- An item with the keys of its value in order. -/
def orderKeysEntry (entry : Key × Value F) : Key × Value F := (entry.1, orderKeys le entry.2)

@[simp]
theorem orderKeysEntries_eq_map (entries : Entries F) :
    orderKeysEntries le entries = entries.map (orderKeysEntry le) := by
  induction entries with
  | nil => rfl
  | cons entry rest ih => rw [orderKeysEntries, ih, List.map_cons, orderKeysEntry]

/-- The items of a dictionary in order. -/
def orderedEntries (entries : Entries F) : Entries F :=
  (entries.map (orderKeysEntry le)).insertionSort (Entries.By le)

theorem orderKeys_dict (entries : Entries F) :
    orderKeys le (.dict entries) = .dict (orderedEntries le entries) := by
  rw [orderKeys, orderKeysEntries_eq_map, orderedEntries]

theorem orderKeys_list (items : List (Value F)) :
    orderKeys le (.list items) = .list (items.map (orderKeys le)) := by
  rw [orderKeys, orderKeysItems_eq_map]

theorem orderedEntries_perm (entries : Entries F) :
    (orderedEntries le entries).Perm (entries.map (orderKeysEntry le)) :=
  List.perm_insertionSort _ _

theorem map_fst_orderKeysEntry (entries : Entries F) :
    (entries.map (orderKeysEntry le)).map Prod.fst = entries.map Prod.fst := by
  simp [orderKeysEntry, Function.comp_def]

theorem keys_orderedEntries (entries : Entries F) :
    ((orderedEntries le entries).map Prod.fst).Perm (entries.map Prod.fst) := by
  have order := (orderedEntries_perm le entries).map Prod.fst
  rwa [map_fst_orderKeysEntry] at order

theorem mem_orderedEntries {entries : Entries F} {entry : Key × Value F}
    (member : entry ∈ orderedEntries le entries) :
    ∃ source ∈ entries, entry = orderKeysEntry le source := by
  obtain ⟨source, inside, rfl⟩ :=
    List.mem_map.mp ((orderedEntries_perm le entries).mem_iff.mp member)
  exact ⟨source, inside, rfl⟩

/-! ### What ordering keeps -/

theorem orderKeys_wellFormed {v : Value F} (wellFormed : v.WellFormed) :
    (orderKeys le v).WellFormed := by
  induction wellFormed with
  | list all ih =>
      rw [orderKeys_list]
      refine .list fun v member => ?_
      obtain ⟨source, inside, rfl⟩ := List.mem_map.mp member
      exact ih source inside
  | @dict entries distinct all ih =>
      rw [orderKeys_dict]
      refine .dict ((keys_orderedEntries le entries).nodup_iff.mpr distinct) fun entry member => ?_
      obtain ⟨source, inside, rfl⟩ := mem_orderedEntries le member
      exact ih source inside
  | mapping name distinct all ih => exact .mapping name distinct all
  | none => exact .none
  | bool b => exact .bool b
  | int i => exact .int i
  | float f => exact .float f
  | str s => exact .str s
  | datetime d => exact .datetime d
  | other name => exact .other name

theorem orderKeys_isJson [FloatFormat F] {v : Value F} (json : v.IsJson) :
    (orderKeys le v).IsJson := by
  induction json with
  | list all ih =>
      rw [orderKeys_list]
      refine .list fun v member => ?_
      obtain ⟨source, inside, rfl⟩ := List.mem_map.mp member
      exact ih source inside
  | @dict entries keys all ih =>
      rw [orderKeys_dict]
      refine .dict (fun entry member => ?_) fun entry member => ?_
      · obtain ⟨source, inside, rfl⟩ := mem_orderedEntries le member
        exact keys source inside
      · obtain ⟨source, inside, rfl⟩ := mem_orderedEntries le member
        exact ih source inside
  | none => exact .none
  | bool b => exact .bool b
  | int i => exact .int i
  | float finite => exact .float finite
  | str s => exact .str s

/-- Putting keys in order only reorders. -/
theorem reordered_orderKeys {v : Value F} (wellFormed : v.WellFormed) :
    v.Reordered (orderKeys le v) := by
  induction wellFormed with
  | list all ih =>
      rw [orderKeys_list]
      refine .list (List.length_map _).symm fun index v w first second => ?_
      rw [List.getElem?_map, first] at second
      obtain rfl := Option.some.inj second
      exact ih v (List.mem_of_getElem? first)
  | @dict entries distinct all ih =>
      rw [orderKeys_dict]
      refine .dict (keys_orderedEntries le entries).symm fun name v w first second => ?_
      obtain ⟨source, inside, equal⟩ := mem_orderedEntries le second
      obtain ⟨rfl, rfl⟩ := Prod.mk.inj equal
      have same : (source.1, v) = source := List.inj_on_of_nodup_map distinct first inside rfl
      rw [← same]
      exact ih (source.1, v) first
  | mapping | none | bool | int | float | str | datetime | other => exact .refl _

/-! ### What ordering forgets -/

/-- Every key of every dictionary inside the value has a property. -/
inductive Value.AllKeys (P : Key → Prop) : Value F → Prop where
  | list {items : List (Value F)} (all : ∀ v ∈ items, AllKeys P v) : AllKeys P (.list items)
  | dict {entries : Entries F} (keys : ∀ entry ∈ entries, P entry.1)
      (all : ∀ entry ∈ entries, AllKeys P entry.2) : AllKeys P (.dict entries)
  | atom {v : Value F} (noList : ∀ items, v ≠ .list items) (noDict : ∀ entries, v ≠ .dict entries) :
      AllKeys P v

theorem Value.AllKeys.of_mem_items {P : Key → Prop} {items : List (Value F)} {v : Value F}
    (keys : (Value.list items).AllKeys P) (member : v ∈ items) : v.AllKeys P := by
  cases keys with
  | list all => exact all v member
  | atom noList => exact absurd rfl (noList items)

theorem Value.AllKeys.of_mem_entries {P : Key → Prop} {entries : Entries F}
    {entry : Key × Value F} (keys : (Value.dict entries).AllKeys P) (member : entry ∈ entries) :
    P entry.1 ∧ entry.2.AllKeys P := by
  cases keys with
  | dict keys all => exact ⟨keys entry member, all entry member⟩
  | atom _ noDict => exact absurd rfl (noDict entries)

theorem allKeys_of_isJson [FloatFormat F] {v : Value F} (json : v.IsJson) :
    v.AllKeys fun name => ∃ s, name = .str s := by
  induction json with
  | list _ ih => exact .list ih
  | dict keys _ ih => exact .dict keys ih
  | none | bool | int | float | str => exact .atom nofun nofun

variable {le}

section Congruence

variable {P : Key → Prop}

theorem orderedEntries_pairwise [Std.Total le] [IsTrans Key le] (entries : Entries F) :
    (orderedEntries le entries).Pairwise (Entries.By le) :=
  haveI : Std.Total (Entries.By le (F := F)) := ⟨fun one two => Std.Total.total one.1 two.1⟩
  haveI : IsTrans (Key × Value F) (Entries.By le) :=
    ⟨fun one two three => IsTrans.trans one.1 two.1 three.1⟩
  List.pairwise_insertionSort _ _

/-- Items that are listed with each other's values are permuted. -/
theorem map_orderKeysEntry_perm {entries others : Entries F}
    (distinct : (entries.map Prod.fst).Nodup)
    (keys : (entries.map Prod.fst).Perm (others.map Prod.fst))
    (all : ∀ name v w, (name, v) ∈ entries → (name, w) ∈ others →
      orderKeys le v = orderKeys le w) :
    (entries.map (orderKeysEntry le)).Perm (others.map (orderKeysEntry le)) := by
  have nodup {some : Entries F} (distinct : (some.map Prod.fst).Nodup) :
      (some.map (orderKeysEntry le)).Nodup := by
    refine List.Nodup.of_map Prod.fst ?_
    rwa [map_fst_orderKeysEntry]
  rw [List.perm_ext_iff_of_nodup (nodup distinct) (nodup (keys.nodup_iff.mp distinct))]
  intro entry
  constructor
  · intro member
    obtain ⟨⟨name, v⟩, inside, rfl⟩ := List.mem_map.mp member
    obtain ⟨⟨_, w⟩, other, rfl⟩ :=
      List.mem_map.mp (keys.mem_iff.mp (List.mem_map_of_mem (f := Prod.fst) inside))
    rw [orderKeysEntry, all _ v w inside other]
    exact List.mem_map_of_mem other
  · intro member
    obtain ⟨⟨name, w⟩, other, rfl⟩ := List.mem_map.mp member
    obtain ⟨⟨_, v⟩, inside, rfl⟩ :=
      List.mem_map.mp (keys.mem_iff.mpr (List.mem_map_of_mem (f := Prod.fst) other))
    rw [orderKeysEntry, ← all _ v w inside other]
    exact List.mem_map_of_mem inside

/-- An order that tells the keys apart brings all reorderings of a value to one. -/
theorem orderKeys_congr [Std.Total le] [IsTrans Key le]
    (separates : ∀ one two, P one → P two → le one two → le two one → one = two)
    {v w : Value F} (same : v.Reordered w) (wellFormed : v.WellFormed) (keys : v.AllKeys P)
    (otherWellFormed : w.WellFormed) : orderKeys le v = orderKeys le w := by
  induction same with
  | refl => rfl
  | list length all ih =>
      cases wellFormed with | list wellFormed => cases otherWellFormed with | list otherWellFormed =>
      rw [orderKeys_list, orderKeys_list, Value.list.injEq, map_eq_map_iff_getElem?]
      refine ⟨length, fun index v w first second => ?_⟩
      have member := List.mem_of_getElem? first
      exact ih index v w first second (wellFormed v member) (keys.of_mem_items member)
        (otherWellFormed w (List.mem_of_getElem? second))
  | @dict entries others names all ih =>
      cases wellFormed with | dict distinct wellFormed =>
      cases otherWellFormed with | dict _ otherWellFormed =>
      have mapped : (entries.map (orderKeysEntry le)).Perm (others.map (orderKeysEntry le)) :=
        map_orderKeysEntry_perm distinct names fun name v w first second =>
          ih name v w first second (wellFormed _ first) (keys.of_mem_entries first).2
            (otherWellFormed _ second)
      have reordered : (orderedEntries le entries).Perm (orderedEntries le others) :=
        (orderedEntries_perm le entries).trans (mapped.trans (orderedEntries_perm le others).symm)
      rw [orderKeys_dict, orderKeys_dict]
      refine congrArg Value.dict (List.Perm.eq_of_pairwise ?_ (orderedEntries_pairwise entries)
        (orderedEntries_pairwise others) reordered)
      intro one two oneMember twoMember le_ ge
      have distinctOrdered := (keys_orderedEntries le entries).nodup_iff.mpr distinct
      have twoInside := reordered.mem_iff.mpr twoMember
      have key {entry : Key × Value F} (member : entry ∈ orderedEntries le entries) :
          P entry.1 := by
        obtain ⟨source, inside, rfl⟩ := mem_orderedEntries le member
        exact (keys.of_mem_entries inside).1
      exact List.inj_on_of_nodup_map distinctOrdered oneMember twoInside
        (separates _ _ (key oneMember) (key twoInside) le_ ge)

end Congruence

end Ordering

/-! ### The order of sorted texts -/

/-- Keys by their texts. -/
def KeyTextLe (first second : Key) : Prop := first.text ≤ second.text

instance : DecidableRel KeyTextLe := fun _ _ => inferInstanceAs (Decidable (_ ≤ _))

instance : Std.Total KeyTextLe := ⟨fun one two => le_total one.text two.text⟩

instance : IsTrans Key KeyTextLe := ⟨fun _ _ _ first second => le_trans first second⟩

theorem sortKeys_eq_orderKeys (v : Value F) : sortKeys v = orderKeys KeyTextLe v := by
  induction v using Value.induct with
  | list items ih =>
      rw [orderKeys_list, sortKeys, sortKeysItems_eq_map]
      exact congrArg Value.list (List.map_congr_left ih)
  | dict entries ih =>
      have mapped : entries.map sortKeysEntry = entries.map (orderKeysEntry KeyTextLe) :=
        List.map_congr_left fun entry member => Prod.ext rfl (ih entry member)
      rw [orderKeys_dict, sortKeys_dict, sortedEntries, mapped]
      rfl
  | none | bool | int | float | str | mapping | datetime | other => rfl

/-- Sorting keys only reorders. -/
theorem reordered_sortKeys {v : Value F} (wellFormed : v.WellFormed) : v.Reordered (sortKeys v) := by
  rw [sortKeys_eq_orderKeys]
  exact reordered_orderKeys KeyTextLe wellFormed

/-- Values that differ only in the order of their keys are sorted to one value. -/
theorem Value.Reordered.sortKeys_eq [FloatFormat F] {v w : Value F} (same : v.Reordered w)
    (json : v.IsJson) (wellFormed : v.WellFormed) (otherWellFormed : w.WellFormed) :
    sortKeys v = sortKeys w := by
  rw [sortKeys_eq_orderKeys, sortKeys_eq_orderKeys]
  refine orderKeys_congr ?_ same wellFormed (allKeys_of_isJson json) otherWellFormed
  rintro _ _ ⟨s, rfl⟩ ⟨t, rfl⟩ le ge
  exact congrArg Key.str (le_antisymm le ge)

/-! ## Equality -/

section Equality

variable [FloatEq F]

/-- The value contains no floating-point number and nothing that JSON cannot express. -/
inductive Value.Floatless : Value F → Prop where
  | none : Floatless .none
  | bool (b : Bool) : Floatless (.bool b)
  | int (i : Int) : Floatless (.int i)
  | str (s : Str) : Floatless (.str s)
  | list {items : List (Value F)} (all : ∀ v ∈ items, Floatless v) : Floatless (.list items)
  | dict {entries : Entries F} (keys : ∀ entry ∈ entries, ∃ s, entry.1 = .str s)
      (all : ∀ entry ∈ entries, Floatless entry.2) : Floatless (.dict entries)

theorem eqItems_of_getElem? {items others : List (Value F)} (length : items.length = others.length)
    (all : ∀ (index : Nat) v w, items[index]? = some v → others[index]? = some w →
      v.pyEq w = true) : Value.eqItems items others = true := by
  induction items generalizing others with
  | nil =>
      cases others with
      | nil => rfl
      | cons w others => cases length
  | cons v rest ih =>
      cases others with
      | nil => cases length
      | cons w others =>
          rw [Value.eqItems, Bool.and_eq_true]
          exact ⟨all 0 v w rfl rfl, ih (Nat.succ.inj length) fun index => all (index + 1)⟩

theorem eqEntries_of_lookup {entries others : Entries F}
    (all : ∀ entry ∈ entries, ∃ w, others.lookup entry.1 = some w ∧ entry.2.pyEq w = true) :
    Value.eqEntries entries others = true := by
  induction entries with
  | nil => rfl
  | cons entry rest ih =>
      obtain ⟨⟨w, found, equal⟩, tail⟩ := List.forall_mem_cons.mp all
      simp only [Value.eqEntries, found, equal, ih tail, Bool.and_self]

omit [FloatEq F] in
theorem Value.Reordered.floatless {v w : Value F} (same : v.Reordered w)
    (floatless : v.Floatless) : w.Floatless := by
  induction same with
  | refl => exact floatless
  | @list items others length _ ih =>
      cases floatless with | list floatless =>
      refine .list fun w member => ?_
      obtain ⟨index, inside, rfl⟩ := List.mem_iff_getElem.mp member
      have first := List.getElem?_eq_getElem (length ▸ inside : index < items.length)
      exact ih index _ _ first (List.getElem?_eq_getElem inside)
        (floatless _ (List.getElem_mem _))
  | @dict entries others keys _ ih =>
      cases floatless with | dict strings floatless =>
      refine .dict (fun entry member => ?_) fun entry member => ?_
      · obtain ⟨v, inside⟩ := Value.Reordered.partner keys member
        exact strings (entry.1, v) inside
      · obtain ⟨v, inside⟩ := Value.Reordered.partner keys member
        exact ih entry.1 v entry.2 inside member (floatless (entry.1, v) inside)

/-- A value without floating-point numbers is equal to its reorderings. -/
theorem Value.Reordered.pyEq {v w : Value F} (same : v.Reordered w) (floatless : v.Floatless)
    (wellFormed : v.WellFormed) (otherWellFormed : w.WellFormed) : v.pyEq w = true := by
  induction floatless generalizing w with
  | none =>
      cases same with | refl => simp
  | bool b =>
      cases same with | refl => simp [Value.pyEq, Value.eqNumber, Value.asInt]
  | int i =>
      cases same with | refl => simp
  | str s =>
      cases same with | refl => simp
  | list _ ih =>
      obtain ⟨others, rfl, length, all⟩ := same.of_list
      cases wellFormed with | list wellFormed =>
      cases otherWellFormed with | list otherWellFormed =>
      rw [Value.pyEq]
      refine eqItems_of_getElem? length fun index v w first second => ?_
      have member := List.mem_of_getElem? first
      exact ih v member (all index v w first second) (wellFormed v member)
        (otherWellFormed w (List.mem_of_getElem? second))
  | dict _ _ ih =>
      cases wellFormed with | dict distinct wellFormed =>
      obtain ⟨others, rfl, keys, all⟩ := same.of_dict distinct
      cases otherWellFormed with | dict otherDistinct otherWellFormed =>
      have lengths := keys.length_eq
      rw [List.length_map, List.length_map] at lengths
      rw [Value.pyEq, Bool.and_eq_true, beq_iff_eq]
      refine ⟨lengths, eqEntries_of_lookup fun entry member => ?_⟩
      obtain ⟨⟨_, w⟩, other, equal⟩ :=
        List.mem_map.mp (keys.mem_iff.mp (List.mem_map_of_mem (f := Prod.fst) member))
      have listed : (entry.1, w) ∈ others := equal ▸ other
      exact ⟨w, (Entries.lookup_eq_some_iff otherDistinct).mpr listed,
        ih entry member (all _ _ w member listed) (wellFormed entry member)
          (otherWellFormed _ listed)⟩

end Equality

end Python
