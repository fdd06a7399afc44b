import Chlom.Library.Python.JsonRoundTrip

/-!
# Texts with sorted keys

Sorting the keys of a value changes nothing but the order of its items.  The sorted
text is the same for every order the items can have, and it determines the value up
to that order.
-/

namespace Python

variable {F : Type}

@[simp]
theorem sortKeysItems_eq_map (items : List (Value F)) : sortKeysItems items = items.map sortKeys := by
  induction items with
  | nil => rfl
  | cons v rest ih => simp [sortKeysItems, ih]

/-- An item with the keys of its value sorted. -/
def sortKeysEntry (entry : Key × Value F) : Key × Value F := (entry.1, sortKeys entry.2)

@[simp]
theorem sortKeysEntries_eq_map (entries : Entries F) :
    sortKeysEntries entries = entries.map sortKeysEntry := by
  induction entries with
  | nil => rfl
  | cons entry rest ih => simp [sortKeysEntries, sortKeysEntry, ih]

namespace Entries

theorem sort_perm (entries : Entries F) : (sort entries).Perm entries :=
  List.perm_insertionSort KeyLe entries

theorem sort_pairwise (entries : Entries F) : (sort entries).Pairwise KeyLe :=
  haveI : Std.Total (KeyLe (F := F)) := ⟨fun first second => le_total first.1.text second.1.text⟩
  haveI : IsTrans (Key × Value F) KeyLe := ⟨fun _ _ _ first second => le_trans first second⟩
  List.pairwise_insertionSort KeyLe entries

theorem sort_eq_self {entries : Entries F} (sorted : entries.Pairwise KeyLe) :
    sort entries = entries :=
  List.Pairwise.insertionSort_eq sorted

/-- Keys that are all strings. -/
def StringKeys (entries : Entries F) : Prop := ∀ entry ∈ entries, ∃ s, entry.1 = .str s

/-- The order in which the items were listed does not survive sorting. -/
theorem sort_congr {entries others : Entries F} (same : entries.Perm others)
    (distinct : (entries.map Prod.fst).Nodup) (strings : StringKeys entries) :
    sort entries = sort others := by
  have reordered : (sort entries).Perm (sort others) :=
    (sort_perm entries).trans (same.trans (sort_perm others).symm)
  refine List.Perm.eq_of_pairwise ?_ (sort_pairwise entries) (sort_pairwise others) reordered
  intro first second firstMember secondMember le ge
  have firstIn : first ∈ entries := (sort_perm entries).mem_iff.mp firstMember
  have secondIn : second ∈ entries := same.mem_iff.mpr ((sort_perm others).mem_iff.mp secondMember)
  obtain ⟨firstKey, firstEq⟩ := strings first firstIn
  obtain ⟨secondKey, secondEq⟩ := strings second secondIn
  have keys : first.1 = second.1 := by
    have texts := le_antisymm le ge
    rw [firstEq, secondEq] at texts ⊢
    exact congrArg Key.str texts
  exact List.inj_on_of_nodup_map distinct firstIn secondIn keys

end Entries

/-! ## What sorting keeps -/

theorem map_fst_sortKeysEntry (entries : Entries F) :
    (entries.map sortKeysEntry).map Prod.fst = entries.map Prod.fst := by
  simp [sortKeysEntry, Function.comp_def]

/-- Sorting a second time changes nothing. -/
@[simp]
theorem sortKeys_sortKeys (v : Value F) : sortKeys (sortKeys v) = sortKeys v := by
  induction v using Value.induct with
  | list items ih =>
      simp only [sortKeys, sortKeysItems_eq_map, List.map_map]
      exact congrArg Value.list (List.map_congr_left ih)
  | dict entries ih =>
      have unchanged : (Entries.sort (entries.map sortKeysEntry)).map sortKeysEntry =
          Entries.sort (entries.map sortKeysEntry) := by
        refine (List.map_congr_left fun entry member => ?_).trans (List.map_id _)
        have listed := (Entries.sort_perm _).mem_iff.mp member
        obtain ⟨source, sourceMember, rfl⟩ := List.mem_map.mp listed
        exact Prod.ext rfl (ih source sourceMember)
      simp only [sortKeys, sortKeysEntries_eq_map, unchanged]
      rw [Entries.sort_eq_self (Entries.sort_pairwise _)]
  | none | bool | int | float | str | mapping | datetime | other => rfl

theorem sortKeys_wellFormed {v : Value F} (wellFormed : v.WellFormed) :
    (sortKeys v).WellFormed := by
  induction wellFormed with
  | list all ih =>
      simp only [sortKeys, sortKeysItems_eq_map]
      refine .list fun v member => ?_
      obtain ⟨source, sourceMember, rfl⟩ := List.mem_map.mp member
      exact ih source sourceMember
  | @dict entries distinct all ih =>
      simp only [sortKeys, sortKeysEntries_eq_map]
      have order := Entries.sort_perm (entries.map sortKeysEntry)
      refine .dict ?_ fun entry member => ?_
      · rw [(order.map Prod.fst).nodup_iff, map_fst_sortKeysEntry]
        exact distinct
      · obtain ⟨source, sourceMember, rfl⟩ := List.mem_map.mp (order.mem_iff.mp member)
        exact ih source sourceMember
  | mapping name distinct all ih => exact .mapping name distinct all
  | none => exact .none
  | bool b => exact .bool b
  | int i => exact .int i
  | float f => exact .float f
  | str s => exact .str s
  | datetime d => exact .datetime d
  | other name => exact .other name

theorem sortKeys_isJson [FloatFormat F] {v : Value F} (json : v.IsJson) : (sortKeys v).IsJson := by
  induction json with
  | list all ih =>
      simp only [sortKeys, sortKeysItems_eq_map]
      refine .list fun v member => ?_
      obtain ⟨source, sourceMember, rfl⟩ := List.mem_map.mp member
      exact ih source sourceMember
  | @dict entries keys all ih =>
      simp only [sortKeys, sortKeysEntries_eq_map]
      have order := Entries.sort_perm (entries.map sortKeysEntry)
      refine .dict (fun entry member => ?_) fun entry member => ?_
      · obtain ⟨source, sourceMember, rfl⟩ := List.mem_map.mp (order.mem_iff.mp member)
        exact keys source sourceMember
      · obtain ⟨source, sourceMember, rfl⟩ := List.mem_map.mp (order.mem_iff.mp member)
        exact ih source sourceMember
  | none => exact .none
  | bool b => exact .bool b
  | int i => exact .int i
  | float finite => exact .float finite
  | str s => exact .str s

theorem sortKeys_fits {limit : Nat} {v : Value F} (fits : v.fits limit = true) :
    (sortKeys v).fits limit = true := by
  induction v using Value.induct with
  | list items ih =>
      rw [fits_list] at fits
      rw [sortKeys, sortKeysItems_eq_map, fits_list]
      intro v member
      obtain ⟨source, sourceMember, rfl⟩ := List.mem_map.mp member
      exact ih source sourceMember (fits source sourceMember)
  | dict entries ih =>
      rw [fits_dict] at fits
      rw [sortKeys, sortKeysEntries_eq_map, fits_dict]
      have order := Entries.sort_perm (entries.map sortKeysEntry)
      intro entry member
      obtain ⟨source, sourceMember, rfl⟩ := List.mem_map.mp (order.mem_iff.mp member)
      exact ih source sourceMember (fits source sourceMember)
  | none | bool | int | float | str | mapping | datetime | other => exact fits

/-- The items of a dictionary in the order of the sorted text. -/
def sortedEntries (entries : Entries F) : Entries F := Entries.sort (entries.map sortKeysEntry)

theorem sortKeys_dict (entries : Entries F) :
    sortKeys (.dict entries) = .dict (sortedEntries entries) := by
  rw [sortKeys, sortKeysEntries_eq_map, sortedEntries]

theorem mem_keys_sortedEntries {entries : Entries F} {key : Key} :
    key ∈ (sortedEntries entries).map Prod.fst ↔ key ∈ entries.map Prod.fst := by
  rw [sortedEntries, ((Entries.sort_perm _).map Prod.fst).mem_iff, map_fst_sortKeysEntry]

/-- Looking a key up among the sorted items gives its value with sorted keys. -/
theorem lookup_sortedEntries {entries : Entries F} (distinct : (entries.map Prod.fst).Nodup)
    (key : Key) : (sortedEntries entries).lookup key = (entries.lookup key).map sortKeys := by
  have mapped : ((entries.map sortKeysEntry).map Prod.fst).Nodup := by
    rwa [map_fst_sortKeysEntry]
  rw [sortedEntries, ← Entries.lookup_perm (Entries.sort_perm _).symm mapped]
  clear distinct mapped
  induction entries with
  | nil => rfl
  | cons entry rest ih =>
      obtain ⟨name, v⟩ := entry
      by_cases same : key = name
      · subst same
        simp [sortKeysEntry]
      · rw [List.map_cons, sortKeysEntry, Entries.lookup_cons_of_ne same, ih,
          Entries.lookup_cons_of_ne same]

/-- Dictionaries with the same items are sorted to the same dictionary. -/
theorem sortKeys_congr {entries others : Entries F} (same : entries.Perm others)
    (distinct : (entries.map Prod.fst).Nodup) (strings : Entries.StringKeys entries) :
    sortKeys (.dict entries) = sortKeys (.dict others) := by
  rw [sortKeys_dict, sortKeys_dict, sortedEntries, sortedEntries]
  refine congrArg Value.dict (Entries.sort_congr (same.map _) ?_ ?_)
  · rwa [map_fst_sortKeysEntry]
  · intro entry member
    obtain ⟨source, sourceMember, rfl⟩ := List.mem_map.mp member
    exact strings source sourceMember

/-! ## Canonical texts -/

section Canonical

variable [FloatFormat F] {gap : Str}

/-- Loading a sorted text gives the value with its keys sorted. -/
theorem loadsWith_dumps_sortKeys {hooks : Hooks F} {limit : Nat} (faithful : hooks.Faithful limit)
    (blank : ∀ c ∈ gap, isJsonSpace c = true) {v : Value F} (json : v.IsJson)
    (wellFormed : v.WellFormed) (fits : v.fits limit = true) :
    loadsWith hooks (dumps gap (sortKeys v)) = .ok (sortKeys v) :=
  loadsWith_dumps faithful blank (sortKeys_isJson json) (sortKeys_wellFormed wellFormed)
    (sortKeys_fits fits)

end Canonical

end Python
