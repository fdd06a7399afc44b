import Mathlib.Data.List.Nodup
import Mathlib.Data.List.Perm.Subperm

/-!
# Tables whose rows have distinct keys

A table is a list of rows of which no two have the same key.  A row is looked up
under its key, and writing a row replaces the row of its key in place or comes
after all others.  Rows of one table that each have a partner under the same key
in another are not more than those partners.
-/

/-- Rows of which no two have the same key. -/
structure Table {Row Key : Type} (key : Row → Key) where
  rows : List Row
  distinct : (rows.map key).Nodup

namespace Table

variable {Row Other Key : Type} {key : Row → Key} {otherKey : Other → Key} {t : Table key}
  {row : Row} {k : Key}

instance : Membership Row (Table key) :=
  ⟨fun t row => row ∈ t.rows⟩

theorem mem_rows : row ∈ t.rows ↔ row ∈ t :=
  Iff.rfl

def empty : Table key where
  rows := []
  distinct := List.nodup_nil

@[simp]
theorem not_mem_empty : row ∉ (empty : Table key) :=
  List.not_mem_nil

theorem eq_of_key_eq {first second : Row} (firstMem : first ∈ t) (secondMem : second ∈ t)
    (same : key first = key second) : first = second :=
  List.inj_on_of_nodup_map t.distinct firstMem secondMem same

/-! ## Looking up -/

section Keyed

variable [DecidableEq Key]

/-- The row of a key. -/
def find (t : Table key) (k : Key) : Option Row :=
  t.rows.find? fun row => key row = k

@[simp]
theorem find_empty : (empty : Table key).find k = none :=
  rfl

theorem find_eq_some : t.find k = some row ↔ row ∈ t ∧ key row = k := by
  constructor
  · intro found
    have named : key row = k := by simpa using List.find?_some found
    exact ⟨List.mem_of_find?_eq_some found, named⟩
  · rintro ⟨member, named⟩
    cases found : t.find k with
    | none =>
        have absent := List.find?_eq_none.mp found row member
        simp [named] at absent
    | some other =>
        have named' : key other = k := by simpa using List.find?_some found
        rw [eq_of_key_eq (List.mem_of_find?_eq_some found) member (named'.trans named.symm)]

theorem find_eq_none : t.find k = none ↔ ∀ row ∈ t, key row ≠ k := by
  simp [find, mem_rows]

theorem find_key (member : row ∈ t) : t.find (key row) = some row :=
  find_eq_some.mpr ⟨member, rfl⟩

theorem mem_of_find (found : t.find k = some row) : row ∈ t :=
  (find_eq_some.mp found).1

theorem key_of_find (found : t.find k = some row) : key row = k :=
  (find_eq_some.mp found).2

/-! ## Writing -/

/-- Replace the row of the same key, or come after all others. -/
def putRow (key : Row → Key) (row : Row) : List Row → List Row
  | [] => [row]
  | other :: rest => if key other = key row then row :: rest else other :: putRow key row rest

theorem mem_keys_putRow {rows : List Row} :
    k ∈ (putRow key row rows).map key ↔ k = key row ∨ k ∈ rows.map key := by
  induction rows with
  | nil => simp [putRow]
  | cons other rest ih =>
      rw [putRow]
      split
      · next same => simp [same]
      · simp only [List.map_cons, List.mem_cons, ih]
        tauto

theorem nodup_putRow {rows : List Row} (distinct : (rows.map key).Nodup) :
    ((putRow key row rows).map key).Nodup := by
  induction rows with
  | nil => simp [putRow]
  | cons other rest ih =>
      obtain ⟨fresh, rest_distinct⟩ := List.nodup_cons.mp distinct
      rw [putRow]
      split
      · next same =>
          rw [List.map_cons, ← same]
          exact distinct
      · next apart =>
          rw [List.map_cons, List.nodup_cons, mem_keys_putRow, not_or]
          exact ⟨⟨apart, fresh⟩, ih rest_distinct⟩

theorem find?_putRow {rows : List Row} :
    (putRow key row rows).find? (fun other => key other = k) =
      if key row = k then some row else rows.find? fun other => key other = k := by
  induction rows with
  | nil => by_cases named : key row = k <;> simp [putRow, named]
  | cons other rest ih =>
      rw [putRow]
      by_cases same : key other = key row
      · rw [if_pos same]
        by_cases named : key row = k <;> simp [same, named]
      · rw [if_neg same, List.find?_cons, List.find?_cons, ih]
        by_cases named : key row = k
        · rw [named] at same
          simp [same, named]
        · simp [named]

theorem putRow_of_fresh {rows : List Row} (fresh : ∀ other ∈ rows, key other ≠ key row) :
    putRow key row rows = rows ++ [row] := by
  induction rows with
  | nil => rfl
  | cons other rest ih =>
      rw [putRow, if_neg (fresh other List.mem_cons_self), List.cons_append]
      rw [ih fun later member => fresh later (List.mem_cons_of_mem other member)]

/-- The last row is replaced in its place. -/
theorem putRow_concat {rows : List Row} {last : Row} (fresh : ∀ other ∈ rows, key other ≠ key row)
    (same : key last = key row) : putRow key row (rows ++ [last]) = rows ++ [row] := by
  induction rows with
  | nil => simp [putRow, same]
  | cons other rest ih =>
      rw [List.cons_append, putRow, if_neg (fresh other List.mem_cons_self), List.cons_append]
      rw [ih fun later member => fresh later (List.mem_cons_of_mem other member)]

def put (t : Table key) (row : Row) : Table key where
  rows := putRow key row t.rows
  distinct := nodup_putRow t.distinct

theorem rows_put : (t.put row).rows = putRow key row t.rows :=
  rfl

theorem find_put : (t.put row).find k = if key row = k then some row else t.find k :=
  find?_putRow

@[simp]
theorem find_put_self : (t.put row).find (key row) = some row := by
  simp [find_put]

theorem find_put_of_ne (apart : key row ≠ k) : (t.put row).find k = t.find k := by
  simp [find_put, apart]

theorem isSome_find_put (found : (t.find k).isSome) : ((t.put row).find k).isSome := by
  rw [find_put]
  split
  · rfl
  · exact found

theorem mem_iff_find : row ∈ t ↔ t.find (key row) = some row := by
  simp [find_eq_some]

theorem mem_put {other : Row} :
    other ∈ t.put row ↔ other = row ∨ other ∈ t ∧ key row ≠ key other := by
  rw [mem_iff_find, find_put]
  split
  · next same =>
      simp only [Option.some.injEq, same, ne_eq, not_true_eq_false, and_false, or_false]
      exact eq_comm
  · next apart =>
      rw [mem_iff_find]
      constructor
      · exact fun found => .inr ⟨found, apart⟩
      · rintro (rfl | ⟨found, _⟩)
        · exact absurd rfl apart
        · exact found

@[simp]
theorem mem_put_self : row ∈ t.put row :=
  mem_put.mpr (.inl rfl)

theorem length_putRow_le {rows : List Row} : (putRow key row rows).length ≤ rows.length + 1 := by
  induction rows with
  | nil => simp [putRow]
  | cons other rest ih =>
      rw [putRow]
      split
      · simp
      · simpa using ih

theorem length_put_le : (t.put row).rows.length ≤ t.rows.length + 1 :=
  length_putRow_le

theorem length_putRow_of_mem {rows : List Row} (present : key row ∈ rows.map key) :
    (putRow key row rows).length = rows.length := by
  induction rows with
  | nil => simp at present
  | cons other rest ih =>
      rw [putRow]
      split
      · simp
      · next apart =>
          have later : key row ∈ rest.map key := by
            simpa [Ne.symm apart] using present
          simpa using ih later

/-- Replacing a row makes the table no longer. -/
theorem length_put_of_isSome (present : (t.find (key row)).isSome) :
    (t.put row).rows.length = t.rows.length := by
  obtain ⟨other, found⟩ := Option.isSome_iff_exists.mp present
  obtain ⟨member, same⟩ := find_eq_some.mp found
  exact length_putRow_of_mem (same ▸ List.mem_map_of_mem member)

theorem rows_put_of_fresh (fresh : t.find (key row) = none) :
    (t.put row).rows = t.rows ++ [row] :=
  putRow_of_fresh (find_eq_none.mp fresh)

theorem putRow_of_mem {rows : List Row} (distinct : (rows.map key).Nodup) (member : row ∈ rows) :
    putRow key row rows = rows := by
  induction rows with
  | nil => cases member
  | cons other rest ih =>
      obtain ⟨fresh, rest_distinct⟩ := List.nodup_cons.mp distinct
      rw [putRow]
      rcases List.mem_cons.mp member with rfl | later
      · rw [if_pos rfl]
      · have apart : key other ≠ key row := fun same =>
          fresh (same ▸ List.mem_map_of_mem later)
        rw [if_neg apart, ih rest_distinct later]

/-- Writing a row that is there changes nothing. -/
theorem put_of_mem (member : row ∈ t) : t.put row = t := by
  cases t with
  | mk rows distinct => simp only [put, putRow_of_mem distinct member]

/-- Rewriting a row that keeps its answer to a test changes what is found by the test
only if it was that row. -/
theorem find?_putRow_of_mem {rows : List Row} {stored : Row} {p : Row → Bool}
    (distinct : (rows.map key).Nodup) (member : stored ∈ rows) (same : key row = key stored)
    (keeps : p row = p stored) :
    (putRow key row rows).find? p = (rows.find? p).map fun found =>
      if key found = key row then row else found := by
  induction rows with
  | nil => cases member
  | cons other rest ih =>
      obtain ⟨fresh, rest_distinct⟩ := List.nodup_cons.mp distinct
      rw [putRow]
      by_cases named : key other = key row
      · have own : other = stored := by
          rcases List.mem_cons.mp member with first | later
          · exact first.symm
          · have listed := List.mem_map_of_mem (f := key) later
            rw [← same, ← named] at listed
            exact absurd listed fresh
        subst own
        rw [if_pos named, List.find?_cons, List.find?_cons, keeps]
        cases p other with
        | true => simp [named]
        | false =>
            simp only
            cases found : rest.find? p with
            | none => rfl
            | some later =>
                have apart : key later ≠ key row := by
                  intro equal
                  rw [← named] at equal
                  exact fresh (equal ▸ List.mem_map_of_mem (List.mem_of_find?_eq_some found))
                simp [apart]
      · have later : stored ∈ rest := by
          rcases List.mem_cons.mp member with rfl | later
          · exact absurd same.symm named
          · exact later
        rw [if_neg named, List.find?_cons, List.find?_cons, ih rest_distinct later]
        cases p other with
        | true => simp [named]
        | false => rfl

/-- Write rows one after the other. -/
def putAll (t : Table key) (rows : List Row) : Table key :=
  rows.foldl put t

@[simp]
theorem putAll_nil : t.putAll [] = t :=
  rfl

@[simp]
theorem putAll_cons {rest : List Row} : t.putAll (row :: rest) = (t.put row).putAll rest :=
  rfl

theorem putAll_of_mem {rows : List Row} (present : ∀ row ∈ rows, row ∈ t) : t.putAll rows = t := by
  induction rows with
  | nil => rfl
  | cons first rest ih =>
      rw [putAll_cons, put_of_mem (present first List.mem_cons_self)]
      exact ih fun row member => present row (List.mem_cons_of_mem first member)

/-- A key is found after many writes as the last of them left it. -/
theorem find_putAll {rows : List Row} :
    (t.putAll rows).find k = (rows.reverse.find? fun other => key other = k).or (t.find k) := by
  induction rows generalizing t with
  | nil => simp
  | cons first rest ih =>
      rw [putAll_cons, ih, find_put, List.reverse_cons, List.find?_append, Option.or_assoc]
      congr 1
      by_cases named : key first = k <;> simp [named]

theorem find_putAll_of_ne {rows : List Row} (apart : ∀ other ∈ rows, key other ≠ k) :
    (t.putAll rows).find k = t.find k := by
  have none_named : rows.reverse.find? (fun other => key other = k) = none := by
    simpa using apart
  rw [find_putAll, none_named, Option.none_or]

theorem mem_putAll_of_ne {rows : List Row} (apart : ∀ other ∈ rows, key other ≠ key row) :
    row ∈ t.putAll rows ↔ row ∈ t := by
  rw [mem_iff_find, find_putAll_of_ne apart, ← mem_iff_find]

/-- Add a row unless its key is taken. -/
def insert (t : Table key) (row : Row) : Table key :=
  match t.find (key row) with
  | none => t.put row
  | some _ => t

theorem find_insert : (t.insert row).find k =
    (t.find k).or (if key row = k then some row else none) := by
  by_cases named : key row = k
  · subst named
    rw [if_pos rfl]
    cases taken : t.find (key row) with
    | none => simp [insert, taken]
    | some other => simp [insert, taken]
  · rw [if_neg named, Option.or_none]
    unfold insert
    split
    · exact find_put_of_ne named
    · rfl

theorem mem_insert_of_mem {other : Row} (member : other ∈ t) : other ∈ t.insert row := by
  rw [mem_iff_find, find_insert, mem_iff_find.mp member]
  rfl

theorem mem_or_eq_of_mem_insert {other : Row} (member : other ∈ t.insert row) :
    other ∈ t ∨ other = row := by
  unfold insert at member
  split at member
  · rcases mem_put.mp member with rfl | ⟨earlier, _⟩
    · exact .inr rfl
    · exact .inl earlier
  · exact .inl member

/-- Delete the row of a key. -/
def erase (t : Table key) (k : Key) : Table key where
  rows := t.rows.filter fun row => key row ≠ k
  distinct := (List.filter_sublist.map key).nodup t.distinct

theorem mem_erase : row ∈ t.erase k ↔ row ∈ t ∧ key row ≠ k := by
  simp [← mem_rows, erase]

end Keyed

/-! ## Keeping some of the rows -/

/-- The rows that pass a test. -/
def filter (t : Table key) (p : Row → Bool) : Table key where
  rows := t.rows.filter p
  distinct := (List.filter_sublist.map key).nodup t.distinct

theorem mem_filter {p : Row → Bool} : row ∈ t.filter p ↔ row ∈ t ∧ p row = true :=
  List.mem_filter

theorem find_filter [DecidableEq Key] {p : Row → Bool} (found : t.find k = some row)
    (passes : p row = true) : (t.filter p).find k = some row := by
  obtain ⟨member, named⟩ := find_eq_some.mp found
  exact find_eq_some.mpr ⟨mem_filter.mpr ⟨member, passes⟩, named⟩

/-- All rows but the first. -/
def tail (t : Table key) : Table key where
  rows := t.rows.tail
  distinct := ((List.tail_sublist t.rows).map key).nodup t.distinct

theorem rows_tail : t.tail.rows = t.rows.tail :=
  rfl

theorem mem_of_mem_tail (member : row ∈ t.tail) : row ∈ t :=
  List.mem_of_mem_tail member

/-! ## Counting -/

/-- The number of rows that pass a test. -/
def count (t : Table key) (p : Row → Bool) : Nat :=
  t.rows.countP p

/-- Rows that each have a partner under the same key are not more than the partners. -/
theorem count_le_count {t : Table key} {u : Table otherKey} {p : Row → Bool} {q : Other → Bool}
    (partner : ∀ row ∈ t, p row → ∃ other ∈ u, q other ∧ otherKey other = key row) :
    t.count p ≤ u.count q := by
  have distinct : ((t.rows.filter p).map key).Nodup :=
    (List.filter_sublist.map key).nodup t.distinct
  have subset : (t.rows.filter p).map key ⊆ (u.rows.filter q).map otherKey := by
    intro k named
    obtain ⟨row, member, rfl⟩ := List.mem_map.mp named
    obtain ⟨present, passes⟩ := List.mem_filter.mp member
    obtain ⟨other, otherMem, otherPasses, same⟩ := partner row present passes
    rw [← same]
    exact List.mem_map_of_mem (List.mem_filter.mpr ⟨otherMem, otherPasses⟩)
  have le := (distinct.subperm subset).length_le
  rw [List.length_map, List.length_map] at le
  rw [count, count, List.countP_eq_length_filter, List.countP_eq_length_filter]
  exact le

/-- A table whose keys but one are listed is at most one row longer than the list. -/
theorem length_le_of_listed [DecidableEq Key] {others : List Key}
    (listed : ∀ row ∈ t, key row ≠ k → key row ∈ others) : t.rows.length ≤ others.length + 1 := by
  have subset : (t.rows.map key).erase k ⊆ others := by
    intro other member
    obtain ⟨apart, named⟩ := t.distinct.mem_erase_iff.mp member
    obtain ⟨row, present, rfl⟩ := List.mem_map.mp named
    exact listed row present apart
  have le := ((t.distinct.erase k).subperm subset).length_le
  have shorter : (t.rows.map key).length - 1 ≤ ((t.rows.map key).erase k).length :=
    List.le_length_erase
  rw [List.length_map] at shorter
  omega

/-- Tables with the same rows of a kind have equally many of them. -/
theorem count_congr {u : Table key} {p q : Row → Bool}
    (same : ∀ row, row ∈ t ∧ p row = true ↔ row ∈ u ∧ q row = true) : t.count p = u.count q := by
  apply Nat.le_antisymm
  · refine count_le_count fun row member passes => ?_
    obtain ⟨present, other⟩ := (same row).mp ⟨member, passes⟩
    exact ⟨row, present, other, rfl⟩
  · refine count_le_count fun row member passes => ?_
    obtain ⟨present, other⟩ := (same row).mpr ⟨member, passes⟩
    exact ⟨row, present, other, rfl⟩

theorem count_put_of_fresh [DecidableEq Key] {p : Row → Bool} (fresh : t.find (key row) = none) :
    (t.put row).count p = t.count p + (p row).toNat := by
  rw [count, rows_put_of_fresh fresh, List.countP_append, count]
  cases passes : p row <;> simp [passes]

/-- A row in the place of one of the same kind leaves the number of its kind. -/
theorem count_put_of_find [DecidableEq Key] {p : Row → Bool} {stored : Row}
    (found : t.find (key row) = some stored) (same : p row = p stored) :
    (t.put row).count p = t.count p := by
  have named := key_of_find found
  apply Nat.le_antisymm
  · refine count_le_count fun other member passes => ?_
    rcases mem_put.mp member with rfl | ⟨earlier, _⟩
    · exact ⟨stored, mem_of_find found, by rwa [← same], named⟩
    · exact ⟨other, earlier, passes, rfl⟩
  · refine count_le_count fun other member passes => ?_
    by_cases here : key row = key other
    · have shared : other = stored :=
        eq_of_key_eq member (mem_of_find found) (here.symm.trans named.symm)
      exact ⟨row, mem_put_self, by rwa [same, ← shared], here⟩
    · exact ⟨other, mem_put.mpr (.inr ⟨member, here⟩), passes, rfl⟩

/-- Two disjoint kinds of rows together are not more than the rows of either kind. -/
theorem count_add_le {p q r : Row → Bool} (left : ∀ row, p row → r row)
    (right : ∀ row, q row → r row) (disjoint : ∀ row, p row → ¬ q row) :
    t.count p + t.count q ≤ t.count r := by
  unfold count
  induction t.rows with
  | nil => simp
  | cons row rest ih =>
      have := left row
      have := right row
      have := disjoint row
      simp only [List.countP_cons]
      grind

end Table
