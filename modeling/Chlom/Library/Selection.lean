import Mathlib.Data.List.Pairwise
import Mathlib.Order.CompletePartialOrder
import Mathlib.Order.Interval.Set.Disjoint

/-!
# Selecting from a list

The first match of a search depends neither on the order of the list, when at most one
item can match, nor on items that a match excludes.  At most one of several records
whose windows of time are disjoint is open at a moment.
-/

namespace Selection

variable {α κ τ : Type}

/-- No two items of the list match. -/
def AtMostOne (p : α → Bool) (items : List α) : Prop :=
  items.Pairwise fun first second => ¬ (p first = true ∧ p second = true)

theorem AtMostOne.eq {p : α → Bool} {items : List α} (unique : AtMostOne p items) {first second : α}
    (firstMember : first ∈ items) (secondMember : second ∈ items) (firstMatch : p first = true)
    (secondMatch : p second = true) : first = second := by
  by_contra differs
  have symmetric : Std.Symm fun first second => ¬ (p first = true ∧ p second = true) :=
    ⟨fun _ _ apart both => apart both.symm⟩
  exact unique.forall firstMember secondMember differs ⟨firstMatch, secondMatch⟩

/-- A search that at most one item can answer has one answer for every order. -/
theorem find?_perm {p : α → Bool} {items others : List α} (unique : AtMostOne p items)
    (same : items.Perm others) : items.find? p = others.find? p := by
  cases found : items.find? p with
  | none =>
      rw [List.find?_eq_none] at found
      exact (List.find?_eq_none.mpr fun item member => found item (same.mem_iff.mpr member)).symm
  | some first =>
      have firstMember := List.mem_of_find?_eq_some found
      have firstMatch := List.find?_some found
      cases other : others.find? p with
      | none =>
          exact absurd firstMatch (List.find?_eq_none.mp other first (same.mem_iff.mp firstMember))
      | some second =>
          have secondMember := same.mem_iff.mpr (List.mem_of_find?_eq_some other)
          rw [unique.eq firstMember secondMember firstMatch (List.find?_some other)]

/-- A search passes over all items that a match excludes. -/
theorem find?_filter_of_imp {p q : α → Bool} (implies : ∀ item, p item = true → q item = true)
    (items : List α) : (items.filter q).find? p = items.find? p := by
  rw [List.find?_filter]
  congr 1
  funext item
  cases matched : p item with
  | true => simp [implies item matched]
  | false => simp

/-- A filter passes over all items that a match excludes. -/
theorem filter_filter_of_imp {p q : α → Bool} (implies : ∀ item, p item = true → q item = true)
    (items : List α) : (items.filter q).filter p = items.filter p := by
  rw [List.filter_filter]
  congr 1
  funext item
  cases matched : p item with
  | true => rw [implies item matched, Bool.and_true]
  | false => rw [Bool.false_and]

/-- Comparing each item with all others in other places is comparing all pairs. -/
theorem forall_zipIdx_iff_pairwise {R : α → α → Prop} (symmetric : ∀ a b, R a b → R b a)
    {items : List α} :
    (∀ first ∈ items.zipIdx, ∀ second ∈ items.zipIdx, first.2 ≠ second.2 → R first.1 second.1) ↔
      items.Pairwise R := by
  rw [List.pairwise_iff_getElem]
  constructor
  · intro all i j iBound jBound before
    exact all (items[i], i) (List.mem_zipIdx_iff_getElem?.mpr (List.getElem?_eq_getElem iBound))
      (items[j], j) (List.mem_zipIdx_iff_getElem?.mpr (List.getElem?_eq_getElem jBound)) before.ne
  · rintro pairs ⟨first, i⟩ firstMember ⟨second, j⟩ secondMember differs
    rw [List.mem_zipIdx_iff_getElem?, List.getElem?_eq_some_iff] at firstMember secondMember
    dsimp only at firstMember secondMember
    obtain ⟨iBound, rfl⟩ := firstMember
    obtain ⟨jBound, rfl⟩ := secondMember
    rcases Nat.lt_or_gt_of_ne differs with before | after
    · exact pairs i j iBound jBound before
    · exact symmetric _ _ (pairs j i jBound iBound after)

/-! ## Windows of time -/

/-- Records under one key have disjoint windows. -/
def DisjointWindows (key : α → κ) (window : α → Set τ) (items : List α) : Prop :=
  items.Pairwise fun first second => key first = key second → Disjoint (window first) (window second)

/-- At every moment at most one record under a key is open. -/
theorem DisjointWindows.atMostOne {key : α → κ} {window : α → Set τ} {items : List α}
    (disjoint : DisjointWindows key window items) {k : κ} {moment : τ} {p : α → Bool}
    (matches_ : ∀ item, p item = true → key item = k ∧ moment ∈ window item) : AtMostOne p items := by
  refine disjoint.imp fun {first second} apart both => ?_
  obtain ⟨firstKey, firstOpen⟩ := matches_ first both.1
  obtain ⟨secondKey, secondOpen⟩ := matches_ second both.2
  exact Set.disjoint_left.mp (apart (firstKey.trans secondKey.symm)) firstOpen secondOpen

theorem DisjointWindows.perm {key : α → κ} {window : α → Set τ} {items others : List α}
    (disjoint : DisjointWindows key window items) (same : items.Perm others) :
    DisjointWindows key window others :=
  List.Pairwise.perm disjoint same fun apart keys => (apart keys.symm).symm

/-- Two windows, each open at its start, are disjoint unless each starts before the other
stops. -/
theorem disjoint_Ico_iff [LinearOrder τ] {start stop other last : τ} (ordered : start < stop)
    (otherOrdered : other < last) :
    Disjoint (Set.Ico start stop) (Set.Ico other last) ↔ ¬ (start < last ∧ other < stop) := by
  rw [Set.Ico_disjoint_Ico, min_le_iff, le_max_iff, le_max_iff, not_and_or, not_lt, not_lt]
  constructor
  · rintro ((impossible | before) | (after | impossible))
    · exact absurd impossible (not_le.mpr ordered)
    · exact .inr before
    · exact .inl after
    · exact absurd impossible (not_le.mpr otherOrdered)
  · rintro (after | before)
    · exact .inr (.inl after)
    · exact .inl (.inr before)

end Selection
