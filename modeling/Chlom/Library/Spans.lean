import Mathlib.Algebra.Order.Ring.Nat
import Mathlib.Data.List.Chain

/-!
# Chains of numbered spans

A log of entries, each covering a span of sequence numbers and counting the
events in it.  When every entry starts after its predecessor stops, all spans
are disjoint and in order, and the counts add up to at most the last number
covered.
-/

namespace Spans

variable {Entry : Type}

/-- How an entry covers sequence numbers: both ends are inclusive. -/
structure Span (Entry : Type) where
  start : Entry → Nat
  stop : Entry → Nat
  count : Entry → Nat

variable (span : Span Entry)

/-- An entry counts at least one event and no more than its span holds. -/
structure Valid (entry : Entry) : Prop where
  start_pos : 0 < span.start entry
  start_le_stop : span.start entry ≤ span.stop entry
  count_pos : 0 < span.count entry
  count_le : span.count entry ≤ span.stop entry - span.start entry + 1

variable {span}

/-- Entries that each start after their predecessor are all in order. -/
theorem pairwise_of_chain {log : List Entry} (valid : ∀ entry ∈ log, Valid span entry)
    (chain : log.IsChain fun first second => span.stop first < span.start second) :
    log.Pairwise fun first second => span.stop first < span.start second := by
  induction log with
  | nil => exact .nil
  | cons first rest ih =>
      have restPairwise := ih (fun entry member => valid entry (List.mem_cons_of_mem _ member))
        chain.tail
      apply List.Pairwise.cons _ restPairwise
      intro later member
      cases rest with
      | nil => cases member
      | cons second rest =>
          have next := (List.isChain_cons_cons.mp chain).1
          rcases List.mem_cons.mp member with rfl | further
          · exact next
          · have beyond := (List.pairwise_cons.mp restPairwise).1 later further
            have ordered := (valid second (by simp)).start_le_stop
            omega

/-- The counts of a chain fit between its first and its last number. -/
theorem sum_add_start_le {first last : Entry} {rest : List Entry}
    (valid : ∀ entry ∈ first :: rest, Valid span entry)
    (chain : (first :: rest).IsChain fun one next => span.stop one < span.start next)
    (lastEq : (first :: rest).getLast? = some last) :
    ((first :: rest).map span.count).sum + span.start first ≤ span.stop last + 1 := by
  have head := valid first (by simp)
  have counted := head.count_le
  have ordered := head.start_le_stop
  induction rest generalizing first with
  | nil =>
      obtain rfl : first = last := by simpa using lastEq
      simp only [List.map_cons, List.map_nil, List.sum_cons, List.sum_nil]
      omega
  | cons second rest ih =>
      have next := (List.isChain_cons_cons.mp chain).1
      have member : second ∈ first :: second :: rest := by simp
      have second' := valid second member
      have tail := ih (fun entry later => valid entry (List.mem_cons_of_mem _ later)) chain.tail
        (by simpa using lastEq) second' second'.count_le second'.start_le_stop
      rw [List.map_cons, List.sum_cons]
      omega

/-- The counts of a chain add up to at most the last number it covers. -/
theorem sum_le_stop {log : List Entry} {last : Entry} (valid : ∀ entry ∈ log, Valid span entry)
    (chain : log.IsChain fun first second => span.stop first < span.start second)
    (lastEq : log.getLast? = some last) : (log.map span.count).sum ≤ span.stop last := by
  cases log with
  | nil => cases lastEq
  | cons first rest =>
      have fits := sum_add_start_le valid chain lastEq
      have positive := (valid first (by simp)).start_pos
      omega

end Spans
