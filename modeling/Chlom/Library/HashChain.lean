import Mathlib.Data.List.Induction

/-!
# Hash-chained logs

Each entry of a log names the hash of its predecessor and carries the digest of
its own contents.  When digests do not collide on the entries at hand and never
equal the genesis value, the hash of the last entry determines the whole log.
-/

namespace HashChain

variable {Entry Hash : Type}

/-- How an entry takes part in a chain: the hash it names, the hash it carries
and the digest of its contents. -/
structure Link (Entry Hash : Type) where
  previous : Entry → Hash
  own : Entry → Hash
  digest : Entry → Hash

/-- The hash a log ends in, the genesis value when it is empty. -/
def head (link : Link Entry Hash) (genesis : Hash) (log : List Entry) : Hash :=
  (log.getLast?.map link.own).getD genesis

/-- Every entry names the hash before it and carries its own digest. -/
def Linked (link : Link Entry Hash) (genesis : Hash) : List Entry → Prop
  | [] => True
  | entry :: rest =>
      link.previous entry = genesis ∧ link.own entry = link.digest entry ∧
        Linked link (link.own entry) rest

variable {link : Link Entry Hash} {genesis : Hash}

@[simp]
theorem head_nil : head link genesis [] = genesis :=
  rfl

@[simp]
theorem head_append_singleton (log : List Entry) (entry : Entry) :
    head link genesis (log ++ [entry]) = link.own entry := by
  simp [head]

theorem head_cons (entry : Entry) (rest : List Entry) :
    head link genesis (entry :: rest) = head link (link.own entry) rest := by
  cases rest with
  | nil => rfl
  | cons next rest => simp [head, List.getLast?_cons]

theorem linked_append_singleton {log : List Entry} {entry : Entry} :
    Linked link genesis (log ++ [entry]) ↔
      Linked link genesis log ∧ link.previous entry = head link genesis log ∧
        link.own entry = link.digest entry := by
  induction log generalizing genesis with
  | nil => simp [Linked]
  | cons first rest ih => simp only [List.cons_append, Linked, ih, head_cons, and_assoc]

/-- The entry at a position names the hash in which the log before it ends. -/
theorem Linked.getElem? {log : List Entry} (linked : Linked link genesis log) {index : Nat}
    {entry : Entry} (found : log[index]? = some entry) :
    link.previous entry = head link genesis (log.take index) ∧
      link.own entry = link.digest entry := by
  induction log generalizing genesis index with
  | nil => simp at found
  | cons first rest ih =>
      obtain ⟨previousEq, ownEq, tail⟩ := linked
      cases index with
      | zero =>
          simp only [List.getElem?_cons_zero, Option.some.injEq] at found
          subst found
          exact ⟨previousEq, ownEq⟩
      | succ index =>
          simp only [List.getElem?_cons_succ] at found
          simpa only [List.take_succ_cons, head_cons] using ih tail found

/-- Two linked logs ending in the same hash are the same log. -/
theorem eq_of_head_eq {first second : List Entry}
    (firstLinked : Linked link genesis first) (secondLinked : Linked link genesis second)
    (collisionFree : ∀ entry ∈ first, ∀ other ∈ second,
      link.digest entry = link.digest other → link.own entry = link.own other → entry = other)
    (firstFresh : ∀ entry ∈ first, link.digest entry ≠ genesis)
    (secondFresh : ∀ entry ∈ second, link.digest entry ≠ genesis)
    (heads : head link genesis first = head link genesis second) : first = second := by
  -- the head is the hash of the last entry, so the logs are taken apart from their ends
  induction first using List.reverseRecOn generalizing second with
  | nil =>
      cases second using List.reverseRecOn with
      | nil => rfl
      | append_singleton before last =>
          have lastLinked := linked_append_singleton.mp secondLinked
          rw [head_nil, head_append_singleton, lastLinked.2.2] at heads
          exact absurd heads.symm (secondFresh last (by simp))
  | append_singleton before last ih =>
      have lastLinked := linked_append_singleton.mp firstLinked
      cases second using List.reverseRecOn with
      | nil =>
          rw [head_nil, head_append_singleton, lastLinked.2.2] at heads
          exact absurd heads (firstFresh last (by simp))
      | append_singleton otherBefore otherLast =>
          have otherLinked := linked_append_singleton.mp secondLinked
          rw [head_append_singleton, head_append_singleton] at heads
          have digests : link.digest last = link.digest otherLast := by
            rw [← lastLinked.2.2, ← otherLinked.2.2, heads]
          have lastEq := collisionFree last (by simp) otherLast (by simp) digests heads
          subst lastEq
          have beforeEq := ih lastLinked.1 otherLinked.1
            (fun entry member other otherMember =>
              collisionFree entry (by simp [member]) other (by simp [otherMember]))
            (fun entry member => firstFresh entry (by simp [member]))
            (fun entry member => secondFresh entry (by simp [member]))
            (lastLinked.2.1.symm.trans otherLinked.2.1)
          rw [beforeEq]

end HashChain
