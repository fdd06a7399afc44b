import Chlom.Library.Trails
import Mathlib.Data.List.Induction
import Mathlib.Data.List.MinMax
import Mathlib.Data.List.Nodup

/-!
# Append-only logs whose entries name an earlier entry

An entry that joins a log names the entry that some choice picks among those
already there.  The log is one line, which can be followed from its last entry
through all others, exactly when the choice always was the entry before.
-/

namespace Lineage

variable {Entry Name : Type}

/-- The name of an entry and the name it refers to. -/
structure Link (Entry Name : Type) where
  name : Entry → Name
  previous : Entry → Option Name

variable [DecidableEq Name]

/-- The entries met by following the references from a name. -/
def follow (link : Link Entry Name) (log : List Entry) : Nat → Option Name → List Entry
  | 0, _ => []
  | _ + 1, none => []
  | fuel + 1, some name =>
      match log.find? fun entry => link.name entry = name with
      | none => []
      | some entry => entry :: follow link log fuel (link.previous entry)

/-- One line: a single first entry, no two entries after the same one, and a walk
from the last entry that meets every entry once. -/
structure Linear (link : Link Entry Name) (log : List Entry) : Prop where
  root : ∀ first ∈ log, ∀ second ∈ log, link.previous first = none →
    link.previous second = none → first = second
  fork : ∀ first ∈ log, ∀ second ∈ log, link.previous first ≠ none →
    link.previous first = link.previous second → first = second
  visits : (follow link log (log.length + 1) (log.getLast?.map link.name)).Perm log

/-- A log whose entries had new names and referred to the choice among those before. -/
inductive Grown (link : Link Entry Name) (choose : List Entry → Option Entry) :
    List Entry → Prop
  | nil : Grown link choose []
  | snoc {log : List Entry} {next : Entry} (before : Grown link choose log)
      (fresh : link.name next ∉ log.map link.name)
      (previous : link.previous next = (choose log).map link.name) :
      Grown link choose (log ++ [next])

/-- An entry refers to the one right before it. -/
def Follows (link : Link Entry Name) (prior : Option Entry) (next : Entry) : Prop :=
  link.previous next = prior.map link.name

variable {link : Link Entry Name} {choose : List Entry → Option Entry} {log : List Entry}

omit [DecidableEq Name] in
theorem Grown.nodup (grown : Grown link choose log) : (log.map link.name).Nodup := by
  induction grown with
  | nil => exact List.nodup_nil
  | @snoc log next before fresh previous ih =>
      rw [List.map_append, List.nodup_append]
      refine ⟨ih, by simp, ?_⟩
      rintro name earlier other last rfl
      obtain rfl : name = link.name next := by simpa using last
      exact fresh earlier

omit [DecidableEq Name] in
theorem eq_of_name_eq (distinct : (log.map link.name).Nodup) {first second : Entry}
    (firstMem : first ∈ log) (secondMem : second ∈ log)
    (equal : link.name first = link.name second) : first = second :=
  List.inj_on_of_nodup_map distinct firstMem secondMem equal

/-- A name leads to its entry. -/
theorem find?_name (distinct : (log.map link.name).Nodup) {entry : Entry} (member : entry ∈ log) :
    (log.find? fun other => link.name other = link.name entry) = some entry := by
  cases found : log.find? fun other => link.name other = link.name entry with
  | none => simpa using List.find?_eq_none.mp found entry member
  | some other =>
      have named : link.name other = link.name entry := by simpa using List.find?_some found
      rw [eq_of_name_eq distinct (List.mem_of_find?_eq_some found) member named]

/-! ## What a line looks like -/

/-- Following a line that starts a log leads back through the line. -/
theorem follow_of_follows (distinct : (log.map link.name).Nodup) {line : List Entry}
    (follows : Trail (Follows link) line) (subset : ∀ entry ∈ line, entry ∈ log) {fuel : Nat}
    (enough : line.length < fuel) :
    follow link log fuel (line.getLast?.map link.name) = line.reverse := by
  induction follows generalizing fuel with
  | nil =>
      cases fuel with
      | zero => omega
      | succ fuel => rfl
  | @snoc line next before step ih =>
      cases fuel with
      | zero => omega
      | succ fuel =>
          have member : next ∈ log := subset next (by simp)
          have shorter : line.length < fuel := by simpa using enough
          have rest := ih (fun entry earlier => subset entry (by simp [earlier])) shorter
          rw [List.getLast?_concat, Option.map_some, follow, find?_name distinct member]
          rw [Follows] at step
          simp only [step, rest, List.reverse_append, List.reverse_cons, List.reverse_nil,
            List.nil_append, List.singleton_append]

omit [DecidableEq Name] in
/-- An entry other than the last has a successor that refers to it. -/
theorem exists_successor (follows : Trail (Follows link) log) {entry : Entry}
    (member : entry ∈ log) (notLast : log.getLast? ≠ some entry) :
    ∃ later ∈ log, link.previous later = some (link.name entry) := by
  induction follows with
  | nil => simp at member
  | @snoc log next before step ih =>
      have earlier : entry ∈ log := by
        rcases List.mem_append.mp member with earlier | last
        · exact earlier
        · rw [List.mem_singleton.mp last] at notLast
          simp at notLast
      by_cases lastEq : log.getLast? = some entry
      · refine ⟨next, by simp, ?_⟩
        rw [Follows, lastEq] at step
        exact step
      · obtain ⟨later, laterMem, named⟩ := ih earlier lastEq
        exact ⟨later, by simp [laterMem], named⟩

omit [DecidableEq Name] in
/-- An entry of a line refers to one before the last. -/
theorem previous_mem (follows : Trail (Follows link) log) {entry : Entry} (member : entry ∈ log)
    {name : Name} (named : link.previous entry = some name) :
    name ∈ log.dropLast.map link.name := by
  induction follows with
  | nil => simp at member
  | @snoc log next before step ih =>
      rw [List.dropLast_concat]
      rcases List.mem_append.mp member with earlier | last
      · obtain ⟨other, otherMem, otherEq⟩ := List.mem_map.mp (ih earlier)
        exact List.mem_map.mpr ⟨other, List.dropLast_subset _ otherMem, otherEq⟩
      · rw [List.mem_singleton.mp last, step] at named
        obtain ⟨other, otherEq, nameEq⟩ := Option.map_eq_some_iff.mp named
        exact List.mem_map.mpr ⟨other, List.mem_of_getLast? otherEq, nameEq⟩

omit [DecidableEq Name] in
/-- No entry of a line refers to its last entry. -/
theorem previous_ne_last (distinct : (log.map link.name).Nodup)
    (follows : Trail (Follows link) log) {entry : Entry} (member : entry ∈ log) :
    link.previous entry ≠ log.getLast?.map link.name := by
  intro equal
  cases lastEq : log.getLast? with
  | none => simp [List.getLast?_eq_none_iff.mp lastEq] at member
  | some last =>
      rw [lastEq] at equal
      have inside := previous_mem follows member equal
      obtain ⟨before, rfl⟩ := List.getLast?_eq_some_iff.mp lastEq
      rw [List.dropLast_concat] at inside
      rw [List.map_append, List.nodup_append] at distinct
      exact distinct.2.2 _ inside _ (by simp) rfl

omit [DecidableEq Name] in
/-- Two entries of a line that refer to the same place are the same. -/
theorem eq_of_previous_eq (distinct : (log.map link.name).Nodup)
    (follows : Trail (Follows link) log) {first second : Entry} (firstMem : first ∈ log)
    (secondMem : second ∈ log) (equal : link.previous first = link.previous second) :
    first = second := by
  induction follows with
  | nil => simp at firstMem
  | @snoc log next before step ih =>
      have nodup : (log.map link.name).Nodup := by
        rw [List.map_append] at distinct
        exact distinct.of_append_left
      rcases List.mem_append.mp firstMem with firstIn | firstLast <;>
        rcases List.mem_append.mp secondMem with secondIn | secondLast
      · exact ih nodup firstIn secondIn
      · rw [List.mem_singleton.mp secondLast, step] at equal
        exact absurd equal (previous_ne_last nodup before firstIn)
      · rw [List.mem_singleton.mp firstLast, step] at equal
        exact absurd equal.symm (previous_ne_last nodup before secondIn)
      · rw [List.mem_singleton.mp firstLast, List.mem_singleton.mp secondLast]

theorem linear_of_follows (distinct : (log.map link.name).Nodup)
    (follows : Trail (Follows link) log) : Linear link log where
  root _ firstMem _ secondMem firstNone secondNone :=
    eq_of_previous_eq distinct follows firstMem secondMem (firstNone.trans secondNone.symm)
  fork _ firstMem _ secondMem _ equal :=
    eq_of_previous_eq distinct follows firstMem secondMem equal
  visits := by
    rw [follow_of_follows distinct follows (fun _ member => member) (Nat.lt_succ_self _)]
    exact List.reverse_perm log

/-! ## When a grown log is a line -/

omit [DecidableEq Name] in
/-- Without a fork every reference is to the entry right before. -/
theorem Grown.follows (grown : Grown link choose log)
    (chosen : ∀ {log entry}, choose log = some entry → entry ∈ log)
    (some_of_ne_nil : ∀ {log}, choose log = none → log = [])
    (root : ∀ first ∈ log, ∀ second ∈ log, link.previous first = none →
      link.previous second = none → first = second)
    (fork : ∀ first ∈ log, ∀ second ∈ log, link.previous first ≠ none →
      link.previous first = link.previous second → first = second) :
    Trail (Follows link) log := by
  induction grown with
  | nil => exact .nil
  | @snoc log next before fresh previous ih =>
      have inside {entry : Entry} (member : entry ∈ log) : entry ∈ log ++ [next] := by
        simp [member]
      have line : Trail (Follows link) log :=
        ih (fun first firstMem second secondMem => root first (inside firstMem) second
            (inside secondMem))
          (fun first firstMem second secondMem => fork first (inside firstMem) second
            (inside secondMem))
      refine .snoc line ?_
      cases choice : choose log with
      | none =>
          obtain rfl := some_of_ne_nil choice
          rw [Follows, previous, choice]
          rfl
      | some entry =>
          have named : link.previous next = some (link.name entry) := by rw [previous, choice]; rfl
          by_cases lastEq : log.getLast? = some entry
          · rw [Follows, lastEq, named]
            rfl
          · obtain ⟨later, laterMem, laterNamed⟩ := exists_successor line (chosen choice) lastEq
            have same : later = next :=
              fork later (inside laterMem) next (by simp) (by simp [laterNamed])
                (laterNamed.trans named.symm)
            exact absurd (List.mem_map_of_mem (same ▸ laterMem)) fresh

omit [DecidableEq Name] in
theorem Grown.follows_iff (grown : Grown link choose log)
    (chosen : ∀ {log entry}, choose log = some entry → entry ∈ log) :
    Trail (Follows link) log ↔
      ∀ before next rest, log = before ++ next :: rest → choose before = before.getLast? := by
  induction grown with
  | nil => simpa using Trail.nil
  | @snoc log next grown fresh previous ih =>
      have same : Follows link log.getLast? next ↔ choose log = log.getLast? := by
        rw [Follows, previous]
        constructor
        · intro names
          cases choice : choose log with
          | none => simpa [choice, eq_comm] using names
          | some entry =>
              cases lastEq : log.getLast? with
              | none => simp [choice, lastEq] at names
              | some last =>
                  simp only [choice, lastEq, Option.map_some, Option.some.injEq] at names
                  rw [eq_of_name_eq grown.nodup (chosen choice) (List.mem_of_getLast? lastEq) names]
        · intro equal
          rw [equal]
      rw [Trail.snoc_iff, ih, same]
      constructor
      · rintro ⟨earlier, last⟩ before entry rest whole
        cases rest using List.reverseRecOn with
        | nil =>
            obtain ⟨rfl, _⟩ := List.append_inj' whole rfl
            exact last
        | append_singleton rest final =>
            rw [← List.cons_append, ← List.append_assoc] at whole
            exact earlier before entry rest (List.append_inj' whole rfl).1
      · intro every
        refine ⟨fun before entry rest whole => ?_, every log next [] rfl⟩
        exact every before entry (rest ++ [next]) (by rw [whole, List.append_assoc]; rfl)

/-- A grown log is a line exactly when each entry was added while the choice was
the last entry. -/
theorem Grown.linear_iff (grown : Grown link choose log)
    (chosen : ∀ {log entry}, choose log = some entry → entry ∈ log)
    (some_of_ne_nil : ∀ {log}, choose log = none → log = []) :
    Linear link log ↔
      ∀ before next rest, log = before ++ next :: rest → choose before = before.getLast? := by
  rw [← grown.follows_iff chosen]
  exact ⟨fun linear => grown.follows chosen some_of_ne_nil linear.root linear.fork,
    linear_of_follows grown.nodup⟩

/-- A line goes on exactly when the next entry was added while the choice was the
last entry. -/
theorem Grown.linear_snoc_iff {next : Entry} (grown : Grown link choose log)
    (fresh : link.name next ∉ log.map link.name)
    (previous : link.previous next = (choose log).map link.name)
    (chosen : ∀ {log entry}, choose log = some entry → entry ∈ log)
    (some_of_ne_nil : ∀ {log}, choose log = none → log = []) (line : Linear link log) :
    Linear link (log ++ [next]) ↔ choose log = log.getLast? := by
  rw [(grown.snoc fresh previous).linear_iff chosen some_of_ne_nil]
  constructor
  · intro every
    exact every log next [] rfl
  · intro last before entry rest whole
    cases rest using List.reverseRecOn with
    | nil =>
        obtain ⟨rfl, _⟩ := List.append_inj' whole rfl
        exact last
    | append_singleton rest final =>
        rw [← List.cons_append, ← List.append_assoc] at whole
        exact (grown.linear_iff chosen some_of_ne_nil).mp line before entry rest
          (List.append_inj' whole rfl).1

/-! ## Choosing the greatest -/

/-- Among entries with different keys the choice of the greatest is determined. -/
theorem argmax_eq_some_iff {Key : Type} [LinearOrder Key] {key : Entry → Key} {log : List Entry}
    (distinct : (log.map key).Nodup) {entry : Entry} :
    log.argmax key = some entry ↔ entry ∈ log ∧ ∀ other ∈ log, key other ≤ key entry := by
  classical
  constructor
  · intro choice
    exact ⟨List.argmax_mem choice, fun other member => List.le_of_mem_argmax member choice⟩
  · rintro ⟨member, greatest⟩
    refine List.mem_argmax_iff.mpr ⟨member, greatest, fun other otherMem le => ?_⟩
    have same := List.inj_on_of_nodup_map distinct otherMem member
      (le_antisymm (greatest other otherMem) le)
    rw [same]

end Lineage
