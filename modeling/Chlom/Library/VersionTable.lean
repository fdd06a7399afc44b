import Chlom.Library.Checked
import Mathlib.Data.List.Range
import Mathlib.Order.Basic
import Mathlib.Order.Bounds.Defs

/-!
# Append-only tables of dated versions

A table holds the versions `1..n` of one subject.  Each version takes effect
from one block until before another and remembers the block that recorded it; a
version can be revoked, also dated.  The lookup scans from the newest version:
it skips versions that have not started or were not yet recorded, and stops at
the first other one, with an answer only when that version is neither over nor
revoked.
-/

/-- Terms in force for a half-open interval of blocks, recorded at a block. -/
class DatedTerms (τ : Type) (Block : outParam Type) where
  effectiveFrom : τ → Block
  effectiveUntil : τ → Block
  recordedAt : τ → Block

export DatedTerms (effectiveFrom effectiveUntil recordedAt)

/-- The versions of one subject, the order they were approved in, and the
blocks at which some of them were revoked. -/
structure VersionTable (w : Nat) (τ Block : Type) where
  index : List (BitVec w)
  terms : BitVec w → Option τ
  revokedAt : BitVec w → Option Block

namespace VersionTable

variable {w : Nat} {τ Block : Type} [DatedTerms τ Block] [LinearOrder Block]

/-- A version is applicable at a block once it has started and been recorded. -/
def Applicable (table : VersionTable w τ Block) (block : Block) (version : BitVec w) : Prop :=
  ∃ terms, table.terms version = some terms ∧ effectiveFrom terms ≤ block ∧ recordedAt terms ≤ block

/-- A version is withdrawn at a block when it was revoked by then. -/
def Withdrawn (table : VersionTable w τ Block) (block : Block) (version : BitVec w) : Prop :=
  ∃ since, table.revokedAt version = some since ∧ since ≤ block

instance (table : VersionTable w τ Block) (block : Block) (version : BitVec w) :
    Decidable (table.Withdrawn block version) :=
  match found : table.revokedAt version with
  | none => isFalse (by simp [Withdrawn, found])
  | some since => decidable_of_iff (since ≤ block) (by simp [Withdrawn, found])

/-- The scan through the given versions, newest first. -/
def scan (table : VersionTable w τ Block) (block : Block) : List (BitVec w) → Option (BitVec w × τ)
  | [] => none
  | version :: older =>
      match table.terms version with
      | none => none
      | some terms =>
          if block < effectiveFrom terms ∨ block < recordedAt terms then
            table.scan block older
          else if effectiveUntil terms ≤ block ∨ table.Withdrawn block version then
            none
          else
            some (version, terms)

/-- The version in force at a block together with its terms. -/
def active (table : VersionTable w τ Block) (block : Block) : Option (BitVec w × τ) :=
  table.scan block table.index.reverse

/-- What approvals and revocations keep true of a table by the block `now`. -/
structure WellFormed (table : VersionTable w τ Block) (now : Block) : Prop where
  indexed : table.index.map BitVec.toNat = List.range' 1 table.index.length
  stored : ∀ version, table.terms version ≠ none ↔ version ∈ table.index
  ordered : ∀ {version later terms laterTerms}, version ≤ later →
    table.terms version = some terms → table.terms later = some laterTerms →
      effectiveFrom terms ≤ effectiveFrom laterTerms ∧ recordedAt terms ≤ recordedAt laterTerms
  recorded : ∀ {version terms}, table.terms version = some terms → recordedAt terms ≤ now

/-- Add the terms of a new version at the end. -/
def approve (table : VersionTable w τ Block) (version : BitVec w) (terms : τ) :
    VersionTable w τ Block where
  index := table.index ++ [version]
  terms other := if other = version then some terms else table.terms other
  revokedAt := table.revokedAt

/-- Date the revocation of a version. -/
def revoke (table : VersionTable w τ Block) (version : BitVec w) (block : Block) :
    VersionTable w τ Block where
  index := table.index
  terms := table.terms
  revokedAt other := if other = version then some block else table.revokedAt other

/-- One accepted change of a table at the block `now`. -/
inductive Changed (now : Block) (table : VersionTable w τ Block) : VersionTable w τ Block → Prop
  | same : Changed now table table
  | approve (version : BitVec w) (terms : τ)
      (next : version.toNat = table.index.length + 1)
      (fresh : table.terms version = none)
      (dated : recordedAt terms = now)
      (forward : ∀ previous previousTerms, table.index.getLast? = some previous →
        table.terms previous = some previousTerms →
          effectiveFrom previousTerms ≤ effectiveFrom terms) :
      Changed now table (table.approve version terms)
  | revoke (version : BitVec w) (fresh : table.revokedAt version = none) :
      Changed now table (table.revoke version now)

section Empty

variable {now : Block} {table : VersionTable w τ Block}

theorem wellFormed_of_empty (noIndex : table.index = [])
    (noTerms : ∀ version, table.terms version = none) : table.WellFormed now where
  indexed := by simp [noIndex]
  stored version := by simp [noIndex, noTerms]
  ordered _ found := by simp [noTerms] at found
  recorded found := by simp [noTerms] at found

theorem WellFormed.later {now' : Block} (wellFormed : table.WellFormed now) (passed : now ≤ now') :
    table.WellFormed now' where
  indexed := wellFormed.indexed
  stored := wellFormed.stored
  ordered := wellFormed.ordered
  recorded found := (wellFormed.recorded found).trans passed

end Empty

/-! ## The index lists the versions in order -/

section Index

variable {now : Block} {table : VersionTable w τ Block}

theorem WellFormed.mem_index_iff (wellFormed : table.WellFormed now) (version : BitVec w) :
    version ∈ table.index ↔ 1 ≤ version.toNat ∧ version.toNat ≤ table.index.length := by
  have member : version ∈ table.index ↔ version.toNat ∈ table.index.map BitVec.toNat := by
    rw [List.mem_map]
    constructor
    · exact fun found => ⟨version, found, rfl⟩
    · rintro ⟨other, found, equal⟩
      rwa [← BitVec.eq_of_toNat_eq equal]
  rw [member, wellFormed.indexed, List.mem_range'_1]
  omega

theorem WellFormed.terms_ne_none_iff (wellFormed : table.WellFormed now) (version : BitVec w) :
    table.terms version ≠ none ↔ 1 ≤ version.toNat ∧ version.toNat ≤ table.index.length := by
  rw [wellFormed.stored, wellFormed.mem_index_iff]

theorem WellFormed.getLast?_toNat (wellFormed : table.WellFormed now) {previous : BitVec w}
    (last : table.index.getLast? = some previous) : previous.toNat = table.index.length := by
  have lastNat : (table.index.map BitVec.toNat).getLast? = some previous.toNat := by
    simp [List.getLast?_map, last]
  rw [wellFormed.indexed, List.getLast?_range'] at lastNat
  split at lastNat <;> simp_all

/-- Every stored version lies below the last one, which is stored too. -/
theorem WellFormed.exists_last (wellFormed : table.WellFormed now) {version : BitVec w}
    (stored : table.terms version ≠ none) :
    ∃ last lastTerms, table.index.getLast? = some last ∧ table.terms last = some lastTerms ∧
      version ≤ last := by
  have positions := (wellFormed.terms_ne_none_iff version).mp stored
  have nonempty : table.index ≠ [] := by
    intro none
    rw [none, List.length_nil] at positions
    omega
  have lastEq := List.getLast?_eq_some_getLast nonempty
  have lastNat := wellFormed.getLast?_toNat lastEq
  have lastStored := (wellFormed.terms_ne_none_iff (table.index.getLast nonempty)).mpr (by omega)
  obtain ⟨lastTerms, lastTermsEq⟩ := Option.ne_none_iff_exists'.mp lastStored
  refine ⟨_, lastTerms, lastEq, lastTermsEq, ?_⟩
  rw [BitVec.le_def]
  omega

theorem WellFormed.sorted (wellFormed : table.WellFormed now) :
    table.index.Pairwise (· < ·) := by
  have nats : (table.index.map BitVec.toNat).Pairwise (· < ·) := by
    rw [wellFormed.indexed]
    exact List.pairwise_lt_range'
  simpa only [List.pairwise_map, BitVec.lt_def] using nats

end Index

/-! ## The scan finds the greatest applicable version -/

/-- The greatest member with a property, when the head of the list lacks it. -/
theorem greatest_cons_of_not {P : BitVec w → Prop} {newest version : BitVec w}
    {older : List (BitVec w)} (skipped : ¬ P newest) :
    (version ∈ newest :: older ∧ P version ∧
        ∀ other ∈ newest :: older, P other → other ≤ version) ↔
      version ∈ older ∧ P version ∧ ∀ other ∈ older, P other → other ≤ version := by
  constructor
  · rintro ⟨member, holds, greatest⟩
    refine ⟨?_, holds, fun other otherOlder => greatest other (List.mem_cons_of_mem _ otherOlder)⟩
    rcases List.mem_cons.mp member with rfl | versionOlder
    · exact absurd holds skipped
    · exact versionOlder
  · rintro ⟨member, holds, greatest⟩
    refine ⟨List.mem_cons_of_mem _ member, holds, ?_⟩
    intro other otherMember otherHolds
    rcases List.mem_cons.mp otherMember with rfl | otherOlder
    · exact absurd otherHolds skipped
    · exact greatest other otherOlder otherHolds

/-- The greatest member with a property is the head of a descending list that has it. -/
theorem greatest_cons_of_pos {P : BitVec w → Prop} {newest version : BitVec w}
    {older : List (BitVec w)} (greater : ∀ other ∈ older, newest > other) (holds : P newest) :
    (version ∈ newest :: older ∧ P version ∧
        ∀ other ∈ newest :: older, P other → other ≤ version) ↔ version = newest := by
  constructor
  · rintro ⟨member, _, greatest⟩
    rcases List.mem_cons.mp member with rfl | versionOlder
    · rfl
    · exact absurd (greatest newest List.mem_cons_self holds)
        (not_le.mpr (greater version versionOlder))
  · rintro rfl
    refine ⟨List.mem_cons_self, holds, ?_⟩
    intro other otherMember _
    rcases List.mem_cons.mp otherMember with rfl | otherOlder
    · exact le_rfl
    · exact (greater other otherOlder).le

theorem scan_eq_some {table : VersionTable w τ Block} {block : Block} {versions : List (BitVec w)}
    (stored : ∀ version ∈ versions, table.terms version ≠ none)
    (descending : versions.Pairwise (· > ·)) {version : BitVec w} {terms : τ} :
    table.scan block versions = some (version, terms) ↔
      (version ∈ versions ∧ table.Applicable block version ∧
        ∀ other ∈ versions, table.Applicable block other → other ≤ version) ∧
      table.terms version = some terms ∧ block < effectiveUntil terms ∧
        ¬ table.Withdrawn block version := by
  induction versions with
  | nil => simp [scan]
  | cons newest older ih =>
      obtain ⟨newestGreater, olderDescending⟩ := List.pairwise_cons.mp descending
      have olderStored : ∀ other ∈ older, table.terms other ≠ none :=
        fun other member => stored other (by simp [member])
      cases newestTerms : table.terms newest with
      | none => exact absurd newestTerms (stored newest (by simp))
      | some found =>
          have applicable_newest : table.Applicable block newest ↔
              effectiveFrom found ≤ block ∧ recordedAt found ≤ block := by
            simp [Applicable, newestTerms]
          simp only [scan, newestTerms]
          by_cases early : block < effectiveFrom found ∨ block < recordedAt found
          · -- the scan skips the newest version, which is no candidate for the greatest
            have notApplicable : ¬ table.Applicable block newest := by
              rw [applicable_newest]
              rintro ⟨started, known⟩
              exact early.elim (not_lt.mpr started) (not_lt.mpr known)
            rw [if_pos early, ih olderStored olderDescending, greatest_cons_of_not notApplicable]
          · -- the scan stops here, whether or not it answers
            have applicable : table.Applicable block newest := by
              rw [applicable_newest]
              simpa only [not_or, not_lt] using early
            rw [if_neg early, greatest_cons_of_pos newestGreater applicable]
            by_cases finished : effectiveUntil found ≤ block ∨ table.Withdrawn block newest
            · rw [if_pos finished]
              simp only [reduceCtorEq, false_iff]
              rintro ⟨rfl, versionTerms, inForce, notWithdrawn⟩
              rw [newestTerms, Option.some.injEq] at versionTerms
              subst versionTerms
              exact finished.elim (not_le.mpr inForce) notWithdrawn
            · rw [if_neg finished]
              simp only [not_or, not_le] at finished
              constructor
              · intro equal
                simp only [Option.some.injEq, Prod.mk.injEq] at equal
                obtain ⟨rfl, rfl⟩ := equal
                exact ⟨rfl, newestTerms, finished⟩
              · rintro ⟨rfl, versionTerms, _⟩
                rw [newestTerms, Option.some.injEq] at versionTerms
                rw [versionTerms]

section Active

variable {now : Block} {table : VersionTable w τ Block}

/-- The lookup answers with the greatest applicable version, provided that one
is neither over nor revoked. -/
theorem WellFormed.active_eq_some (wellFormed : table.WellFormed now) {block : Block}
    {version : BitVec w} {terms : τ} :
    table.active block = some (version, terms) ↔
      IsGreatest {other | table.Applicable block other} version ∧
        table.terms version = some terms ∧ block < effectiveUntil terms ∧
          ¬ table.Withdrawn block version := by
  have stored : ∀ other ∈ table.index.reverse, table.terms other ≠ none :=
    fun other member => (wellFormed.stored other).mpr (List.mem_reverse.mp member)
  have descending : table.index.reverse.Pairwise (· > ·) :=
    List.pairwise_reverse.mpr wellFormed.sorted
  have indexed : ∀ other, table.Applicable block other → other ∈ table.index.reverse := by
    rintro other ⟨found, termsEq, _⟩
    exact List.mem_reverse.mpr ((wellFormed.stored other).mp (by simp [termsEq]))
  rw [active, scan_eq_some stored descending]
  apply and_congr_left'
  constructor
  · rintro ⟨_, applicable, greatest⟩
    exact ⟨applicable, fun other found => greatest other (indexed other found) found⟩
  · rintro ⟨applicable, greatest⟩
    exact ⟨indexed version applicable, applicable, fun other _ found => greatest found⟩

/-- A later lookup never answers with an older version. -/
theorem WellFormed.active_mono (wellFormed : table.WellFormed now) {block later : Block}
    (order : block ≤ later) {version laterVersion : BitVec w} {terms laterTerms : τ}
    (found : table.active block = some (version, terms))
    (laterFound : table.active later = some (laterVersion, laterTerms)) :
    version ≤ laterVersion := by
  obtain ⟨⟨applicable, _⟩, _⟩ := wellFormed.active_eq_some.mp found
  obtain ⟨⟨_, greatest⟩, _⟩ := wellFormed.active_eq_some.mp laterFound
  obtain ⟨own, ownEq, started, known⟩ := applicable
  exact greatest ⟨own, ownEq, started.trans order, known.trans order⟩

/-- What a table and a lookup in it mean: the versions are numbered without a
gap up to the bound, they start and were recorded in order, the lookup answers
with the greatest applicable version unless that one is over or revoked, and it
never goes back to an older version. -/
structure Meaning (table : VersionTable w τ Block) (bound : Nat)
    (lookup : Block → Option (BitVec w × τ)) : Prop where
  indexed : table.index.map BitVec.toNat = List.range' 1 table.index.length
  bounded : table.index.length ≤ bound
  stored : ∀ version, table.terms version ≠ none ↔ version ∈ table.index
  ordered : ∀ {version later terms laterTerms}, version ≤ later →
    table.terms version = some terms → table.terms later = some laterTerms →
      effectiveFrom terms ≤ effectiveFrom laterTerms ∧ recordedAt terms ≤ recordedAt laterTerms
  active : ∀ block version terms, lookup block = some (version, terms) ↔
    IsGreatest {other | ∃ otherTerms, table.terms other = some otherTerms ∧
      effectiveFrom otherTerms ≤ block ∧ recordedAt otherTerms ≤ block} version ∧
      table.terms version = some terms ∧ block < effectiveUntil terms ∧
        ¬ ∃ since, table.revokedAt version = some since ∧ since ≤ block
  noRevival : ∀ {block later version terms laterVersion laterTerms}, block ≤ later →
    lookup block = some (version, terms) → lookup later = some (laterVersion, laterTerms) →
      version ≤ laterVersion

theorem WellFormed.meaning (wellFormed : table.WellFormed now) {bound : Nat}
    (bounded : table.index.length ≤ bound) : Meaning table bound table.active where
  indexed := wellFormed.indexed
  bounded := bounded
  stored := wellFormed.stored
  ordered := wellFormed.ordered
  active _ _ _ := wellFormed.active_eq_some
  noRevival order found laterFound := wellFormed.active_mono order found laterFound

end Active

/-! ## Approvals and revocations -/

section Changes

variable {now : Block} {table table' : VersionTable w τ Block}

theorem WellFormed.approve (wellFormed : table.WellFormed now) {version : BitVec w} {terms : τ}
    (next : version.toNat = table.index.length + 1)
    (dated : recordedAt terms = now)
    (forward : ∀ previous previousTerms, table.index.getLast? = some previous →
      table.terms previous = some previousTerms →
        effectiveFrom previousTerms ≤ effectiveFrom terms) :
    (table.approve version terms).WellFormed now where
  indexed := by
    simp only [VersionTable.approve, List.map_append, wellFormed.indexed, List.map_cons,
      List.map_nil, List.length_append, List.length_cons, List.length_nil, next]
    rw [List.range'_concat]
    simp [Nat.add_comm]
  stored other := by
    by_cases same : other = version
    · simp [VersionTable.approve, same]
    · simp [VersionTable.approve, same, wellFormed.stored other]
  ordered {earlier later earlierTerms laterTerms} order earlierEq laterEq := by
    simp only [VersionTable.approve] at earlierEq laterEq
    split at laterEq
    · next isNew =>
        subst isNew
        obtain rfl := Option.some.inj laterEq
        split at earlierEq
        · obtain rfl := Option.some.inj earlierEq
          exact ⟨le_rfl, le_rfl⟩
        · have earlierStored : table.terms earlier ≠ none := by simp [earlierEq]
          obtain ⟨previous, previousTerms, last, previousEq, beforePrevious⟩ :=
            wellFormed.exists_last earlierStored
          have bound := forward previous previousTerms last previousEq
          exact ⟨(wellFormed.ordered beforePrevious earlierEq previousEq).1.trans bound,
            dated ▸ wellFormed.recorded earlierEq⟩
    · next isOld =>
        have laterPositions := (wellFormed.terms_ne_none_iff later).mp (by simp [laterEq])
        have earlierOld : earlier ≠ version := by
          rintro rfl
          rw [BitVec.le_def] at order
          omega
        rw [if_neg earlierOld] at earlierEq
        exact wellFormed.ordered order earlierEq laterEq
  recorded {other otherTerms} found := by
    simp only [VersionTable.approve] at found
    split at found
    · obtain rfl := Option.some.inj found
      exact dated.le
    · exact wellFormed.recorded found

theorem WellFormed.revoke (wellFormed : table.WellFormed now) (version : BitVec w) (block : Block) :
    (table.revoke version block).WellFormed now where
  indexed := wellFormed.indexed
  stored := wellFormed.stored
  ordered := wellFormed.ordered
  recorded := wellFormed.recorded

theorem WellFormed.changed (wellFormed : table.WellFormed now)
    (changed : Changed now table table') : table'.WellFormed now := by
  cases changed with
  | same => exact wellFormed
  | approve version terms next fresh dated forward => exact wellFormed.approve next dated forward
  | revoke version fresh => exact wellFormed.revoke version now

/-- An approval as the code checks it: the new version follows the last one, or
zero, and starts no earlier than it. -/
theorem WellFormed.changed_approve (wellFormed : table.WellFormed now) {version : BitVec w}
    {terms : τ} (next : version.toNat = (table.index.getLast?.getD 0).toNat + 1)
    (fresh : table.terms version = none) (dated : recordedAt terms = now)
    (forward : table.index.getLast?.getD 0 ≠ 0 →
      ∃ prior, table.terms (table.index.getLast?.getD 0) = some prior ∧
        effectiveFrom prior ≤ effectiveFrom terms) :
    Changed now table (table.approve version terms) := by
  refine .approve version terms ?_ fresh dated ?_
  · cases last : table.index.getLast? with
    | none =>
        have empty := List.getLast?_eq_none_iff.mp last
        simpa [empty] using next
    | some previous =>
        rw [last, Option.getD_some, wellFormed.getLast?_toNat last] at next
        exact next
  · intro previous previousTerms last stored
    rw [last, Option.getD_some] at forward
    have positive : previous ≠ 0 := by
      rintro rfl
      have positions := (wellFormed.terms_ne_none_iff _).mp (by rw [stored]; simp)
      simp at positions
    obtain ⟨prior, priorStored, order⟩ := forward positive
    obtain rfl := Option.some.inj (priorStored.symm.trans stored)
    exact order

/-- The scan depends only on the terms of the scanned versions and on which of
them are withdrawn. -/
theorem scan_congr {block : Block} {versions : List (BitVec w)}
    (terms : ∀ version ∈ versions, table'.terms version = table.terms version)
    (withdrawn : ∀ version ∈ versions,
      table'.Withdrawn block version ↔ table.Withdrawn block version) :
    table'.scan block versions = table.scan block versions := by
  induction versions with
  | nil => rfl
  | cons version older ih =>
      have olderEq := ih (fun other member => terms other (by simp [member]))
        (fun other member => withdrawn other (by simp [member]))
      simp only [scan, terms version (by simp), olderEq, withdrawn version (by simp)]

/-- No change made at the block `now` alters the answer for an earlier block. -/
theorem WellFormed.active_past (wellFormed : table.WellFormed now)
    (changed : Changed now table table') {block : Block} (past : block < now) :
    table'.active block = table.active block := by
  cases changed with
  | same => rfl
  | approve version terms next fresh dated forward =>
      have skipped : (table.approve version terms).active block =
          (table.approve version terms).scan block table.index.reverse := by
        simp only [active, VersionTable.approve, List.reverse_append, List.reverse_cons,
          List.reverse_nil, List.nil_append, List.cons_append, scan, if_true]
        rw [if_pos (Or.inr (dated ▸ past))]
      rw [skipped]
      refine scan_congr ?_ (fun _ _ => Iff.rfl)
      intro other member
      have known := (wellFormed.stored other).mpr (List.mem_reverse.mp member)
      have ne : other ≠ version := by
        rintro rfl
        exact known fresh
      simp [VersionTable.approve, ne]
  | revoke version fresh =>
      refine scan_congr (fun _ _ => rfl) ?_
      intro other _
      by_cases same : other = version
      · simp [Withdrawn, VersionTable.revoke, same, fresh, not_le.mpr past]
      · simp [Withdrawn, VersionTable.revoke, same]

end Changes

end VersionTable
