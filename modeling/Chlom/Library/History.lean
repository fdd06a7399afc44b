import Chlom.Library.Checked
import Chlom.Library.StorageMap

/-!
# Versioned histories in two storage maps

For each key one map holds the head, the number of the newest version, and the
other map holds the versions themselves.  Versions are numbered from one without
gaps, and each names the hash of the one before it.  A writer that checks a new
version only against the head keeps a whole history complete and linked, and
carries every transitive relation from neighbouring versions to arbitrary ones.
-/

namespace History

/-- How a record takes part in a history: the hash it names and the hash it carries. -/
class Revision (R : Type) (H : outParam Type) where
  previousHash : R → Option H
  recordHash : R → H

open Revision

variable {K R H : Type} {w : Nat} [Revision R H]

section Definitions

variable (heads : StorageMap K (BitVec w)) (versions : StorageMap (K × BitVec w) R)

/-- The version the head of a key points to. -/
def current (key : K) : Option R :=
  (heads.get key).bind fun head => versions.get (key, head)

/-- Every history is complete up to its head, and each version names the hash of
the one before it. -/
structure Linked : Prop where
  absent : ∀ {key}, heads.get key = none → ∀ version, versions.get (key, version) = none
  positive : ∀ {key head}, heads.get key = some head → 1 ≤ head.toNat
  stored : ∀ {key head}, heads.get key = some head → ∀ version,
    versions.get (key, version) ≠ none ↔ 1 ≤ version.toNat ∧ version.toNat ≤ head.toNat
  first : ∀ {key value}, versions.get (key, 1#w) = some value → previousHash value = none
  linked : ∀ {key version next value later}, versions.get (key, version) = some value →
    versions.get (key, next) = some later → next.toNat = version.toNat + 1 →
      previousHash later = some (recordHash value)

/-- A value comes next in the history of a key. -/
inductive Next (key : K) (version : BitVec w) (value : R) : Prop
  | first (fresh : heads.get key = none) (one : version = 1#w)
      (unlinked : previousHash value = none)
  | later (head : BitVec w) (prior : R) (headEq : heads.get key = some head)
      (priorEq : versions.get (key, head) = some prior)
      (successor : version.toNat = head.toNat + 1)
      (linked : previousHash value = some (recordHash prior))

/-- What a writer checks that takes the successor of the largest head to be that
head itself. -/
structure Accepts (key : K) (version : BitVec w) (value : R) : Prop where
  fresh : versions.get (key, version) = none
  first : heads.get key = none → version = 1#w ∧ previousHash value = none
  later : ∀ {head}, heads.get key = some head → version = Checked.saturatingAdd head 1#w ∧
    previousHash value = (versions.get (key, head)).map recordHash

/-- Each version carries its own number. -/
def Numbered (number : R → BitVec w) : Prop :=
  ∀ key version value, versions.get (key, version) = some value → number value = version

/-- Each version of a key is related to the one right after it. -/
def Adjacent (Rel : R → R → Prop) : Prop :=
  ∀ key version next value later, versions.get (key, version) = some value →
    versions.get (key, next) = some later → next.toNat = version.toNat + 1 → Rel value later

/-- An earlier version of a key is related to every later one. -/
def Related (Rel : R → R → Prop) : Prop :=
  ∀ key version next value later, versions.get (key, version) = some value →
    versions.get (key, next) = some later → version.toNat < next.toNat → Rel value later

end Definitions

section Linked

variable {heads : StorageMap K (BitVec w)} {versions : StorageMap (K × BitVec w) R} {key : K}
  {version : BitVec w} {value : R}

theorem linked_empty :
    Linked (.empty : StorageMap K (BitVec w)) (.empty : StorageMap (K × BitVec w) R) where
  absent _ _ := rfl
  positive found := by cases found
  stored found := by cases found
  first found := by cases found
  linked found := by cases found

/-- The head points to a stored version. -/
theorem Linked.exists_current (linked : Linked heads versions) {head : BitVec w}
    (headEq : heads.get key = some head) : ∃ prior, versions.get (key, head) = some prior := by
  have present := (linked.stored headEq head).mpr ⟨linked.positive headEq, le_rfl⟩
  exact Option.ne_none_iff_exists'.mp present

/-- A stored version belongs to a history that reaches it. -/
theorem Linked.exists_head (linked : Linked heads versions)
    (stored : versions.get (key, version) = some value) :
    ∃ head, heads.get key = some head ∧ 1 ≤ version.toNat ∧ version.toNat ≤ head.toNat := by
  cases headEq : heads.get key with
  | none => simp [linked.absent headEq] at stored
  | some head =>
      have present : versions.get (key, version) ≠ none := by simp [stored]
      exact ⟨head, rfl, (linked.stored headEq version).mp present⟩

theorem Next.positive (positive : 0 < w) (next : Next heads versions key version value) :
    1 ≤ version.toNat := by
  cases next with
  | first _ one => simp [one, BitVec.toNat_one positive]
  | later head prior _ _ successor => omega

/-- Everything stored under a key is numbered below the next version. -/
theorem Next.stored_lt (linked : Linked heads versions)
    (next : Next heads versions key version value) {found : BitVec w} {earlier : R}
    (stored : versions.get (key, found) = some earlier) : found.toNat < version.toNat := by
  obtain ⟨head, headEq, _, reached⟩ := linked.exists_head stored
  cases next with
  | first absent => simp [absent] at headEq
  | later last prior lastEq _ successor =>
      obtain rfl := Option.some.inj (headEq.symm.trans lastEq)
      omega

/-- A next version is not stored yet. -/
theorem Next.fresh (linked : Linked heads versions)
    (next : Next heads versions key version value) : versions.get (key, version) = none := by
  by_contra present
  obtain ⟨earlier, stored⟩ := Option.ne_none_iff_exists'.mp present
  exact lt_irrefl _ (next.stored_lt linked stored)

/-- A next version names the hash of the current one. -/
theorem Next.names (next : Next heads versions key version value) {prior : R}
    (currentEq : current heads versions key = some prior) :
    previousHash value = some (recordHash prior) := by
  cases next with
  | first absent => simp [current, absent] at currentEq
  | later head found headEq foundEq _ hash =>
      have same : prior = found := by simpa [current, headEq, foundEq, eq_comm] using currentEq
      rw [same]
      exact hash

/-- What a saturating writer accepts comes next, since the largest version is
already stored under the largest head. -/
theorem Accepts.next (linked : Linked heads versions) (positive : 0 < w)
    (accepts : Accepts heads versions key version value) :
    Next heads versions key version value := by
  cases headEq : heads.get key with
  | none =>
      obtain ⟨one, unlinked⟩ := accepts.first headEq
      exact .first headEq one unlinked
  | some head =>
      obtain ⟨saturated, hash⟩ := accepts.later headEq
      obtain ⟨prior, priorEq⟩ := linked.exists_current headEq
      rw [priorEq, Option.map_some] at hash
      have below : head ≠ BitVec.allOnes w := by
        rintro rfl
        rw [Checked.saturatingAdd_allOnes positive] at saturated
        have absent := accepts.fresh
        rw [saturated, priorEq] at absent
        cases absent
      have successor : version.toNat = head.toNat + 1 := by
        rw [saturated, Checked.saturatingAdd_one positive below,
          Checked.toNat_add_one positive below]
      exact .later head prior headEq priorEq successor hash

/-- Below the largest head, a saturating writer accepts the successor of the head
that names its hash. -/
theorem Linked.accepts_successor (linked : Linked heads versions) (positive : 0 < w)
    {head : BitVec w} {prior : R} (headEq : heads.get key = some head)
    (priorEq : versions.get (key, head) = some prior) (below : head ≠ BitVec.allOnes w)
    (names : previousHash value = some (recordHash prior)) :
    Accepts heads versions key (head + 1#w) value where
  fresh := by
    by_contra present
    have reached := ((linked.stored headEq (head + 1#w)).mp present).2
    rw [Checked.toNat_add_one positive below] at reached
    omega
  first absent := by simp [headEq] at absent
  later {last} lastEq := by
    obtain rfl := Option.some.inj (headEq.symm.trans lastEq)
    rw [Checked.saturatingAdd_one positive below, priorEq]
    exact ⟨rfl, names⟩

/-- A saturating writer accepts nothing more at the largest head. -/
theorem Linked.not_accepts (linked : Linked heads versions) (positive : 0 < w)
    (full : heads.get key = some (BitVec.allOnes w)) :
    ¬ Accepts heads versions key version value := by
  intro accepts
  cases accepts.next linked positive with
  | first absent => simp [full] at absent
  | later head prior headEq _ successor =>
      obtain rfl := Option.some.inj (full.symm.trans headEq)
      have bound := version.isLt
      rw [BitVec.toNat_allOnes] at successor
      omega

variable [DecidableEq K]

/-- The version a write of the next value stores is numbered as that value is. -/
theorem Numbered.append {number : R → BitVec w} (numbered : Numbered versions number)
    (own : number value = version) : Numbered (versions.insert (key, version) value) number := by
  intro other found stored present
  rcases StorageMap.get_insert_eq_some.mp present with ⟨same, rfl⟩ | ⟨_, before⟩
  · rw [own, (Prod.mk.inj same).2]
  · exact numbered other found stored before

/-- A relation that the head bears to the value written next holds between all
neighbours. -/
theorem Adjacent.append {Rel : R → R → Prop} (adjacent : Adjacent versions Rel)
    (linked : Linked heads versions) (next : Next heads versions key version value)
    (fits : ∀ {prior}, current heads versions key = some prior → Rel prior value) :
    Adjacent (versions.insert (key, version) value) Rel := by
  intro other found later earlierValue laterValue earlier present successive
  rcases StorageMap.get_insert_eq_some.mp present with ⟨same, rfl⟩ | ⟨_, laterBefore⟩
  · obtain ⟨rfl, rfl⟩ := Prod.mk.inj same
    have apart : (other, found) ≠ (other, later) := by
      rintro equal
      obtain rfl := (Prod.mk.inj equal).2
      omega
    rw [StorageMap.get_insert_of_ne _ _ apart] at earlier
    cases next with
    | first absent => simp [linked.absent absent] at earlier
    | later head prior headEq priorEq successor =>
        have sameHead : found = head := BitVec.eq_of_toNat_eq (by omega)
        rw [sameHead] at earlier
        apply fits
        simp [current, headEq, earlier]
  · rcases StorageMap.get_insert_eq_some.mp earlier with ⟨same, rfl⟩ | ⟨_, earlierBefore⟩
    · obtain ⟨rfl, rfl⟩ := Prod.mk.inj same
      have below := next.stored_lt linked laterBefore
      omega
    · exact adjacent _ _ _ _ _ earlierBefore laterBefore successive

/-- Appending the next value keeps all histories complete and linked. -/
theorem Linked.append (linked : Linked heads versions) (positive : 0 < w)
    (next : Next heads versions key version value) :
    Linked (heads.insert key version) (versions.insert (key, version) value) where
  absent {other} absent found := by
    rw [StorageMap.get_insert] at absent
    split at absent
    · cases absent
    · next different =>
        rw [StorageMap.get_insert_of_ne _ _ (by simp [different])]
        exact linked.absent absent found
  positive {other head} headEq := by
    rcases StorageMap.get_insert_eq_some.mp headEq with ⟨_, rfl⟩ | ⟨_, before⟩
    · exact next.positive positive
    · exact linked.positive before
  stored {other head} headEq found := by
    rcases StorageMap.get_insert_eq_some.mp headEq with ⟨rfl, rfl⟩ | ⟨different, before⟩
    · by_cases same : found = version
      · subst same
        simp [next.positive positive]
      · rw [StorageMap.get_insert_of_ne _ _ (by simp [same])]
        have apart : found.toNat ≠ version.toNat := fun equal => same (BitVec.eq_of_toNat_eq equal)
        cases next with
        | first absent one =>
            simp only [linked.absent absent found, ne_eq, not_true_eq_false, false_iff]
            rw [one, BitVec.toNat_one positive] at apart ⊢
            omega
        | later last prior lastEq _ successor =>
            rw [linked.stored lastEq found]
            omega
    · rw [StorageMap.get_insert_of_ne _ _ (by simp [different])]
      exact linked.stored before found
  first {other found} present := by
    rcases StorageMap.get_insert_eq_some.mp present with ⟨same, rfl⟩ | ⟨_, before⟩
    · cases next with
      | first _ _ unlinked => exact unlinked
      | later head prior headEq _ successor =>
          have one := congrArg BitVec.toNat (Prod.mk.inj same).2
          have reached := linked.positive headEq
          rw [BitVec.toNat_one positive] at one
          omega
    · exact linked.first before
  linked {other found later earlierValue laterValue} earlier present successive := by
    have adjacent : Adjacent versions fun one next => previousHash next = some (recordHash one) :=
      fun _ _ _ _ _ before after successor => linked.linked before after successor
    exact adjacent.append linked next next.names _ _ _ _ _ earlier present successive

omit [DecidableEq K] in
/-- A transitive relation between neighbours holds between all versions in order. -/
theorem Adjacent.related {Rel : R → R → Prop} (adjacent : Adjacent versions Rel)
    (linked : Linked heads versions)
    (transitive : ∀ {first second third}, Rel first second → Rel second third → Rel first third) :
    Related versions Rel := by
  intro other version next value later earlier present order
  obtain ⟨gap, gapEq⟩ := Nat.exists_eq_add_of_lt order
  -- the induction walks down from the later version, one stored version at a time
  induction gap generalizing next later with
  | zero => exact adjacent _ _ _ _ _ earlier present (by omega)
  | succ gap ih =>
      obtain ⟨head, headEq, _, reached⟩ := linked.exists_head present
      have positive := ((linked.exists_head earlier).choose_spec).2.1
      have bound := next.isLt
      have downNat : (BitVec.ofNat w (next.toNat - 1)).toNat = next.toNat - 1 := by
        rw [BitVec.toNat_ofNat]
        apply Nat.mod_eq_of_lt
        omega
      obtain ⟨middle, middleEq⟩ : ∃ middle,
          versions.get (other, BitVec.ofNat w (next.toNat - 1)) = some middle := by
        apply Option.ne_none_iff_exists'.mp
        apply (linked.stored headEq _).mpr
        omega
      have before := ih _ middle middleEq (by omega) (by omega)
      exact transitive before (adjacent _ _ _ _ _ middleEq present (by omega))

omit [Revision R H] [DecidableEq K] in
/-- An equivalence that holds between the versions in order holds between any two. -/
theorem Related.all {Rel : R → R → Prop} (related : Related versions Rel)
    (reflexive : ∀ found, Rel found found)
    (symmetric : ∀ {first second}, Rel first second → Rel second first)
    {other : BitVec w} {found : R} (stored : versions.get (key, version) = some value)
    (otherStored : versions.get (key, other) = some found) : Rel value found := by
  rcases lt_trichotomy version.toNat other.toNat with before | same | after
  · exact related _ _ _ _ _ stored otherStored before
  · obtain rfl := BitVec.eq_of_toNat_eq same
    obtain rfl := Option.some.inj (stored.symm.trans otherStored)
    exact reflexive value
  · exact symmetric (related _ _ _ _ _ otherStored stored after)

end Linked

/-! ## Writers -/

section Writers

variable [DecidableEq K] (number : R → BitVec w) (Rel : R → R → Prop)

/-- What a writer does to the two maps: nothing, or append one accepted value
under its own number that is related to the version before it. -/
inductive Change (heads : StorageMap K (BitVec w)) (versions : StorageMap (K × BitVec w) R) :
    StorageMap K (BitVec w) → StorageMap (K × BitVec w) R → Prop
  | unchanged : Change heads versions heads versions
  | append (key : K) (value : R) (accepts : Accepts heads versions key (number value) value)
      (fits : ∀ {prior}, current heads versions key = some prior → Rel prior value) :
      Change heads versions (heads.insert key (number value))
        (versions.insert (key, number value) value)

/-- Histories that are complete, linked, numbered and related throughout. -/
structure Sound (heads : StorageMap K (BitVec w)) (versions : StorageMap (K × BitVec w) R) :
    Prop where
  linked : Linked heads versions
  numbered : Numbered versions number
  adjacent : Adjacent versions Rel

omit [DecidableEq K] in
theorem sound_empty : Sound number Rel (.empty : StorageMap K (BitVec w)) .empty where
  linked := linked_empty
  numbered _ _ _ found := by cases found
  adjacent _ _ _ _ _ found := by cases found

variable {number Rel} {heads heads' : StorageMap K (BitVec w)}
  {versions versions' : StorageMap (K × BitVec w) R}

theorem Sound.change (sound : Sound number Rel heads versions) (positive : 0 < w)
    (change : Change number Rel heads versions heads' versions') :
    Sound number Rel heads' versions' := by
  cases change with
  | unchanged => exact sound
  | append key value accepts fits =>
      have next := accepts.next sound.linked positive
      exact
        { linked := sound.linked.append positive next
          numbered := sound.numbered.append rfl
          adjacent := sound.adjacent.append sound.linked next fits }

/-- No writer changes or removes a stored version. -/
theorem Change.kept (change : Change number Rel heads versions heads' versions')
    {entry : K × BitVec w} {value : R} (stored : versions.get entry = some value) :
    versions'.get entry = some value := by
  cases change with
  | unchanged => exact stored
  | append key value accepts => exact versions.get_insert_of_some _ accepts.fresh stored

end Writers

end History
