import Chlom.Frame
import Chlom.Library.History
import Chlom.Primitives

/-!
# Pallets with versioned records

A pallet that keeps families of versioned records, with a head and a map of
versions for each family, and changes them only by appending.  Over every run
all histories stay complete and linked, bindings made by an early version hold
of the later ones, and stored versions stay as they are.
-/

namespace Chlom.Frame

variable {AccountId BlockNumber σ ε Call : Type}

/-- The check of a version against the head of its history: a first version is
numbered one and names no predecessor, a later one follows the head, whose
version it names and which passes a further check.  The successor of the largest
version is itself. -/
def ensureNextVersion {R : Type} (head : Option U32) (prior : σ → U32 → Option R)
    (recordHash : R → Id32) (version : U32) (previousRecordHash : Option Id32)
    (invalidVersion previousHashMismatch : ε) (also : R → Dispatch σ (DispatchError ε) Unit) :
    Dispatch σ (DispatchError ε) Unit :=
  match head with
  | none => ensure (version = 1 ∧ previousRecordHash.isNone) invalidVersion
  | some head => do
      ensure (version = Checked.saturatingAdd head 1) invalidVersion
      let prior ← okOr (← Dispatch.read fun s => prior s head) invalidVersion
      ensure (previousRecordHash = some (recordHash prior)) previousHashMismatch
      also prior

theorem ensureNextVersion_bind_ok {R : Type} {head : Option U32} {prior : σ → U32 → Option R}
    {recordHash : R → Id32} {version : U32} {previousRecordHash : Option Id32}
    {invalidVersion previousHashMismatch : ε} {also : R → Dispatch σ (DispatchError ε) Unit}
    [∀ found, Dispatch.ReadOnly (also found)] {next : Unit → Dispatch σ (DispatchError ε) Unit}
    {s s' : σ} :
    (ensureNextVersion head prior recordHash version previousRecordHash invalidVersion
      previousHashMismatch also >>= next) s = .ok () s' ↔
      ((head = none → version = 1 ∧ previousRecordHash = none) ∧
        ∀ last, head = some last → version = Checked.saturatingAdd last 1 ∧
          ∃ found, prior s last = some found ∧ previousRecordHash = some (recordHash found) ∧
            also found s = .ok () s) ∧ next () s = .ok () s' := by
  cases head with
  | none => simp [ensureNextVersion]
  | some last =>
      simp only [ensureNextVersion, bind_assoc, ensure_ok, and_true, Dispatch.read_bind,
        okOr_bind_ok, Dispatch.ReadOnly.bind_ok, reduceCtorEq, false_implies, true_and,
        Option.some.injEq, forall_eq']
      constructor
      · rintro ⟨successor, found, stored, named, checked, rest⟩
        exact ⟨⟨successor, found, stored, named, checked⟩, rest⟩
      · rintro ⟨⟨successor, found, stored, named, checked⟩, rest⟩
        exact ⟨successor, found, stored, named, checked, rest⟩

/-! ## Families of histories -/

variable {K R : Type} [History.Revision R Id32]

/-- A version that is not stored yet and passes the check is accepted. -/
theorem accepts_of_checked {heads : StorageMap K U32} {versions : StorageMap (K × U32) R} {key : K}
    {version : U32} {value : R} {Also : R → Prop}
    (absent : (versions.get (key, version)).isNone = true)
    (checked : (heads.get key = none → version = 1 ∧ History.Revision.previousHash value = none) ∧
      ∀ last, heads.get key = some last → version = Checked.saturatingAdd last 1 ∧
        ∃ found, versions.get (key, last) = some found ∧
          History.Revision.previousHash value = some (History.Revision.recordHash found) ∧
          Also found) :
    History.Accepts heads versions key version value where
  fresh := Option.isNone_iff_eq_none.mp absent
  first := checked.1
  later {head} headEq := by
    obtain ⟨successor, prior, priorEq, named, _⟩ := checked.2 head headEq
    rw [priorEq]
    exact ⟨successor, named⟩

variable [DecidableEq K]

/-- Every successful call appends to one history of a family or leaves the
family alone. -/
structure Family (pallet : Pallet AccountId BlockNumber σ ε Call) (heads : σ → StorageMap K U32)
    (versions : σ → StorageMap (K × U32) R) (number : R → U32) (Rel : R → R → Prop) : Prop where
  changed : ∀ {env : Env AccountId BlockNumber} {origin : RawOrigin AccountId} {call : Call}
    {s s' : σ}, pallet env origin call s = .ok () s' →
      History.Change number Rel (heads s) (versions s) (heads s') (versions s')

variable [LinearOrder BlockNumber] {pallet : Pallet AccountId BlockNumber σ ε Call}
  {heads : σ → StorageMap K U32} {versions : σ → StorageMap (K × U32) R} {number : R → U32}
  {Rel : R → R → Prop}

theorem Family.invariant (family : Family pallet heads versions number Rel) :
    Invariant pallet fun _ s => History.Sound number Rel (heads s) (versions s) where
  passes _ sound := sound
  keeps sound done := sound.change (by decide) (family.changed done)

/-- All histories of a family stay sound. -/
theorem Family.sound_run (family : Family pallet heads versions number Rel)
    (start : World BlockNumber σ)
    (sound : History.Sound number Rel (heads start.storage) (versions start.storage))
    (inputs : List (Input AccountId BlockNumber Call)) :
    History.Sound number Rel (heads (run pallet start inputs).storage)
      (versions (run pallet start inputs).storage) :=
  family.invariant.run sound inputs

/-- Stored versions of a family stay as they are. -/
theorem Family.kept_run (family : Family pallet heads versions number Rel)
    {start : World BlockNumber σ} {entry : K × U32} {value : R}
    (stored : (versions start.storage).get entry = some value)
    (later : List (Input AccountId BlockNumber Call)) :
    (versions (run pallet start later).storage).get entry = some value := by
  have always : Invariant pallet fun _ _ => True := ⟨fun _ _ => trivial, fun _ _ => trivial⟩
  exact always.lasts (P := fun s => (versions s).get entry = some value)
    (fun _ done before => (family.changed done).kept before) trivial stored later

/-- The law of one family in one state of the chain: its histories are complete,
linked and numbered, no later call changes or removes a stored version, and a
history at the largest head accepts no further call. -/
structure AppendOnly {A : Type} (pallet : Pallet AccountId BlockNumber σ ε Call)
    (heads : σ → StorageMap K U32) (versions : σ → StorageMap (K × U32) R) (number : R → U32)
    (append : K → A → Call) (w : World BlockNumber σ) : Prop where
  linked : History.Linked (heads w.storage) (versions w.storage)
  numbered : History.Numbered (versions w.storage) number
  kept : ∀ (later : List (Input AccountId BlockNumber Call)) (entry : K × U32) (value : R),
    (versions w.storage).get entry = some value →
      (versions (run pallet w later).storage).get entry = some value
  exhausted : ∀ (key : K), (heads w.storage).get key = some (BitVec.allOnes 32) →
    ∀ (env : Env AccountId BlockNumber) (origin : RawOrigin AccountId) (details : A) (s' : σ),
      pallet env origin (append key details) w.storage ≠ .ok () s'

/-- A family whose calls append to the history they name obeys the law in every
reachable state. -/
theorem Family.appendOnly {A : Type} {append : K → A → Call}
    (family : Family pallet heads versions number Rel)
    (appends : ∀ {env : Env AccountId BlockNumber} {origin : RawOrigin AccountId} {key : K}
      {details : A} {s s' : σ}, pallet env origin (append key details) s = .ok () s' →
        ∃ value, History.Accepts (heads s) (versions s) key (number value) value)
    (start : World BlockNumber σ)
    (sound : History.Sound number Rel (heads start.storage) (versions start.storage))
    (inputs : List (Input AccountId BlockNumber Call)) :
    AppendOnly pallet heads versions number append (run pallet start inputs) := by
  have reached := family.sound_run start sound inputs
  exact
    { linked := reached.linked
      numbered := reached.numbered
      kept := fun later entry value stored => family.kept_run stored later
      exhausted := by
        intro key full env origin details s' done
        obtain ⟨value, accepts⟩ := appends done
        exact reached.linked.not_accepts (by decide) full accepts }

end Chlom.Frame
