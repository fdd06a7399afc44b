import Chlom.Dail.Writer

/-!
# Restoring a ledger

A list of events is restored after it was verified and compared with two anchors kept
elsewhere: the head hash and the digest of all fields.  The identifiers and keys are taken
from the events as they are stored.
-/

namespace Chlom.Dail

open Python Reports

variable {F : Type}

/-! ## The restored ledger -/

/-- The text of a field that verification found to be a string. -/
def fieldText : Value F → Str
  | .str s => s
  | _ => []

/-- The number of a field that verification found to be a position. -/
def fieldNumber : Value F → Nat
  | .int i => i.toNat
  | _ => 0

/-- Enter one event into the index. -/
def Ledger.enter (l : Ledger F) (e : Event F) : Ledger F :=
  { l with
    eventIds := setAdd l.eventIds (fieldText e.eventId)
    idempotency := dictSet l.idempotency (fieldText e.idempotencyKey)
      (fieldText e.requestSha256, fieldNumber e.sequence) }

/-- The ledger of a list of verified events. -/
def restored (items : List (Value F)) : Ledger F :=
  (items.filterMap Event.ofValue).foldl Ledger.enter
    { (Ledger.empty : Ledger F) with events := items.filterMap Event.ofValue }

section Restore

variable [FloatFormat F]

/-- The errors of an anchor that is no hash. -/
def PyError.restoreErrors : PyError → Option (List Str)
  | .restoreVerification errors => some errors
  | _ => none

/-- The error of a state that has no digest. -/
def PyError.stateErrors : PyError → Option (List Str)
  | .invalidEvent message => some [lit "restored full state is invalid: " ++ message]
  | _ => none

/-- The comparisons of a restored list with its anchors. -/
def checkAnchors (host : Host) (now : DateTime) (items : List (Value F))
    (expectedHeadHash expectedFullStateSha256 : Value F) : Dispatch (List Str) PyError Unit := do
  let verification ← Dispatch.ofExcept (verify host now items)
  reportAll verification.errors
  let anchoredHead ←
    recover (requireHash expectedHeadHash "expected_head_hash" true) PyError.restoreErrors []
  report (anchoredHead ≠ [] ∧ ¬ verification.headHash.pyEq (.str anchoredHead) = true)
    (lit "restored head_hash does not match expected_head_hash")
  let anchoredState ←
    recover (requireHash expectedFullStateSha256 "expected_full_state_sha256" true)
      PyError.restoreErrors []
  let restoredState ← recover (hashJson host (.list items)) PyError.stateErrors []
  report (anchoredState ≠ [] ∧ restoredState ≠ anchoredState)
    (lit "restored full_state_sha256 does not match expected_full_state_sha256")

/-- `restore_isolated`. -/
def restoreIsolated (host : Host) (now : DateTime)
    (events expectedHeadHash expectedFullStateSha256 : Value F) : Except PyError (Ledger F) :=
  match events with
  | .list items =>
      match checkAnchors host now items expectedHeadHash expectedFullStateSha256 [] with
      | .ok () [] => .ok (restored items)
      | .ok () errors => .error (.restoreVerification errors)
      | .error error _ => .error error
  | _ => .error (.restoreVerification [lit "events must be a sequence"])

/-! ## What is restored -/

variable {host : Host} {now : DateTime} {items : List (Value F)} {head state : Value F}

theorem isHash_headOf {shape : Value F → List Str → Prop} {readings : List Reading}
    (verified : Verified host now shape items readings) : IsHash (headOf readings) := by
  cases last : lastHash readings with
  | none =>
      rw [headOf, last]
      decide
  | some hash =>
      rw [headOf, last]
      exact verified.lastHash_isHash last

omit [FloatFormat F] in
theorem requireHash_speaks {v : Value F} {field : String} {error : PyError}
    (failed : requireHash v field true = .error error) :
    PyError.restoreErrors error ≠ some [] := by
  cases v with
  | str s =>
      by_cases good : IsHash s
      · simp [requireHash, good] at failed
      · simp only [requireHash, good, if_false, if_true, Except.error.injEq] at failed
        subst failed
        simp [PyError.restoreErrors]
  | _ =>
      simp only [requireHash, if_true, Except.error.injEq] at failed
      subst failed
      simp [PyError.restoreErrors]

omit [FloatFormat F] in
theorem silent_anchor {v : Value F} {field : String} {hash : Str} :
    Silent (recover (requireHash v field true) PyError.restoreErrors []) hash ↔
      v = .str hash ∧ IsHash hash := by
  rw [silent_recover fun error failed => requireHash_speaks failed, requireHash_ok]

theorem silent_stateHash {hash : Str} :
    Silent (recover (hashJson host (.list items)) PyError.stateErrors []) hash ↔
      hashJson host (.list items) = .ok hash := by
  refine silent_recover fun error _ => ?_
  cases error <;> simp [PyError.stateErrors]

theorem IsHash.ne_nil {hash : Str} (good : IsHash hash) : hash ≠ [] := by
  rintro rfl
  exact absurd good.1 (by decide)

/-- The comparisons find nothing exactly if the list is accepted and both anchors are its
own. -/
theorem silent_checkAnchors :
    Silent (checkAnchors host now items head state) () ↔
      ∃ readings, Verified host now CorrectionShape items readings ∧
        head = .str (headOf readings) ∧
        ∃ hash, hashJson host (.list items) = .ok hash ∧ state = .str hash := by
  simp only [checkAnchors, silent_bind, silent_report, silent_ofExcept, silent_reportAll,
    silent_anchor, silent_stateHash, not_and, not_not, Value.pyEq_str]
  constructor
  · rintro ⟨verification, ran, _, clean, anchoredHead, ⟨rfl, headGood⟩, _, headSame, anchoredState,
      ⟨rfl, stateGood⟩, restoredState, hashed, stateSame⟩
    have ok : verification.ok = true := by
      have computed := ran
      simp only [verify, Except.bind_ok, Except.pure_ok] at computed
      obtain ⟨pass, _, rfl⟩ := computed
      exact List.isEmpty_iff.mpr clean
    obtain ⟨readings, verified, rfl⟩ := verify_ok.mp ⟨ran, ok⟩
    have same := Value.str.inj (headSame headGood.ne_nil)
    rw [stateSame stateGood.ne_nil] at hashed
    exact ⟨readings, verified, by rw [same], anchoredState, hashed, rfl⟩
  · rintro ⟨readings, verified, rfl, hash, hashed, rfl⟩
    obtain ⟨ran, _⟩ := verify_ok.mpr ⟨readings, verified, rfl⟩
    exact ⟨_, ran, (), rfl, _, ⟨rfl, isHash_headOf verified⟩, (), fun _ => rfl, _,
      ⟨rfl, isHash_of_hashJson hashed⟩, hash, hashed, fun _ => rfl⟩

/-- A list is restored exactly if it is accepted and both anchors are its own. -/
theorem restoreIsolated_ok {l : Ledger F} :
    restoreIsolated host now (.list items) head state = .ok l ↔
      (∃ readings, Verified host now CorrectionShape items readings ∧
        head = .str (headOf readings) ∧
        ∃ hash, hashJson host (.list items) = .ok hash ∧ state = .str hash) ∧
      l = restored items := by
  rw [← silent_checkAnchors, restoreIsolated, Silent]
  cases checkAnchors host now items head state [] with
  | ok value errors =>
      cases errors with
      | nil => simp [eq_comm]
      | cons first rest => simp
  | error error errors => simp

/-! ## The restored index -/

/-- The identifier and the key of an event are stored without whitespace at their ends. -/
def Unpadded (value : Value F) : Prop :=
  ∀ e, Event.ofValue value = some e →
    stripped e.eventId = e.eventId ∧ stripped e.idempotencyKey = e.idempotencyKey

/-- The event stores its identifier and its key as they are normalized. -/
structure Keyed (e : Event F) (r : Reading) : Prop where
  eventId : e.eventId = .str r.identity.eventId
  idempotencyKey : e.idempotencyKey = .str r.identity.idempotencyKey

omit [FloatFormat F] in
theorem StoredAs.keyed {e : Event F} {r : Reading} (stored : StoredAs e r) : Keyed e r :=
  ⟨stored.eventId, stored.idempotencyKey⟩

variable {shape : Value F → List Str → Prop} {readings : List Reading}

/-- The dictionaries of an accepted list are its events. -/
theorem Verified.toValue (verified : Verified host now shape items readings) :
    Verified host now shape ((items.filterMap Event.ofValue).map Event.toValue) readings := by
  induction verified with
  | nil => exact .nil
  | @snoc events readings value e r before event reads fresh keyFresh correction ih =>
      have lengths := ih.length.trans before.length.symm
      simp only [List.filterMap_append, List.map_append, List.filterMap_cons, List.filterMap_nil,
        event, List.map_cons, List.map_nil]
      refine .snoc ih (Event.ofValue_toValue e) ?_ fresh keyFresh correction
      rwa [lengths]

/-- Events without padding store their identifiers and keys normalized. -/
theorem Verified.keyed (verified : Verified host now shape items readings)
    (unpadded : ∀ value ∈ items, Unpadded value) :
    List.Forall₂ Keyed (items.filterMap Event.ofValue) readings := by
  induction verified with
  | nil => exact .nil
  | @snoc events readings value e r before event reads fresh keyFresh correction ih =>
      obtain ⟨idPlain, keyPlain⟩ := unpadded value (by simp) e event
      have keyed : Keyed e r :=
        ⟨idPlain.symm.trans (stripped_of_normalizeText reads.identity.eventId),
          keyPlain.symm.trans (stripped_of_normalizeText reads.identity.idempotencyKey)⟩
      simp only [List.filterMap_append, List.filterMap_cons, List.filterMap_nil, event]
      exact List.rel_append (ih fun v member => unpadded v (by simp [member])) (.cons keyed .nil)

/-- Entering the events of an accepted list gives the index that the log says. -/
theorem Verified.foldl_enter (verified : Verified host now shape items readings)
    (keyed : List.Forall₂ Keyed (items.filterMap Event.ofValue) readings)
    (all : List (Event F)) :
    (items.filterMap Event.ofValue).foldl Ledger.enter ⟨all, [], []⟩ =
      ⟨all, bindingsOf readings, eventIdsOf readings⟩ := by
  induction verified with
  | nil => rfl
  | @snoc events readings value e r before event reads fresh keyFresh correction ih =>
      simp only [List.filterMap_append, List.filterMap_cons, List.filterMap_nil, event] at keyed ⊢
      have lengths : (events.filterMap Event.ofValue).length = readings.length := by
        have whole := keyed.length_eq
        simpa using whole
      have keyedBefore : List.Forall₂ Keyed (events.filterMap Event.ofValue) readings := by
        have front := List.forall₂_take readings.length keyed
        rwa [List.take_left' lengths, List.take_left] at front
      have last : Keyed e r := by
        have back := List.forall₂_drop readings.length keyed
        rw [List.drop_left' lengths, List.drop_left] at back
        exact (List.forall₂_cons.mp back).1
      rw [List.foldl_append, ih keyedBefore]
      rw [List.foldl_cons, List.foldl_nil, Ledger.enter, last.eventId, last.idempotencyKey,
        reads.requestSha256, reads.sequence]
      simp only [fieldText, fieldNumber, Int.toNat_natCast, before.length]
      rw [setAdd_of_not_mem fresh, eventIdsOf_append_singleton, bindingsOf_append_singleton,
        dictSet_of_not_mem (by rwa [map_fst_bindingsOf])]

end Restore

end Chlom.Dail
