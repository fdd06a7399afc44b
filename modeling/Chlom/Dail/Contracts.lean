import Chlom.Dail.ColdContract
import Chlom.Snapshot.Contract

/-!
# The error contracts of the verifiers

Each verifier of untrusted material either returns or raises an error of its own kind, except
on the material that its fault describes.  A timestamp one hour east of Greenwich at the very
start of the calendar is such material.
-/

namespace Chlom.Dail

open Python Raises Snapshot

variable {F : Type} [FloatFormat F]

/-- The verification of a list of events, a restore from it, a restore from a cold export and
the verification of a snapshot keep to their errors exactly where they meet no fault. -/
theorem contracts_kept_iff {host : Interpreter} (sorts : host.Sorts) (now : DateTime)
    {events : List (Entries F)} (keys : ∀ entries ∈ events, Entries.StringKeys entries)
    (expectedHead expectedState : Value F) (form : ExportForm F)
    (expectedExport expectedExportHead : Value F) (file : File) (expectedSnapshot : Value F) :
    ((∃ report, verify host.toHost now (events.map .dict) = .ok report) ↔
        ¬ ∃ entries ∈ events, EventFault host.toHost now entries) ∧
      (Only IsRestoreError
          (restoreIsolated host.toHost now (.list (events.map .dict)) expectedHead expectedState) ↔
        ¬ ∃ entries ∈ events, EventFault host.toHost now entries) ∧
      (Only IsRestoreError
          (verifyColdExport host.toHost now form expectedExport expectedExportHead) ↔
        ¬ ∃ document, coerceExportDocument host.toHost form = .ok document ∧
          IsAnchor expectedExport ∧ IsAnchor expectedExportHead ∧
          ColdFault host.toHost now document) ∧
      (Only IsSnapshotError (verifySnapshot host file expectedSnapshot) ↔
        ¬ SnapshotFault host file expectedSnapshot) := by
  refine ⟨?_, restoreIsolated_only_iff sorts keys _ _, ?_, verifySnapshot_only_iff sorts⟩
  · rw [← verify_ends sorts keys]
    cases ran : verify host.toHost now (events.map .dict) with
    | ok report => exact iff_of_true ⟨report, rfl⟩ (fun ends => ends_ok.mp ends)
    | error error =>
        have uncaught := verify_only sorts keys error ran
        refine iff_of_false ?_ fun kept => kept (ends_error.mpr uncaught)
        rintro ⟨_, impossible⟩
        cases impossible
  · rw [only_iff_not_ends, verifyColdExport_ends]

/-! ## The start of the calendar -/

/-- The first hour of the calendar, one hour east of Greenwich. -/
def calendarStart : Str := lit "0001-01-01T00:00:00+01:00"

/-- A host that reads the timestamps it writes and the start of the calendar. -/
def eastHost : Interpreter where
  sha256 := sampleDigest
  fromisoformat text :=
    if text = calendarStart then
      some ⟨⟨1, 1, 1, by decide⟩, ⟨0, by decide⟩, some ⟨3600000000, by decide⟩⟩
    else DateTime.ofIsoText text
  decodeErrorText _ := lit "invalid JSON text"
  digitsErrorText _ := lit "Exceeds the limit (5000 digits) for integer string conversion"
  sortedText _ := .ok (lit "[...]")
  recursionLimit := 980
  digitLimit_least := by decide
  fromisoformat_isoText d := by
    have differs : d.isoText ++ lit "+00:00" ≠ calendarStart := by
      intro same
      have lengths := congrArg List.length same
      rw [List.length_append, DateTime.length_isoText] at lengths
      exact absurd lengths (by decide +kernel)
    rw [if_neg differs]
    exact DateTime.ofIsoText_isoText d _
  digitLimit := 5000
  unicodeErrorText _ := lit "invalid start byte"

theorem eastHost_sorts : eastHost.toHost.Sorts :=
  fun _ _ => ⟨_, rfl⟩

/-- An event of the first hour of the calendar. -/
def earlyEvent : Event ZeroFloat where
  schemaVersion := .str SCHEMA_VERSION
  sequence := .int 1
  eventId := .str (lit "evt-1")
  eventType := .str (lit "asset.registered.v1")
  entityType := .str (lit "asset")
  entityId := .str (lit "asset-001")
  entityVersion := .none
  actorDid := .none
  actorRef := .none
  payload := .dict []
  payloadJsonbText := .str (lit "\x7b\x7d")
  payloadSha256 := .str ZERO_HASH
  idempotencyKey := .str (lit "idem-1")
  requestSha256 := .str ZERO_HASH
  previousEventHash := .none
  eventHash := .str ZERO_HASH
  occurredAt := .str calendarStart

theorem stringKeys_earlyEvent : Entries.StringKeys earlyEvent.entries := by
  simp [Entries.StringKeys, Event.entries]

/-- What a computation raises, if it raises anything. -/
def raisedBy {ε α : Type} : Except ε α → Option ε
  | .ok _ => none
  | .error error => some error

theorem raisedBy_eq_some {ε α : Type} {computed : Except ε α} {error : ε} :
    raisedBy computed = some error ↔ computed = .error error := by
  cases computed <;> simp [raisedBy]

/-- The early event makes verification and a restore raise an overflow. -/
theorem early_event_escapes :
    ¬ ((∃ report, verify eastHost.toHost sampleEnv.now ([earlyEvent.entries].map .dict) =
          .ok report) ∧
        Only IsRestoreError (restoreIsolated eastHost.toHost sampleEnv.now
          (.list ([earlyEvent.entries].map .dict)) (.str ZERO_HASH) (.str ZERO_HASH))) ∧
      verify eastHost.toHost sampleEnv.now ([earlyEvent.entries].map .dict) =
        .error .overflowError ∧
      (raisedBy (restoreIsolated eastHost.toHost sampleEnv.now
        (.list ([earlyEvent.entries].map .dict)) (.str ZERO_HASH) (.str ZERO_HASH)) =
          some .overflowError) := by
  have verified : verify eastHost.toHost sampleEnv.now ([earlyEvent.entries].map .dict) =
      .error .overflowError := raisedBy_eq_some.mp (by decide +kernel)
  refine ⟨?_, verified, by decide +kernel⟩
  rintro ⟨⟨report, returned⟩, _⟩
  rw [verified] at returned
  cases returned

theorem contracts_kept_early :
    ((∃ report, verify eastHost.toHost sampleEnv.now ([earlyEvent.entries].map .dict) =
          .ok report) ↔
        ¬ ∃ entries ∈ [earlyEvent.entries], EventFault eastHost.toHost sampleEnv.now entries) ∧
      (Only IsSnapshotError (verifySnapshot eastHost (.ok []) (.str ZERO_HASH : Value ZeroFloat)) ↔
        ¬ SnapshotFault eastHost (.ok []) (.str ZERO_HASH : Value ZeroFloat)) := by
  have keys : ∀ entries ∈ [earlyEvent.entries], Entries.StringKeys entries :=
    List.forall_mem_singleton.mpr stringKeys_earlyEvent
  have kept := contracts_kept_iff eastHost_sorts sampleEnv.now keys (.str ZERO_HASH)
    (.str ZERO_HASH) (.value (.dict [])) (.str ZERO_HASH) (.str ZERO_HASH) (.ok [])
    (.str ZERO_HASH)
  exact ⟨kept.1, kept.2.2.2⟩

end Chlom.Dail
