import Chlom.Dail.Escapes
import Chlom.Library.Python.JsonScanned
import Chlom.Snapshot.Functions

/-!
# What escapes the verification of a snapshot

A check of a snapshot raises nothing but a snapshot error, with three exceptions: a timestamp
that leaves the calendar on its way to UTC, an integrity state that cannot be hashed, and an
integer with more digits than the interpreter reads.  Verification raises something else
exactly if it reaches one of them.
-/

namespace Chlom.Snapshot

open Python Dail Raises

variable {F : Type}

/-! ## Checks of one value -/

def IsSnapshotError (failure : Failure) : Prop := ∃ message, failure = .snapshotError message

theorem isSnapshotError (message : Str) : IsSnapshotError (.snapshotError message) := ⟨message, rfl⟩

theorem ensure_only {condition : Prop} [Decidable condition] {message : Str} :
    Only IsSnapshotError (ensure condition message) := by
  unfold ensure
  split
  · exact .ok
  · exact only_error.mpr (isSnapshotError _)

theorem requireHash_only (value : Value F) (label : Str) (nullable : Bool) :
    Only IsSnapshotError (requireHash value label nullable) := by
  unfold requireHash
  split
  · exact .ok
  · split
    · exact .ok
    · exact only_error.mpr (isSnapshotError _)

theorem requireInteger_only (value : Value F) (label : Str) (minimum : Int) :
    Only IsSnapshotError (requireInteger value label minimum) := by
  unfold requireInteger
  dsimp only
  split
  · split
    · exact .ok
    · exact only_error.mpr (isSnapshotError _)
  · exact only_error.mpr (isSnapshotError _)

theorem requireObject_only (value : Value F) (message : Str) :
    Only IsSnapshotError (requireObject value message) := by
  unfold requireObject
  split
  · exact .ok
  · exact only_error.mpr (isSnapshotError _)

theorem requireArray_only (value : Value F) (message : Str) :
    Only IsSnapshotError (requireArray value message) := by
  unfold requireArray
  split
  · exact .ok
  · exact only_error.mpr (isSnapshotError _)

theorem requireRow_only (rows : List (Row F)) (sequenceId : Int) (message : Str) :
    Only IsSnapshotError (requireRow rows sequenceId message) := by
  unfold requireRow
  split
  · exact .ok
  · exact only_error.mpr (isSnapshotError _)

theorem requireObject_ok {value : Value F} {message : Str} {entries : Entries F}
    (required : requireObject value message = .ok entries) : value = .dict entries := by
  unfold requireObject at required
  split at required
  · cases required
    rfl
  · cases required

theorem requireArray_ok {value : Value F} {message : Str} {items : List (Value F)} :
    requireArray value message = .ok items ↔ value = .list items := by
  cases value <;> simp [requireArray]

/-- Every key inside the value is a string. -/
def Keyed (value : Value F) : Prop := value.AllKeys fun name => ∃ s, name = .str s

theorem Keyed.stringKeys {entries : Entries F} (keyed : Keyed (.dict entries)) :
    Entries.StringKeys entries :=
  fun _ member => (keyed.of_mem_entries member).1

theorem Keyed.getItem {entries : Entries F} (keyed : Keyed (.dict entries)) (name : String) :
    Keyed (getItem entries name) := by
  unfold Dail.getItem
  cases found : entries.lookup (key name) with
  | none => exact .atom nofun nofun
  | some v => exact (keyed.of_mem_entries (Entries.mem_of_lookup found)).2

theorem Keyed.items {items : List (Value F)} (keyed : Keyed (.list items)) :
    ∀ item ∈ items, Keyed item :=
  fun _ member => keyed.of_mem_items member

theorem Keyed.requireObject {value : Value F} {message : Str} {entries : Entries F}
    (keyed : Keyed value) (required : requireObject value message = .ok entries) :
    Keyed (.dict entries) :=
  requireObject_ok required ▸ keyed

/-- The keys that a message names can be sorted. -/
theorem requireExactKeys_only {host : Host} (sorts : host.Sorts) {value : Entries F}
    (keys : Entries.StringKeys value) {expected : List Key}
    (literals : ∀ name ∈ expected, ∃ s, name = .str s) (label : Str) :
    Only IsSnapshotError (requireExactKeys host value expected label) := by
  unfold requireExactKeys
  split
  · exact .ok
  · obtain ⟨missing, missingText⟩ := sorts (expected.filter fun name => name ∉ value.map Prod.fst)
      fun name member => literals name (List.mem_of_mem_filter member)
    obtain ⟨extra, extraText⟩ := sorts ((value.map Prod.fst).filter fun name => name ∉ expected)
      fun name member => by
        obtain ⟨entry, inside, rfl⟩ := List.mem_map.mp (List.mem_of_mem_filter member)
        exact keys entry inside
    rw [missingText, extraText]
    exact only_error.mpr (isSnapshotError _)

/-- A timestamp text with an offset whose time in UTC lies outside the calendar. -/
def Leaves (host : Host) (value : Value F) : Prop :=
  ∃ s parsed offset, value = .str s ∧ strip s ≠ [] ∧ Dail.parseTimestamp host s = some parsed ∧
    parsed.offset = some offset ∧ parsed.toUtc offset = none

/-- A timestamp raises something else exactly if it leaves the calendar. -/
theorem parseTimestamp_ends {host : Host} {value : Value F} {label : Str} :
    Ends (fun failure => ¬ IsSnapshotError failure) (parseTimestamp host value label) ↔
      Leaves host value := by
  unfold parseTimestamp Leaves
  cases value with
  | str s =>
      by_cases blank : strip s = []
      · simp [blank, IsSnapshotError]
      · cases parsedEq : Dail.parseTimestamp host s with
        | none => simp [blank, parsedEq, IsSnapshotError]
        | some parsed =>
            cases offsetEq : parsed.offset with
            | none => simp [blank, parsedEq, offsetEq, IsSnapshotError]
            | some offset =>
                cases utcEq : parsed.toUtc offset with
                | none => simp [blank, parsedEq, offsetEq, utcEq, IsSnapshotError]
                | some utc => simp [blank, parsedEq, offsetEq, utcEq]
  | _ => simp [IsSnapshotError]

/-- A value that cannot be hashed. -/
def Unhashable (value : Value F) : Prop :=
  (∃ items, value = .list items) ∨ ∃ entries, value = .dict entries

theorem checkIntegrityState_ends {state : Value F} :
    Ends (fun failure => ¬ IsSnapshotError failure) (checkIntegrityState state) ↔
      Unhashable state := by
  have passed : ∀ passing : Bool, ¬ Ends (fun failure => ¬ IsSnapshotError failure)
      (ensure (passing = true) (lit "source integrity state is not passing")) :=
    fun passing => (ensure_only.mono fun _ => not_not_intro).not_ends
  unfold checkIntegrityState
  rw [ends_bind]
  simp only [passed, and_false, exists_false, or_false]
  cases state <;> simp [memberOf, raising, Except.mapError, Unhashable, IsSnapshotError]

/-! ## The file and the source -/

section Stages

variable [FloatFormat F] {host : Interpreter}

/-- The file matches its anchor, but the reading of its text meets an integer with too many
digits. -/
def DigitsFault (F : Type) [FloatFormat F] (host : Interpreter) (file : File)
    (expectedSha256 : Value F) : Prop :=
  ∃ content text, file = .ok content ∧ expectedSha256 = .str (sha256 host.toHost content) ∧
    decodeUtf8 content = some text ∧
    loadsWith (Hooks.strict.limited host.digitLimit) (universalNewlines text) =
      (.error .digits : Except JsonError (Value F))

theorem loadDocument_ends {content : List UInt8} :
    Ends (fun failure => ¬ IsSnapshotError failure)
        (loadDocument host content : Except Failure (Value F)) ↔
      ∃ text, decodeUtf8 content = some text ∧
        loadsWith (Hooks.strict.limited host.digitLimit) (universalNewlines text) =
          (.error .digits : Except JsonError (Value F)) := by
  unfold loadDocument
  cases decoded : decodeUtf8 content with
  | none => simp [IsSnapshotError]
  | some text =>
      cases loaded : (loadsWith (Hooks.strict.limited host.digitLimit) (universalNewlines text) :
        Except JsonError (Value F)) with
      | ok document => simp [loaded]
      | error error => cases error <;> simp [loaded, IsSnapshotError]

theorem loadDocument_keyed {content : List UInt8} {document : Value F}
    (loaded : loadDocument host content = .ok document) : Keyed document := by
  unfold loadDocument at loaded
  split at loaded
  · cases loaded
  · dsimp only at loaded
    split at loaded
    · next found =>
        cases loaded
        exact allKeys_of_loadsWith_limited found
    · cases loaded
    · cases loaded
    · cases loaded

theorem readFile_only (file : File) : Only IsSnapshotError (readFile file) := by
  unfold readFile
  split
  · exact .ok
  · exact only_error.mpr (isSnapshotError _)

omit [FloatFormat F] in
theorem requireHash_anchor {value hash : Value F} {label : Str} :
    requireHash value label false = .ok hash ↔ value = hash ∧ isHashValue value = true := by
  unfold requireHash
  by_cases isHash : isHashValue value = true
  · simp [isHash]
  · simp [isHash]

theorem ensure_ok {condition : Prop} [Decidable condition] {message : Str} {result : Unit} :
    ensure condition message = .ok result ↔ condition := by
  unfold ensure
  split
  · next holds => simp [holds]
  · next fails => simp [fails]

theorem readFile_ok {file : File} {content : List UInt8} :
    readFile file = .ok content ↔ file = .ok content := by
  cases file <;> simp [readFile]

/-- A snapshot error is passed over. -/
theorem passed {α : Type} {computed : Except Failure α} (only : Only IsSnapshotError computed) :
    Only (fun failure => ¬ ¬ IsSnapshotError failure) computed :=
  only.mono fun _ => not_not_intro

theorem readSnapshot_ends {file : File} {expectedSha256 : Value F} :
    Ends (fun failure => ¬ IsSnapshotError failure) (readSnapshot host file expectedSha256) ↔
      DigitsFault F host file expectedSha256 := by
  have rest : ∀ (actualSha256 : Str) (document : Value F),
      ¬ Ends (fun failure => ¬ IsSnapshotError failure) (do
        let entries ← requireObject document (lit "snapshot root must be an object")
        return (actualSha256, entries)) := by
    intro actualSha256 document
    exact (passed ((requireObject_only _ _).bind fun _ => .pure)).not_ends
  unfold readSnapshot DigitsFault
  rw [ends_bind_of_only (passed (requireHash_only _ _ _))]
  simp only [ends_bind_of_only (passed (readFile_only _)), ends_bind_of_only (passed ensure_only),
    ends_bind, loadDocument_ends, rest, and_false, exists_false, or_false, requireHash_anchor,
    readFile_ok, ensure_ok, Value.pyEq_str]
  constructor
  · rintro ⟨_, ⟨rfl, _⟩, content, found, _, matched, text, decoded, loaded⟩
    exact ⟨content, text, found, matched, decoded, loaded⟩
  · rintro ⟨content, text, found, rfl, decoded, loaded⟩
    refine ⟨_, ⟨rfl, ?_⟩, content, found, (), rfl, text, decoded, loaded⟩
    exact decide_eq_true (isHash_hexText content)

theorem readSnapshot_keyed {file : File} {expectedSha256 : Value F} {actualSha256 : Str}
    {document : Entries F}
    (read : readSnapshot host file expectedSha256 = .ok (actualSha256, document)) :
    Keyed (.dict document) := by
  obtain ⟨hash, _, read⟩ := Results.bind_eq_ok.mp read
  obtain ⟨content, _, read⟩ := Results.bind_eq_ok.mp read
  obtain ⟨_, _, read⟩ := Results.bind_eq_ok.mp read
  obtain ⟨loaded, ranLoad, read⟩ := Results.bind_eq_ok.mp read
  obtain ⟨entries, ranObject, read⟩ := Results.bind_eq_ok.mp read
  cases read
  exact (loadDocument_keyed ranLoad).requireObject ranObject

end Stages

section Source

variable [FloatFormat F] {host : Host}

theorem literalKeys {names : List Key} (literals : names.all (fun name =>
    match name with
    | .str _ => true
    | .other _ => false) = true) : ∀ name ∈ names, ∃ s, name = .str s := by
  intro name member
  cases name with
  | str s => exact ⟨s, rfl⟩
  | other name => exact nomatch List.all_eq_true.mp literals _ member

theorem checkDeclaration_only (sorts : host.Sorts) {document : Entries F}
    (keyed : Keyed (.dict document)) : Only IsSnapshotError (checkDeclaration host document) := by
  refine (requireExactKeys_only sorts keyed.stringKeys (literalKeys rfl) _).bind fun _ => ?_
  refine ensure_only.bind fun _ => ensure_only.bind fun _ => ensure_only.bind fun _ => ?_
  refine (Only.forM fun field _ => ensure_only).bind fun _ => ?_
  refine (requireObject_only _ _).bind_of_ok fun source required => ?_
  have sourceKeyed := (keyed.getItem "source").requireObject required
  refine (requireExactKeys_only sorts sourceKeyed.stringKeys (literalKeys rfl) _).bind fun _ => ?_
  exact ensure_only.bind fun _ => .pure

omit [FloatFormat F] in
theorem readBounds_only (source : Entries F) (capturedAt headCreatedAt : DateTime) :
    Only IsSnapshotError (readBounds source capturedAt headCreatedAt) := by
  refine ensure_only.bind fun _ => (requireHash_only _ _ _).bind fun headHash => ?_
  refine (requireInteger_only _ _ _).bind fun eventCount => ?_
  refine (requireInteger_only _ _ _).bind fun minSequenceId => ?_
  refine (requireInteger_only _ _ _).bind fun maxSequenceId => ?_
  refine ensure_only.bind fun _ => ensure_only.bind fun _ => ?_
  refine (requireInteger_only _ _ _).bind fun _ => (requireInteger_only _ _ _).bind fun _ => ?_
  exact (requireInteger_only _ _ _).bind fun _ => ensure_only.bind fun _ => .pure

/-- A timestamp of the source leaves the calendar, or its integrity state cannot be hashed and
everything in front of it is accepted. -/
def SourceFault (host : Host) (source : Entries F) : Prop :=
  Leaves host (getItem source "captured_at") ∨
    ∃ capturedAt,
      parseTimestamp host (getItem source "captured_at") (lit "source captured_at") = .ok capturedAt ∧
      (Leaves host (getItem source "head_created_at") ∨
        ∃ headCreatedAt, parseTimestamp host (getItem source "head_created_at")
            (lit "source head_created_at") = .ok headCreatedAt ∧
          (∃ bounds, readBounds source capturedAt headCreatedAt = .ok bounds) ∧
          Unhashable (getItem source "integrity_state"))

omit [FloatFormat F] in
theorem checkSource_ends {source : Entries F} :
    Ends (fun failure => ¬ IsSnapshotError failure) (checkSource host source) ↔
      SourceFault host source := by
  unfold checkSource SourceFault
  simp only [ends_bind, parseTimestamp_ends, checkIntegrityState_ends,
    (passed (readBounds_only _ _ _)).not_ends, false_or, ends_pure, and_false, exists_false, or_false,
    exists_and_right]

end Source

/-! ## The events -/

section Rows

variable [FloatFormat F] {host : Host} {capturedAt : DateTime}

theorem checkEventRow_only (sorts : host.Sorts) {event : Value F} (keyed : Keyed event)
    (index : Nat) (walk : Walk F) : Only IsSnapshotError (checkEventRow host index walk event) := by
  refine (requireObject_only _ _).bind_of_ok fun entries required => ?_
  have keys := (keyed.requireObject required).stringKeys
  refine (requireExactKeys_only sorts keys (literalKeys rfl) _).bind fun _ => ?_
  refine (requireInteger_only _ _ _).bind fun sequenceId => ensure_only.bind fun _ => ?_
  refine ensure_only.bind fun _ => (requireHash_only _ _ _).bind fun _ => ?_
  exact (requireHash_only _ _ _).bind fun eventHash => .pure

/-- The event passes every check in front of its timestamp, which leaves the calendar. -/
def EventFault (host : Host) (index : Nat) (walk : Walk F) (event : Value F) : Prop :=
  ∃ entries sequenceId eventHash,
    checkEventRow host index walk event = .ok (entries, sequenceId, eventHash) ∧
      Leaves host (getItem entries "created_at")

theorem checkEvent_ends (sorts : host.Sorts) {event : Value F} (keyed : Keyed event) {index : Nat}
    {walk : Walk F} :
    Ends (fun failure => ¬ IsSnapshotError failure) (checkEvent host capturedAt index walk event) ↔
      EventFault host index walk event := by
  unfold checkEvent EventFault
  rw [ends_bind_of_only (passed (checkEventRow_only sorts keyed index walk))]
  simp only [ends_bind, parseTimestamp_ends, (passed ensure_only).not_ends, ends_pure, and_false,
    exists_false, or_false, Prod.exists]

/-- An event is at fault and every event before it is accepted. -/
def EventsFault (host : Host) (capturedAt : DateTime) (events : List (Value F)) : Prop :=
  ∃ before event after walk, events = before ++ event :: after ∧
    checkEvents host capturedAt before = .ok walk ∧ EventFault host before.length walk event

theorem checkEvents_ends (sorts : host.Sorts) {events : List (Value F)}
    (keyed : ∀ event ∈ events, Keyed event) :
    Ends (fun failure => ¬ IsSnapshotError failure) (checkEvents host capturedAt events) ↔
      EventsFault host capturedAt events := by
  rw [checkEvents, ends_runFrom]
  simp only [EventsFault, checkEvents, Nat.zero_add]
  refine exists_congr fun before => exists_congr fun event => exists_congr fun after => ?_
  refine exists_congr fun walk => and_congr_right fun split => and_congr_right fun _ => ?_
  exact checkEvent_ends sorts (keyed event (by simp [split]))

omit [FloatFormat F] in
theorem requireEvents_only (document : Entries F) (eventCount : Int) :
    Only IsSnapshotError (requireEvents document eventCount) :=
  (requireArray_only _ _).bind fun _ => ensure_only.bind fun _ => .pure

omit [FloatFormat F] in
theorem requireEvents_ok {document : Entries F} {eventCount : Int} {events : List (Value F)}
    (required : requireEvents document eventCount = .ok events) :
    getItem document "events" = .list events := by
  obtain ⟨items, ranArray, required⟩ := Results.bind_eq_ok.mp required
  obtain ⟨_, _, required⟩ := Results.bind_eq_ok.mp required
  cases required
  exact requireArray_ok.mp ranArray

theorem checkBoundary_only (walk : Walk F) (bounds : Bounds F) (headCreatedAt : DateTime) :
    Only IsSnapshotError (checkBoundary walk bounds headCreatedAt) :=
  ensure_only.bind fun _ => ensure_only.bind fun _ => ensure_only.bind fun _ => ensure_only

/-! ## The corrections -/

theorem checkCorrectionRow_only (sorts : host.Sorts) {correction : Value F}
    (keyed : Keyed correction) (rows : List (Row F)) (index : Nat) (seen : List Int) :
    Only IsSnapshotError (checkCorrectionRow host rows index seen correction) := by
  refine (requireObject_only _ _).bind_of_ok fun entries required => ?_
  have keys := (keyed.requireObject required).stringKeys
  refine (requireExactKeys_only sorts keys (literalKeys rfl) _).bind fun _ => ?_
  refine (requireInteger_only _ _ _).bind fun sequenceId => ensure_only.bind fun _ => ?_
  refine (requireRow_only _ _ _).bind fun row => ?_
  refine (Only.forM fun field _ => (requireHash_only _ _ _).bind fun _ => .pure).bind fun _ => ?_
  refine (requireHash_only _ _ _).bind fun _ => ensure_only.bind fun _ => ?_
  refine ensure_only.bind fun _ => ensure_only.bind fun _ => ensure_only.bind fun _ => ?_
  exact ensure_only.bind fun _ => .pure

/-- The correction passes every check in front of its timestamp, which leaves the calendar. -/
def CorrectionFault (host : Host) (rows : List (Row F)) (index : Nat) (seen : List Int)
    (correction : Value F) : Prop :=
  ∃ entries row, checkCorrectionRow host rows index seen correction = .ok (entries, row) ∧
    Leaves host (getItem entries "created_at")

theorem checkCorrection_ends (sorts : host.Sorts) {correction : Value F} (keyed : Keyed correction)
    {rows : List (Row F)} {index : Nat} {tally : Tally} :
    Ends (fun failure => ¬ IsSnapshotError failure)
        (checkCorrection host capturedAt rows index tally correction) ↔
      CorrectionFault host rows index tally.seen correction := by
  unfold checkCorrection CorrectionFault
  dsimp only
  rw [ends_bind_of_only (passed (checkCorrectionRow_only sorts keyed rows index tally.seen))]
  simp only [ends_bind, parseTimestamp_ends, (passed ensure_only).not_ends, ends_pure, and_false,
    exists_false, or_false, Prod.exists]

/-- A correction is at fault and every correction before it is accepted. -/
def CorrectionsFault (host : Host) (capturedAt : DateTime) (rows : List (Row F))
    (corrections : List (Value F)) : Prop :=
  ∃ before correction after tally, corrections = before ++ correction :: after ∧
    checkCorrections host capturedAt rows before = .ok tally ∧
      CorrectionFault host rows before.length tally.seen correction

theorem checkCorrections_ends (sorts : host.Sorts) {rows : List (Row F)}
    {corrections : List (Value F)} (keyed : ∀ correction ∈ corrections, Keyed correction) :
    Ends (fun failure => ¬ IsSnapshotError failure)
        (checkCorrections host capturedAt rows corrections) ↔
      CorrectionsFault host capturedAt rows corrections := by
  rw [checkCorrections, ends_runFrom]
  simp only [CorrectionsFault, checkCorrections, Nat.zero_add]
  refine exists_congr fun before => exists_congr fun correction => exists_congr fun after => ?_
  refine exists_congr fun tally => and_congr_right fun split => and_congr_right fun _ => ?_
  exact checkCorrection_ends sorts (keyed correction (by simp [split]))

/-- The events, or the corrections behind accepted events, are at fault. -/
def RowsFault (host : Host) (capturedAt headCreatedAt : DateTime) (bounds : Bounds F)
    (document : Entries F) : Prop :=
  ∃ events, requireEvents document bounds.eventCount = .ok events ∧
    (EventsFault host capturedAt events ∨
      ∃ walk, checkEvents host capturedAt events = .ok walk ∧
        checkBoundary walk bounds headCreatedAt = .ok () ∧
        ∃ corrections, getItem document "corrections" = .list corrections ∧
          CorrectionsFault host capturedAt walk.rows corrections)

theorem checkRows_ends (sorts : host.Sorts) {headCreatedAt : DateTime} {bounds : Bounds F}
    {document : Entries F} (keyed : Keyed (.dict document)) :
    Ends (fun failure => ¬ IsSnapshotError failure)
        (checkRows host capturedAt headCreatedAt bounds document) ↔
      RowsFault host capturedAt headCreatedAt bounds document := by
  have corrected : ∀ (walk : Walk F) (corrections : List (Value F)),
      getItem document "corrections" = .list corrections →
      (Ends (fun failure => ¬ IsSnapshotError failure) (do
        let tally ← checkCorrections host capturedAt walk.rows corrections
        return (corrections.length, tally)) ↔
        CorrectionsFault host capturedAt walk.rows corrections) := by
    intro walk corrections listed
    have items := (listed ▸ keyed.getItem "corrections").items
    simp only [ends_bind, ends_pure, and_false, exists_false, or_false,
      checkCorrections_ends sorts items]
  unfold checkRows RowsFault
  rw [ends_bind_of_only (passed (requireEvents_only _ _))]
  refine exists_congr fun events => and_congr_right fun required => ?_
  have items := (requireEvents_ok required ▸ keyed.getItem "events").items
  rw [ends_bind, checkEvents_ends sorts items]
  refine or_congr_right (exists_congr fun walk => and_congr_right fun _ => ?_)
  rw [ends_bind_of_only (passed (checkBoundary_only _ _ _))]
  rw [Unique.exists_iff]
  simp only [ends_bind_of_only (passed (requireArray_only _ _)), requireArray_ok]
  refine and_congr_right fun _ => exists_congr fun corrections => and_congr_right fun listed => ?_
  exact corrected walk corrections listed

/-! ## The whole snapshot -/

theorem checkClosing_only (document source : Entries F) (bounds : Bounds F) (active : Nat) :
    Only IsSnapshotError (checkClosing document source bounds active) :=
  ensure_only.bind fun _ => ensure_only.bind fun _ => ensure_only.bind fun _ => ensure_only

end Rows

/-- Reading the text, the source or the rows is at fault, and everything in front of it is
accepted. -/
def SnapshotFault [FloatFormat F] (host : Interpreter) (file : File) (expectedSha256 : Value F) :
    Prop :=
  DigitsFault F host file expectedSha256 ∨
    ∃ actualSha256 document source,
      readSnapshot host file expectedSha256 = .ok (actualSha256, document) ∧
      checkDeclaration host.toHost document = .ok source ∧
      (SourceFault host.toHost source ∨
        ∃ capturedAt headCreatedAt bounds,
          checkSource host.toHost source = .ok (capturedAt, headCreatedAt, bounds) ∧
          RowsFault host.toHost capturedAt headCreatedAt bounds document)

theorem verifySnapshot_ends [FloatFormat F] {host : Interpreter} (sorts : host.Sorts) {file : File}
    {expectedSha256 : Value F} :
    Ends (fun failure => ¬ IsSnapshotError failure) (verifySnapshot host file expectedSha256) ↔
      SnapshotFault host file expectedSha256 := by
  unfold verifySnapshot SnapshotFault
  rw [ends_bind, readSnapshot_ends]
  refine or_congr_right ?_
  rw [Prod.exists]
  refine exists_congr fun actualSha256 => exists_congr fun document => ?_
  rw [exists_and_left]
  refine and_congr_right fun read => ?_
  have keyed := readSnapshot_keyed read
  rw [ends_bind_of_only (passed (checkDeclaration_only sorts keyed))]
  refine exists_congr fun source => and_congr_right fun _ => ?_
  rw [ends_bind, checkSource_ends]
  simp only [Prod.exists, ends_bind, checkRows_ends sorts keyed,
    (passed (checkClosing_only _ _ _ _)).not_ends, ends_pure, and_false, exists_false, or_false]

/-- Verification of a snapshot raises something other than a snapshot error exactly if the
snapshot is at fault. -/
theorem verifySnapshot_only_iff [FloatFormat F] {host : Interpreter} (sorts : host.Sorts)
    {file : File} {expectedSha256 : Value F} :
    Only IsSnapshotError (verifySnapshot host file expectedSha256) ↔
      ¬ SnapshotFault host file expectedSha256 := by
  rw [only_iff_not_ends, verifySnapshot_ends sorts]

end Chlom.Snapshot
