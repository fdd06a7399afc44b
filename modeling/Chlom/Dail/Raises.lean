import Chlom.Dail.Ledger
import Chlom.Library.Raises

/-!
# What the helpers of the runtime raise

A helper that checks a field raises an error that begins with the name of the field, and
no helper but the reading of a timestamp raises an error that the runtime does not know.
-/

namespace Chlom.Dail

open Python Raises

variable {F : Type}

/-! ## Fields -/

/-- An invalid event that is reported under a name. -/
def Names (name : Str) (error : PyError) : Prop := ∃ rest, error = .invalidEvent (name ++ rest)

theorem names_append (name rest : Str) : Names name (.invalidEvent (name ++ rest)) :=
  ⟨rest, rfl⟩

theorem normalizeText_only (v : Value F) (field : String) (maximum : Nat) :
    Only (Names (lit field)) (normalizeText v field maximum) := by
  unfold normalizeText
  split
  · split
    · exact only_error.mpr (names_append _ _)
    · split
      · rw [List.append_assoc, List.append_assoc]
        exact only_error.mpr (names_append _ _)
      · exact .ok
  · exact only_error.mpr (names_append _ _)

theorem normalizeOptionalText_only (v : Value F) (field : String) (maximum : Nat) :
    Only (Names (lit field)) (normalizeOptionalText v field maximum) := by
  unfold normalizeOptionalText
  split
  · exact .ok
  · exact (normalizeText_only _ field maximum).map

theorem normalizeHashField_only (v : Value F) (field : String) (maximum : Nat) :
    Only (Names (lit field)) (normalizeHashField v field maximum) := by
  refine (normalizeText_only v field maximum).bind fun normalized => ?_
  split
  · exact only_error.mpr (names_append _ _)
  · exact .pure

theorem normalizeOptionalHashField_only (v : Value F) (field : String) (maximum : Nat) :
    Only (Names (lit field)) (normalizeOptionalHashField v field maximum) := by
  unfold normalizeOptionalHashField
  split
  · exact .ok
  · exact (normalizeHashField_only _ field maximum).map

theorem requireHash_only (v : Value F) (field : String) :
    Only (Names (lit field)) (requireHash v field false) := by
  simp only [requireHash, Bool.false_eq_true, if_false]
  split
  · split
    · exact .ok
    · exact only_error.mpr (names_append _ _)
  · exact only_error.mpr (names_append _ _)

/-- A failed restore. -/
def IsRestoreError (error : PyError) : Prop := ∃ errors, error = .restoreVerification errors

theorem requireHash_restore_only (v : Value F) (field : String) :
    Only IsRestoreError (requireHash v field true) := by
  simp only [requireHash, if_true]
  split
  · split
    · exact .ok
    · exact only_error.mpr ⟨_, rfl⟩
  · exact only_error.mpr ⟨_, rfl⟩

/-! ## Values and texts -/

theorem sha256Text_only (host : Host) (text : Str) : Only (Names (lit "text")) (sha256Text host text) := by
  unfold sha256Text
  split
  · exact .ok
  · exact only_error.mpr ⟨lit " is not valid UTF-8", rfl⟩

section Json

variable [FloatFormat F]

theorem validateItems_only {items : List (Value F)}
    (each : ∀ v ∈ items, ∀ path, Only (Names path) (validateJsonValue path v)) (path : Str)
    (index : Nat) : Only (Names path) (validateItems path index items) := by
  induction items generalizing index with
  | nil => exact .ok
  | cons v rest ih =>
      refine ((each v List.mem_cons_self _).mono ?_).bind fun _ => ?_
      · rintro _ ⟨suffix, rfl⟩
        rw [List.append_assoc, List.append_assoc, List.append_assoc]
        exact names_append _ _
      · exact ih (fun w member => each w (List.mem_cons_of_mem _ member)) (index + 1)

theorem validateEntries_only {entries : Entries F}
    (each : ∀ entry ∈ entries, ∀ path, Only (Names path) (validateJsonValue path entry.2))
    (path : Str) : Only (Names path) (validateEntries path entries) := by
  induction entries with
  | nil => exact .ok
  | cons entry rest ih =>
      obtain ⟨name, v⟩ := entry
      cases name with
      | str name =>
          refine ((each _ List.mem_cons_self _).mono ?_).bind fun _ => ?_
          · rintro _ ⟨suffix, rfl⟩
            rw [List.append_assoc, List.append_assoc]
            exact names_append _ _
          · exact ih fun other member => each other (List.mem_cons_of_mem _ member)
      | other name => exact only_error.mpr (names_append _ _)

/-- A value that is no JSON is reported under the path to it. -/
theorem validateJsonValue_only (path : Str) (v : Value F) :
    Only (Names path) (validateJsonValue path v) := by
  induction v using Value.induct generalizing path with
  | none | bool | int | str => exact .ok
  | float f =>
      unfold validateJsonValue
      split
      · exact .ok
      · exact only_error.mpr (names_append _ _)
  | list items ih =>
      rw [validateJsonValue]
      exact validateItems_only (fun v member path => ih v member path) path 0
  | dict entries ih =>
      rw [validateJsonValue]
      exact validateEntries_only (fun entry member path => ih entry member path) path
  | mapping name entries =>
      refine only_error.mpr ?_
      rw [List.append_assoc]
      exact names_append _ _
  | datetime d =>
      refine only_error.mpr ?_
      rw [List.append_assoc]
      exact names_append _ _
  | other name =>
      refine only_error.mpr ?_
      rw [List.append_assoc]
      exact names_append _ _

theorem canonicalJson_only (v : Value F) : Only (Names (lit "value")) (canonicalJson v) :=
  (validateJsonValue_only _ v).bind fun _ => .pure

theorem loadJsonNoDuplicates_only (host : Host) (v : Value F) :
    Only IsRestoreError (loadJsonNoDuplicates host v) := by
  unfold loadJsonNoDuplicates
  split
  · split
    · exact .ok
    · exact only_error.mpr ⟨_, rfl⟩
    · exact only_error.mpr ⟨_, rfl⟩
  · exact only_error.mpr ⟨_, rfl⟩

/-! ## Hashes -/

variable {P : PyError → Prop}

theorem hashJson_only (host : Host) (v : Value F)
    (named : ∀ name ∈ ["value", "text"], ∀ error, Names (lit name) error → P error) :
    Only P (hashJson host v) :=
  ((canonicalJson_only v).mono (named "value" (by simp))).bind fun text =>
    (sha256Text_only host text).mono (named "text" (by simp))

theorem requestHash_only (F : Type) [FloatFormat F] (host : Host) (fields : RequestFields)
    (named : ∀ name ∈ ["value", "text"], ∀ error, Names (lit name) error → P error) :
    Only P (requestHash F host fields) :=
  hashJson_only host _ named

/-- The names under which the hash of an event reports what it refuses. -/
def HASH_FIELDS : List String :=
  ["previous_event_hash", "event_id", "schema_version", "event_type", "entity_type", "entity_id",
    "entity_version", "actor_did", "actor_ref", "payload_sha256", "text"]

omit [FloatFormat F] in
theorem effectiveActor_only (actorDid actorRef : Value F)
    (named : ∀ name ∈ HASH_FIELDS, ∀ error, Names (lit name) error → P error) :
    Only P (effectiveActor actorDid actorRef) := by
  refine ((normalizeOptionalHashField_only actorDid _ _).mono
    (named "actor_did" (by simp [HASH_FIELDS]))).bind fun did => ?_
  cases did with
  | some did => exact .pure
  | none =>
      refine ((normalizeOptionalHashField_only actorRef _ _).mono
        (named "actor_ref" (by simp [HASH_FIELDS]))).bind fun _ => .pure

omit [FloatFormat F] in
theorem previousMarker_only (previous : Value F)
    (named : ∀ name ∈ HASH_FIELDS, ∀ error, Names (lit name) error → P error) :
    Only P (previousMarker previous) := by
  unfold previousMarker
  split
  · exact .ok
  · exact (requireHash_only _ _).mono (named "previous_event_hash" (by simp [HASH_FIELDS]))

omit [FloatFormat F] in
/-- What the checks of an event hash raise, given what its timestamp raises. -/
theorem eventHashText_only {host : Host} {now : DateTime} {fields : HashFields F}
    (named : ∀ name ∈ HASH_FIELDS, ∀ error, Names (lit name) error → P error)
    (timestamp : Only P (normalizeTimestamp host now fields.occurredAt)) :
    Only P (eventHashText host now fields) := by
  have field (v : Value F) (name : String) (maximum : Nat) (known : name ∈ HASH_FIELDS) :
      Only P (normalizeHashField v name maximum) :=
    (normalizeHashField_only v name maximum).mono (named name known)
  refine (previousMarker_only _ named).bind fun previous => ?_
  refine (field _ "event_id" _ (by simp [HASH_FIELDS])).bind fun eventId => ?_
  refine (field _ "schema_version" _ (by simp [HASH_FIELDS])).bind fun schemaVersion => ?_
  refine (field _ "event_type" _ (by simp [HASH_FIELDS])).bind fun eventType => ?_
  refine (field _ "entity_type" _ (by simp [HASH_FIELDS])).bind fun entityType => ?_
  refine (field _ "entity_id" _ (by simp [HASH_FIELDS])).bind fun entityId => ?_
  refine ((normalizeOptionalHashField_only _ _ _).mono
    (named "entity_version" (by simp [HASH_FIELDS]))).bind fun version => ?_
  refine (effectiveActor_only _ _ named).bind fun actor => ?_
  refine ((requireHash_only _ _).mono (named "payload_sha256" (by simp [HASH_FIELDS]))).bind
    fun payloadSha256 => ?_
  exact timestamp.bind fun occurredAt => .pure

omit [FloatFormat F] in
theorem productionEventHash_only {host : Host} {now : DateTime} {fields : HashFields F}
    (named : ∀ name ∈ HASH_FIELDS, ∀ error, Names (lit name) error → P error)
    (timestamp : Only P (normalizeTimestamp host now fields.occurredAt)) :
    Only P (productionEventHash host now fields) :=
  (eventHashText_only named timestamp).bind fun t =>
    (sha256Text_only host t.text).mono (named "text" (by simp [HASH_FIELDS]))

end Json

/-! ## Timestamps -/

/-- A timestamp with an offset whose time in UTC lies outside the calendar. -/
def Overflows (host : Host) (now : DateTime) (v : Value F) : Prop :=
  ∃ d offset, readTimestamp host now v = .ok d ∧ d.offset = some offset ∧ d.toUtc offset = none

theorem readTimestamp_only (host : Host) (now : DateTime) (v : Value F) :
    Only (Names (lit "timestamp")) (readTimestamp host now v) := by
  unfold readTimestamp
  split
  · exact .ok
  · exact .ok
  · split
    · exact .ok
    · exact only_error.mpr ⟨lit " must be valid RFC 3339", rfl⟩
  · exact only_error.mpr ⟨lit " must be a string, datetime, or None", rfl⟩

/-- A timestamp raises an unknown error exactly if it leaves the calendar. -/
theorem normalizeTimestamp_overflows {host : Host} {now : DateTime} {v : Value F} :
    normalizeTimestamp host now v = .error .overflowError ↔ Overflows host now v := by
  unfold normalizeTimestamp Overflows
  cases read : readTimestamp host now v with
  | error error =>
      obtain ⟨rest, rfl⟩ := readTimestamp_only host now v error read
      simp [bind, Except.bind]
  | ok d =>
      cases offsetEq : d.offset with
      | none => simp [bind, Except.bind, offsetEq]
      | some offset =>
          cases utcEq : d.toUtc offset with
          | none => simp [bind, Except.bind, offsetEq, utcEq]
          | some utc => simp [bind, Except.bind, offsetEq, utcEq, pure, Except.pure]

theorem normalizeTimestamp_only (host : Host) (now : DateTime) (v : Value F) :
    Only (fun error => Names (lit "timestamp") error ∨ error = .overflowError)
      (normalizeTimestamp host now v) := by
  refine ((readTimestamp_only host now v).mono fun _ => .inl).bind fun d => ?_
  split
  · exact only_error.mpr (.inl ⟨lit " must include a UTC offset", rfl⟩)
  · split
    · exact .pure
    · exact only_error.mpr (.inr rfl)

end Chlom.Dail
