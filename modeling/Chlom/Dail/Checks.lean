import Chlom.Dail.Runtime
import Chlom.Library.Python.JsonUnicode

/-!
# What the checks of the DAIL runtime establish

Each helper is characterized once: when it succeeds and what it returns.  What it
returns passes the same check again, which is why a verifier that repeats the checks
of the writer accepts what the writer stored.
-/

namespace Chlom.Dail

open Python

variable {F : Type}

/-! ## Success of a sequence -/

theorem Except.bind_ok {ε α β : Type} {first : Except ε α} {next : α → Except ε β} {result : β} :
    (first >>= next) = .ok result ↔ ∃ value, first = .ok value ∧ next value = .ok result := by
  cases first <;> simp [bind, Except.bind]

@[simp]
theorem Except.pure_ok {ε α : Type} {value result : α} :
    (pure value : Except ε α) = .ok result ↔ value = result := by
  simp [pure, Except.pure]

theorem Except.map_ok {ε α β : Type} {f : α → β} {computed : Except ε α} {result : β} :
    f <$> computed = .ok result ↔ ∃ value, computed = .ok value ∧ f value = result := by
  cases computed <;> simp [Functor.map, Except.map]

/-! ## JSON -/

section Json

variable [FloatFormat F]

theorem validateItems_ok {items : List (Value F)}
    (each : ∀ v ∈ items, ∀ path, validateJsonValue path v = .ok () ↔ v.IsJson) {path : Str}
    {index : Nat} : validateItems path index items = .ok () ↔ ∀ v ∈ items, v.IsJson := by
  induction items generalizing index with
  | nil => simp [validateItems]
  | cons v rest ih =>
      have head := each v List.mem_cons_self
      have tail : ∀ {index : Nat}, validateItems path index rest = .ok () ↔ ∀ v ∈ rest, v.IsJson :=
        fun {_} => ih fun w member => each w (List.mem_cons_of_mem _ member)
      simp [validateItems, Except.bind_ok, head, tail]

theorem validateEntries_ok {entries : Entries F}
    (each : ∀ entry ∈ entries, ∀ path, validateJsonValue path entry.2 = .ok () ↔ entry.2.IsJson)
    {path : Str} :
    validateEntries path entries = .ok () ↔
      Entries.StringKeys entries ∧ ∀ entry ∈ entries, entry.2.IsJson := by
  induction entries with
  | nil => simp [validateEntries, Entries.StringKeys]
  | cons entry rest ih =>
      obtain ⟨name, v⟩ := entry
      have head := each (name, v) List.mem_cons_self
      have tail := ih fun other member => each other (List.mem_cons_of_mem _ member)
      cases name with
      | other name => simp [validateEntries, Entries.StringKeys]
      | str name =>
          simp only [validateEntries, Except.bind_ok, head, tail, Entries.StringKeys,
            List.forall_mem_cons]
          constructor
          · rintro ⟨_, json, keys, all⟩
            exact ⟨⟨⟨name, rfl⟩, keys⟩, json, all⟩
          · rintro ⟨⟨_, keys⟩, json, all⟩
            exact ⟨(), json, keys, all⟩

/-- A value passes validation exactly if JSON can express it. -/
theorem validateJsonValue_ok {v : Value F} {path : Str} :
    validateJsonValue path v = .ok () ↔ v.IsJson := by
  induction v using Value.induct generalizing path with
  | none => exact ⟨fun _ => .none, fun _ => rfl⟩
  | bool b => exact ⟨fun _ => .bool b, fun _ => rfl⟩
  | int i => exact ⟨fun _ => .int i, fun _ => rfl⟩
  | str s => exact ⟨fun _ => .str s, fun _ => rfl⟩
  | float f =>
      constructor
      · intro valid
        by_cases finite : FloatFormat.isFinite f = true
        · exact .float finite
        · simp [validateJsonValue, finite] at valid
      · rintro (_ | _ | _ | finite)
        simp [validateJsonValue, finite]
  | list items ih =>
      rw [validateJsonValue, validateItems_ok fun v member _ => ih v member]
      constructor
      · exact .list
      · rintro (_ | _ | _ | _ | _ | all)
        exact all
  | dict entries ih =>
      rw [validateJsonValue, validateEntries_ok fun entry member _ => ih entry member]
      constructor
      · rintro ⟨keys, all⟩
        exact .dict keys all
      · rintro (_ | _ | _ | _ | _ | _ | ⟨keys, all⟩)
        exact ⟨keys, all⟩
  | mapping name entries => exact ⟨nofun, nofun⟩
  | datetime d => exact ⟨nofun, nofun⟩
  | other name => exact ⟨nofun, nofun⟩

theorem canonicalJson_ok {v : Value F} {text : Str} :
    canonicalJson v = .ok text ↔ v.IsJson ∧ dumps [] (sortKeys v) = text := by
  simp only [canonicalJson, Except.bind_ok, Except.pure_ok]
  exact ⟨fun ⟨_, valid, spelled⟩ => ⟨validateJsonValue_ok.mp valid, spelled⟩,
    fun ⟨json, spelled⟩ => ⟨(), validateJsonValue_ok.mpr json, spelled⟩⟩

theorem blank_nil : ∀ c ∈ ([] : Str), isJsonSpace c = true := by
  simp

/-- A value within the limits of the interpreter. -/
structure Within (host : Host) (v : Value F) : Prop where
  depth : v.depth ≤ host.recursionLimit
  fits : v.fits host.digitLimit = true

/-- A value is cloned if it is JSON within the limits, and its clone has the items in order. -/
theorem jsonClone_ok {host : Host} {v clone : Value F} (wellFormed : v.WellFormed) :
    jsonClone host v = .ok clone ↔ v.IsJson ∧ Within host v ∧ clone = sortKeys v := by
  simp only [jsonClone, Except.bind_ok, canonicalJson_ok]
  constructor
  · rintro ⟨text, ⟨json, rfl⟩, ran⟩
    split at ran
    · cases ran
    next shallow =>
    split at ran
    · cases ran
    next short =>
    have fits : v.fits host.digitLimit = true := by simpa using short
    rw [loadsWith_dumps_sortKeys (Hooks.standard_faithful.limited host.digitLimit) blank_nil json
      wellFormed fits] at ran
    exact ⟨json, ⟨Nat.not_lt.mp shallow, fits⟩, (Except.ok.inj ran).symm⟩
  · rintro ⟨json, ⟨shallow, fits⟩, rfl⟩
    refine ⟨_, ⟨json, rfl⟩, ?_⟩
    rw [if_neg (Nat.not_lt.mpr shallow), if_neg (by simp [fits]), loadsWith_dumps_sortKeys
      (Hooks.standard_faithful.limited host.digitLimit) blank_nil json wellFormed fits]
    rfl

end Json

/-! ## Digests -/

theorem sha256Text_ok {host : Host} {text hash : Str} :
    sha256Text host text = .ok hash ↔
      ∃ encoded, encodeUtf8 text = some encoded ∧ hexText (host.sha256 encoded).toList = hash := by
  unfold sha256Text
  cases encodeUtf8 text with
  | none => simp
  | some encoded => simp

theorem isHash_hexText {host : Host} (encoded : List UInt8) :
    IsHash (hexText (host.sha256 encoded).toList) := by
  refine ⟨by simp, ?_⟩
  rw [List.all_eq_true]
  exact fun c member => isLowerHex_of_mem_hexText member

theorem isHash_of_sha256Text {host : Host} {text hash : Str} (hashed : sha256Text host text = .ok hash) :
    IsHash hash := by
  obtain ⟨encoded, _, rfl⟩ := sha256Text_ok.mp hashed
  exact isHash_hexText encoded

theorem requireHash_ok {v : Value F} {field : String} {restore : Bool} {hash : Str} :
    requireHash v field restore = .ok hash ↔ v = .str hash ∧ IsHash hash := by
  cases v with
  | str s =>
      by_cases good : IsHash s
      · simp only [requireHash, good, if_true, Except.ok.injEq, Value.str.injEq]
        constructor
        · rintro rfl
          exact ⟨rfl, good⟩
        · exact fun ⟨same, _⟩ => same
      · simp only [requireHash, good, if_false, reduceCtorEq, Value.str.injEq, false_iff, not_and]
        rintro rfl
        exact good
  | _ => simp [requireHash]

section HashJson

variable [FloatFormat F] {host : Host} {v : Value F}

theorem hashJson_ok {hash : Str} :
    hashJson host v = .ok hash ↔
      v.IsJson ∧ sha256Text host (dumps [] (sortKeys v)) = .ok hash := by
  simp only [hashJson, Except.bind_ok, canonicalJson_ok]
  exact ⟨fun ⟨_, ⟨json, spelled⟩, hashed⟩ => ⟨json, spelled ▸ hashed⟩,
    fun ⟨json, hashed⟩ => ⟨_, ⟨json, rfl⟩, hashed⟩⟩

/-- A JSON value whose strings have a UTF-8 form has a digest. -/
theorem exists_hashJson (host : Host) (json : v.IsJson) (unicode : v.Unicode) :
    ∃ hash, hashJson host v = .ok hash := by
  have scalars := scalars_dumps scalars_nil (sortKeys_isJson json) (sortKeys_unicode unicode)
  obtain ⟨encoded, encodes⟩ := exists_encodeUtf8.mpr scalars
  exact ⟨_, hashJson_ok.mpr ⟨json, sha256Text_ok.mpr ⟨encoded, encodes, rfl⟩⟩⟩

theorem isHash_of_hashJson {hash : Str} (hashed : hashJson host v = .ok hash) : IsHash hash :=
  isHash_of_sha256Text (hashJson_ok.mp hashed).2

end HashJson

/-! ## Normalized texts -/

/-- A text that normalization leaves as it is. -/
structure IsNormal (maximum : Nat) (s : Str) : Prop where
  stripped : strip s = s
  nonempty : s ≠ []
  bounded : s.length ≤ maximum

theorem normalizeText_ok {v : Value F} {field : String} {maximum : Nat} {s : Str} :
    normalizeText v field maximum = .ok s ↔
      ∃ raw, v = .str raw ∧ strip raw = s ∧ IsNormal maximum s := by
  cases v with
  | str raw =>
      simp only [normalizeText, Value.str.injEq]
      by_cases empty : strip raw = []
      · simp only [empty, if_true, reduceCtorEq, false_iff, not_exists, not_and]
        rintro _ rfl stripped normal
        exact normal.nonempty (stripped.symm.trans empty)
      · by_cases long : maximum < (strip raw).length
        · simp only [empty, if_false, long, if_true, reduceCtorEq, false_iff, not_exists, not_and]
          rintro _ rfl rfl normal
          exact absurd normal.bounded (by omega)
        · simp only [empty, if_false, long, Except.ok.injEq]
          constructor
          · rintro rfl
            exact ⟨raw, rfl, rfl, strip_strip raw, empty, by omega⟩
          · rintro ⟨_, rfl, same, _⟩
            exact same
  | _ => simp [normalizeText]

theorem isNormal_of_normalizeText {v : Value F} {field : String} {maximum : Nat} {s : Str}
    (normalized : normalizeText v field maximum = .ok s) : IsNormal maximum s := by
  obtain ⟨_, _, _, normal⟩ := normalizeText_ok.mp normalized
  exact normal

/-- A stored text without the whitespace at its ends. -/
def stripped : Value F → Value F
  | .str s => .str (strip s)
  | v => v

theorem stripped_of_normalizeText {v : Value F} {field : String} {maximum : Nat} {s : Str}
    (normalized : normalizeText v field maximum = .ok s) : stripped v = .str s := by
  obtain ⟨raw, rfl, rfl, _⟩ := normalizeText_ok.mp normalized
  rfl

theorem IsNormal.normalizeText {maximum : Nat} {s : Str} (normal : IsNormal maximum s)
    (field : String) : normalizeText (.str s : Value F) field maximum = .ok s :=
  normalizeText_ok.mpr ⟨s, rfl, normal.stripped, normal⟩

theorem IsNormal.stripped_str {maximum : Nat} {s : Str} (normal : IsNormal maximum s) :
    Dail.stripped (.str s : Value F) = .str s :=
  congrArg Value.str normal.stripped

/-- An optional text that normalization leaves as it is. -/
def OptionalNormal (maximum : Nat) (o : Option Str) : Prop := ∀ s, o = some s → IsNormal maximum s

theorem normalizeOptionalText_ok {v : Value F} {field : String} {maximum : Nat} {o : Option Str} :
    normalizeOptionalText v field maximum = .ok o ↔
      (v = .none ∧ o = none) ∨ ∃ s, o = some s ∧ normalizeText v field maximum = .ok s := by
  cases v with
  | none => simp [normalizeOptionalText, normalizeText, eq_comm]
  | _ =>
      simp only [normalizeOptionalText, Except.map_ok, reduceCtorEq, false_and, false_or]
      exact ⟨fun ⟨s, found, same⟩ => ⟨s, same.symm, found⟩,
        fun ⟨s, same, found⟩ => ⟨s, found, same.symm⟩⟩

theorem optionalNormal_of_normalizeOptionalText {v : Value F} {field : String} {maximum : Nat}
    {o : Option Str} (normalized : normalizeOptionalText v field maximum = .ok o) :
    OptionalNormal maximum o := by
  rintro s rfl
  rcases normalizeOptionalText_ok.mp normalized with ⟨_, absent⟩ | ⟨_, same, found⟩
  · cases absent
  · obtain rfl := Option.some.inj same
    exact isNormal_of_normalizeText found

theorem OptionalNormal.normalizeOptionalText {maximum : Nat} {o : Option Str}
    (normal : OptionalNormal maximum o) (field : String) :
    normalizeOptionalText (optional o : Value F) field maximum = .ok o := by
  cases o with
  | none => rfl
  | some s => exact normalizeOptionalText_ok.mpr (.inr ⟨s, rfl, (normal s rfl).normalizeText field⟩)

theorem normalizeHashField_ok {v : Value F} {field : String} {maximum : Nat} {s : Str} :
    normalizeHashField v field maximum = .ok s ↔
      normalizeText v field maximum = .ok s ∧ point '|' ∉ s := by
  simp only [normalizeHashField, Except.bind_ok]
  constructor
  · rintro ⟨normalized, found, checked⟩
    by_cases delimiter : point '|' ∈ normalized
    · simp [delimiter] at checked
    · simp only [delimiter, if_false, Except.pure_ok] at checked
      subst checked
      exact ⟨found, delimiter⟩
  · rintro ⟨found, clean⟩
    exact ⟨s, found, by simp [clean]⟩

theorem normalizeOptionalHashField_ok {v : Value F} {field : String} {maximum : Nat}
    {o : Option Str} :
    normalizeOptionalHashField v field maximum = .ok o ↔
      normalizeOptionalText v field maximum = .ok o ∧ ∀ s, o = some s → point '|' ∉ s := by
  cases v with
  | none =>
      simp only [normalizeOptionalHashField, normalizeOptionalText, Except.ok.injEq]
      constructor
      · rintro rfl
        exact ⟨rfl, nofun⟩
      · exact fun ⟨same, _⟩ => same
  | _ =>
      simp only [normalizeOptionalHashField, normalizeOptionalText, Except.map_ok,
        normalizeHashField_ok]
      constructor
      · rintro ⟨s, ⟨found, clean⟩, rfl⟩
        refine ⟨⟨s, found, rfl⟩, ?_⟩
        rintro _ same
        obtain rfl := Option.some.inj same
        exact clean
      · rintro ⟨⟨s, found, rfl⟩, clean⟩
        exact ⟨s, ⟨found, clean s rfl⟩, rfl⟩

/-! ## Timestamps -/

theorem normalizeTimestamp_text {host : Host} {now : DateTime} {v : Value F} {t : Str}
    (normalized : normalizeTimestamp host now v = .ok t) :
    ∃ d : DateTime, t = timestampText d := by
  simp only [normalizeTimestamp, Except.bind_ok] at normalized
  obtain ⟨parsed, _, moved⟩ := normalized
  cases offset : parsed.offset with
  | none => simp [offset] at moved
  | some by' =>
      cases utc : parsed.toUtc by' with
      | none => simp [offset, utc] at moved
      | some d =>
          simp only [offset, utc, Except.pure_ok] at moved
          exact ⟨d, moved.symm⟩

theorem isSpace_of_isDigit {c : CodePoint} (digit : isDigit c = true) : isSpace c = false := by
  simp only [isDigit, Bool.and_eq_true, decide_eq_true_eq] at digit
  simp only [isSpace, Bool.or_eq_false_iff, Bool.and_eq_false_iff, decide_eq_false_iff_not,
    beq_eq_false_iff_ne]
  omega

theorem strip_timestampText (d : DateTime) : strip (timestampText d) = timestampText d := by
  refine strip_eq_self (fun c found => ?_) fun c found => ?_
  · have head : c ∈ d.isoText := by
      cases spelled : d.isoText with
      | nil =>
          have length := d.length_isoText
          rw [spelled] at length
          cases length
      | cons first rest =>
          rw [timestampText, spelled] at found
          obtain rfl := Option.some.inj found
          exact List.mem_cons_self
    rcases DateTime.isoText_chars head with digit | mark
    · exact isSpace_of_isDigit digit
    · have marks : (lit "-T:.").all (fun c => !isSpace c) = true := by decide
      simpa using List.all_eq_true.mp marks c mark
  · rw [timestampText, List.getLast?_append] at found
    obtain rfl : point 'Z' = c := by simpa [lit_eq] using found
    rfl

theorem normalizeTimestamp_timestampText (host : Host) (now d : DateTime) :
    normalizeTimestamp host now (.str (timestampText d) : Value F) = .ok (timestampText d) := by
  have last : (timestampText d).getLast? = some (point 'Z') := by
    rw [timestampText, List.getLast?_append]
    rfl
  have front : (timestampText d).dropLast = d.isoText := by
    rw [timestampText, lit_eq]
    simp
  have read : readTimestamp host now (.str (timestampText d) : Value F) =
      .ok ⟨d.date, d.time, some .utc⟩ := by
    simp only [readTimestamp, parseTimestamp, strip_timestampText, last, if_true, front,
      host.fromisoformat_isoText]
  simp only [normalizeTimestamp, read, bind, Except.bind, DateTime.toUtc_utc]
  rfl

/-- A normalized timestamp is normalized to itself at any time. -/
theorem normalizeTimestamp_again {host : Host} {now : DateTime} {v : Value F} {t : Str}
    (normalized : normalizeTimestamp host now v = .ok t) (later : DateTime) :
    normalizeTimestamp host later (.str t : Value F) = .ok t := by
  obtain ⟨d, spelled⟩ := normalizeTimestamp_text normalized
  rw [spelled]
  exact normalizeTimestamp_timestampText host later d

theorem delimiter_not_mem_timestampText (d : DateTime) : point '|' ∉ timestampText d := by
  intro member
  rcases List.mem_append.mp member with front | zone
  · rcases DateTime.isoText_chars front with digit | mark
    · cases digit
    · exact absurd mark (by decide)
  · exact absurd zone (by decide)

/-! ## Event hashes -/

/-- The fields of an event normalize to the texts. -/
structure HashesAs (host : Host) (now : DateTime) (fields : HashFields F)
    (t : HashText) : Prop where
  previous : previousMarker fields.previousEventHash = .ok t.previous
  eventId : normalizeHashField fields.eventId "event_id" 128 = .ok t.eventId
  schemaVersion : normalizeHashField fields.schemaVersion "schema_version" 32 = .ok t.schemaVersion
  eventType : normalizeHashField fields.eventType "event_type" 128 = .ok t.eventType
  entityType : normalizeHashField fields.entityType "entity_type" 128 = .ok t.entityType
  entityId : normalizeHashField fields.entityId "entity_id" 512 = .ok t.entityId
  entityVersion : ∃ version, t.entityVersion = version.getD [] ∧
    normalizeOptionalHashField fields.entityVersion "entity_version" 128 = .ok version
  actor : effectiveActor fields.actorDid fields.actorRef = .ok t.actor
  payloadSha256 : requireHash fields.payloadSha256 "payload_sha256" false = .ok t.payloadSha256
  occurredAt : normalizeTimestamp host now fields.occurredAt = .ok t.occurredAt

section EventHash

variable {host : Host} {now : DateTime} {fields : HashFields F}

theorem eventHashText_ok {t : HashText} :
    eventHashText host now fields = .ok t ↔ HashesAs host now fields t := by
  simp only [eventHashText, Except.bind_ok, Except.pure_ok]
  constructor
  · rintro ⟨previous, previousEq, eventId, eventIdEq, schema, schemaEq, eventType, typeEq,
      entityType, entityTypeEq, entityId, entityIdEq, version, versionEq, actor, actorEq, payload,
      payloadEq, occurred, occurredEq, rfl⟩
    exact ⟨previousEq, eventIdEq, schemaEq, typeEq, entityTypeEq, entityIdEq,
      ⟨version, rfl, versionEq⟩, actorEq, payloadEq, occurredEq⟩
  · obtain ⟨previous, eventId, schema, eventType, entityType, entityId, _, actor, payload,
      occurred⟩ := t
    rintro ⟨previousEq, eventIdEq, schemaEq, typeEq, entityTypeEq, entityIdEq,
      ⟨version, rfl, versionEq⟩, actorEq, payloadEq, occurredEq⟩
    exact ⟨_, previousEq, _, eventIdEq, _, schemaEq, _, typeEq, _, entityTypeEq, _, entityIdEq,
      _, versionEq, _, actorEq, _, payloadEq, _, occurredEq, rfl⟩

theorem productionEventHash_ok {hash : Str} :
    productionEventHash host now fields = .ok hash ↔
      ∃ t, HashesAs host now fields t ∧ sha256Text host t.text = .ok hash := by
  simp only [productionEventHash, Except.bind_ok, eventHashText_ok]

/-- An effective actor is free of the delimiter, even when there is none. -/
theorem effectiveActor_ok {actorDid actorRef : Value F} {actor : Str}
    (found : effectiveActor actorDid actorRef = .ok actor) : point '|' ∉ actor := by
  simp only [effectiveActor, Except.bind_ok] at found
  obtain ⟨did, didEq, chosen⟩ := found
  cases did with
  | some did =>
      obtain rfl := Except.pure_ok.mp chosen
      exact (normalizeOptionalHashField_ok.mp didEq).2 did rfl
  | none =>
      obtain ⟨reference, referenceEq, chosen⟩ := Except.bind_ok.mp chosen
      obtain rfl := Except.pure_ok.mp chosen
      cases reference with
      | none => simp
      | some reference => exact (normalizeOptionalHashField_ok.mp referenceEq).2 reference rfl

theorem delimiter_not_mem_hash {hash : Str} (good : IsHash hash) : point '|' ∉ hash := by
  intro member
  have hex := List.all_eq_true.mp good.2 _ member
  cases hex

theorem previousMarker_ok {previous : Value F} {marker : Str} :
    previousMarker previous = .ok marker ↔
      (previous = .none ∧ marker = GENESIS_MARKER) ∨ (previous = .str marker ∧ IsHash marker) := by
  cases previous with
  | none => simp [previousMarker, eq_comm]
  | _ => simp [previousMarker, requireHash_ok]

/-- No text that an event hash joins holds the delimiter. -/
theorem HashesAs.clean {t : HashText} (hashes : HashesAs host now fields t) :
    ∀ field ∈ t.fields, point '|' ∉ field := by
  obtain ⟨version, versionEq, versionNormal⟩ := hashes.entityVersion
  obtain ⟨d, occurredEq⟩ := normalizeTimestamp_text hashes.occurredAt
  have previousClean : point '|' ∉ t.previous := by
    rcases previousMarker_ok.mp hashes.previous with ⟨_, marker⟩ | ⟨_, good⟩
    · rw [marker]
      decide
    · exact delimiter_not_mem_hash good
  have versionClean : point '|' ∉ t.entityVersion := by
    rw [versionEq]
    cases version with
    | none => simp
    | some version => exact (normalizeOptionalHashField_ok.mp versionNormal).2 version rfl
  have occurredClean : point '|' ∉ t.occurredAt := by
    rw [occurredEq]
    exact delimiter_not_mem_timestampText d
  simp only [HashText.fields, List.forall_mem_cons, List.not_mem_nil, false_implies, implies_true,
    and_true]
  exact ⟨previousClean, (normalizeHashField_ok.mp hashes.eventId).2,
    (normalizeHashField_ok.mp hashes.schemaVersion).2,
    (normalizeHashField_ok.mp hashes.eventType).2, (normalizeHashField_ok.mp hashes.entityType).2,
    (normalizeHashField_ok.mp hashes.entityId).2, versionClean, effectiveActor_ok hashes.actor,
    delimiter_not_mem_hash (requireHash_ok.mp hashes.payloadSha256).2, occurredClean⟩

end EventHash

/-- Joined texts without the delimiter can be told apart. -/
theorem HashText.text_inj {first second : HashText}
    (firstClean : ∀ field ∈ first.fields, point '|' ∉ field)
    (secondClean : ∀ field ∈ second.fields, point '|' ∉ field)
    (equal : first.text = second.text) : first = second := by
  have firstSplit : first.text.splitOn (point '|') = first.fields :=
    List.splitOn_intercalate _ firstClean (by simp [HashText.fields])
  have secondSplit : second.text.splitOn (point '|') = second.fields :=
    List.splitOn_intercalate _ secondClean (by simp [HashText.fields])
  rw [equal, secondSplit] at firstSplit
  cases first
  cases second
  simp only [HashText.fields, List.cons.injEq, and_true] at firstSplit
  simp [firstSplit]

/-! ## Requests -/

theorem optional_wellFormed (o : Option Str) : (optional o : Value F).WellFormed := by
  cases o with
  | none => exact .none
  | some s => exact .str s

@[simp]
theorem sortKeys_optional (o : Option Str) : sortKeys (optional o : Value F) = optional o := by
  cases o <;> rfl

theorem RequestFields.distinct (fields : RequestFields) :
    ((fields.entries : Entries F).map Prod.fst).Nodup := by
  simp [RequestFields.entries]

theorem RequestFields.wellFormed (fields : RequestFields) :
    (Value.dict fields.entries : Value F).WellFormed := by
  refine .dict fields.distinct ?_
  simp [RequestFields.entries, optional_wellFormed, Value.WellFormed.str]

section Requests

variable [FloatFormat F]

theorem optional_isJson (o : Option Str) : (optional o : Value F).IsJson := by
  cases o with
  | none => exact .none
  | some s => exact .str s

theorem RequestFields.isJson (fields : RequestFields) :
    (Value.dict fields.entries : Value F).IsJson := by
  refine .dict ?_ ?_
  · simp [RequestFields.entries]
  · simp [RequestFields.entries, optional_isJson, Value.IsJson.str]

/-- The canonical text of a request. -/
def requestText (F : Type) [FloatFormat F] (fields : RequestFields) : Str :=
  dumps [] (sortKeys (.dict fields.entries : Value F))

end Requests

end Chlom.Dail
