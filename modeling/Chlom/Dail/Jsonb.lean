import Chlom.Dail.Appending
import Chlom.Dail.Raises
import Chlom.Library.Python.JsonOrder

/-!
# The text the database would write

For a payload without floating-point numbers the runtime renders the text itself, if the
payload is within the limits of the interpreter.  The text is read back as the payload, it
does not depend on the order in which the payload lists its keys, and it determines the
payload up to that order.
-/

namespace Chlom.Dail

open Python Raises

variable {F : Type} [FloatFormat F]

/-! ## The order of keys -/

/-- The bytes of a key. -/
def keyBytes (name : Key) : List UInt8 := (encodeUtf8 name.text).getD []

/-- Keys in the order of the database. -/
def JsonbLe (first second : Key) : Prop := JsonbKeyLe (keyBytes first) (keyBytes second)

instance : DecidableRel JsonbLe := fun _ _ => inferInstanceAs (Decidable (JsonbKeyLe _ _))

theorem jsonbKeyLe_total (first second : List UInt8) :
    JsonbKeyLe first second ∨ JsonbKeyLe second first := by
  rcases Nat.lt_trichotomy first.length second.length with shorter | same | longer
  · exact .inl (.inl shorter)
  · rcases List.le_total first second with le | ge
    · exact .inl (.inr ⟨same, le⟩)
    · exact .inr (.inr ⟨same.symm, ge⟩)
  · exact .inr (.inl longer)

theorem JsonbKeyLe.trans {one two three : List UInt8} (first : JsonbKeyLe one two)
    (second : JsonbKeyLe two three) : JsonbKeyLe one three := by
  rcases first with shorter | ⟨same, le⟩
  · rcases second with shorter' | ⟨same', _⟩
    · exact .inl (shorter.trans shorter')
    · exact .inl (same' ▸ shorter)
  · rcases second with shorter' | ⟨same', le'⟩
    · exact .inl (same ▸ shorter')
    · exact .inr ⟨same.trans same', List.le_trans le le'⟩

theorem JsonbKeyLe.antisymm {first second : List UInt8} (le : JsonbKeyLe first second)
    (ge : JsonbKeyLe second first) : first = second := by
  rcases le with shorter | ⟨same, le⟩
  · rcases ge with shorter' | ⟨same', _⟩ <;> omega
  · rcases ge with shorter' | ⟨_, ge⟩
    · omega
    · exact List.le_antisymm le ge

instance : Std.Total JsonbLe := ⟨fun _ _ => jsonbKeyLe_total _ _⟩

instance : IsTrans Key JsonbLe := ⟨fun _ _ _ => JsonbKeyLe.trans⟩

/-- A string key that the database can store. -/
def Storable (name : Key) : Prop := ∃ s, name = .str s ∧ Scalars s

theorem jsonbLe_antisymm {first second : Key} (storable : Storable first)
    (otherStorable : Storable second) (le : JsonbLe first second) (ge : JsonbLe second first) :
    first = second := by
  obtain ⟨s, rfl, scalars⟩ := storable
  obtain ⟨t, rfl, otherScalars⟩ := otherStorable
  obtain ⟨bytes, encoded⟩ := exists_encodeUtf8.mpr scalars
  obtain ⟨otherBytes, otherEncoded⟩ := exists_encodeUtf8.mpr otherScalars
  simp only [JsonbLe, keyBytes, Key.text, encoded, otherEncoded, Option.getD_some] at le ge
  obtain rfl := le.antisymm ge
  rw [encodeUtf8_inj encoded otherEncoded]

omit [FloatFormat F] in
theorem allKeys_storable {v : Value F} (floatless : v.Floatless) (unicode : v.Unicode) :
    v.AllKeys Storable := by
  induction floatless with
  | list _ ih =>
      cases unicode with | list all => exact .list fun v member => ih v member (all v member)
  | dict keys _ ih =>
      cases unicode with | dict scalars all =>
      refine .dict (fun entry member => ?_) fun entry member => ih entry member (all entry member)
      obtain ⟨s, named⟩ := keys entry member
      have spelled := scalars entry member
      rw [named] at spelled
      exact ⟨s, named, spelled⟩
  | none | bool | int | str => exact .atom nofun nofun

/-! ## Rendering -/

theorem floatless_isJson {v : Value F} (floatless : v.Floatless) : v.IsJson := by
  induction floatless with
  | none => exact .none
  | bool b => exact .bool b
  | int i => exact .int i
  | str s => exact .str s
  | list _ ih => exact .list ih
  | dict keys _ ih => exact .dict keys ih

omit [FloatFormat F] in
theorem jsonbOrderItems_ok {items : List (Value F)}
    (each : ∀ v ∈ items, jsonbOrder v = .ok (orderKeys JsonbLe v)) :
    jsonbOrderItems items = .ok (items.map (orderKeys JsonbLe)) := by
  induction items with
  | nil => rfl
  | cons v rest ih =>
      obtain ⟨head, tail⟩ := List.forall_mem_cons.mp each
      simp only [jsonbOrderItems, head, ih tail, Except.bind_ok, Except.pure_ok, Except.ok.injEq]
      exact ⟨_, rfl, _, rfl, rfl⟩

omit [FloatFormat F] in
theorem jsonbOrderEntries_ok {entries : Entries F}
    (storable : ∀ entry ∈ entries, Storable entry.1) :
    jsonbOrderEntries entries =
      .ok (entries.map fun entry => (keyBytes entry.1, entry.1, jsonbOrder entry.2)) := by
  induction entries with
  | nil => rfl
  | cons entry rest ih =>
      obtain ⟨name, v⟩ := entry
      obtain ⟨⟨s, spelled, scalars⟩, tail⟩ := List.forall_mem_cons.mp storable
      obtain ⟨bytes, encoded⟩ := exists_encodeUtf8.mpr scalars
      obtain rfl : name = .str s := spelled
      simp only [jsonbOrderEntries, jsonbKeyOrder, Key.text, encoded, ih tail, Except.bind_ok,
        Except.pure_ok, Except.ok.injEq]
      exact ⟨bytes, rfl, _, rfl, by simp [keyBytes, Key.text, encoded]⟩

/-- An item next to the bytes of its key, as it is sorted. -/
def ranked (entry : Key × Value F) : List UInt8 × Key × Except PyError (Value F) :=
  (keyBytes entry.1, entry.1, .ok entry.2)

omit [FloatFormat F] in
/-- Sorting items by the bytes next to them sorts them by their keys. -/
theorem insertionSort_ranked (entries : Entries F) :
    (entries.map ranked).insertionSort (fun first second => JsonbKeyLe first.1 second.1) =
      (entries.insertionSort (Entries.By JsonbLe)).map ranked :=
  (List.map_insertionSort (Entries.By JsonbLe) _ ranked entries fun _ _ _ _ => Iff.rfl).symm

omit [FloatFormat F] in
/-- Taking the values out of ranked items gives the items. -/
theorem mapM_ranked (entries : Entries F) :
    ((entries.map ranked).mapM fun entry => do return (entry.2.1, ← entry.2.2)) = .ok entries := by
  induction entries with
  | nil => rfl
  | cons entry rest ih =>
      rw [List.map_cons, List.mapM_cons, ih]
      rfl

omit [FloatFormat F] in
/-- Ordering succeeds on such a value and puts its keys in the order of the database. -/
theorem jsonbOrder_ok {v : Value F} (floatless : v.Floatless) (unicode : v.Unicode) :
    jsonbOrder v = .ok (orderKeys JsonbLe v) := by
  induction floatless with
  | list _ ih =>
      cases unicode with | list all =>
      rw [jsonbOrder, jsonbOrderItems_ok fun v member => ih v member (all v member), orderKeys_list]
      rfl
  | @dict entries keys all ih =>
      have storable := allKeys_storable (.dict keys all) unicode
      cases unicode with | dict _ unicode =>
      have ranks : (entries.map fun entry => (keyBytes entry.1, entry.1, jsonbOrder entry.2)) =
          (entries.map (orderKeysEntry JsonbLe)).map ranked := by
        rw [List.map_map]
        refine List.map_congr_left fun entry member => ?_
        rw [ih entry member (unicode entry member)]
        rfl
      rw [jsonbOrder, orderKeys_dict, Except.bind_ok]
      refine ⟨_, jsonbOrderEntries_ok fun entry member => (storable.of_mem_entries member).1, ?_⟩
      rw [ranks, insertionSort_ranked, Except.bind_ok]
      exact ⟨_, mapM_ranked _, rfl⟩
  | none => rfl
  | bool b => rfl
  | int i => rfl
  | str s => rfl

/-! ## The text of a payload -/

/-- A JSON object without floating-point numbers whose strings are made of scalar values. -/
structure Portable (payload : Value F) : Prop where
  object : ∃ entries, payload = .dict entries
  wellFormed : payload.WellFormed
  floatless : payload.Floatless
  unicode : payload.Unicode

/-- The text of a value with its keys in the order of the database. -/
def jsonbText (payload : Value F) : Str := dumps (lit " ") (orderKeys JsonbLe payload)

theorem blank_space : ∀ c ∈ lit " ", isJsonSpace c = true := by
  simp [lit_eq, point, isJsonSpace]

section Rendered

variable {host : Host} {payload other : Value F}

omit [FloatFormat F] in
/-- All reorderings of a payload are put in one order. -/
theorem Portable.orderKeys_congr (portable : Portable payload) (same : payload.Reordered other)
    (wellFormed : other.WellFormed) : orderKeys JsonbLe payload = orderKeys JsonbLe other :=
  Python.orderKeys_congr (fun _ _ => jsonbLe_antisymm) same portable.wellFormed
    (allKeys_storable portable.floatless portable.unicode) wellFormed

theorem Portable.isJson (portable : Portable payload) : payload.IsJson :=
  floatless_isJson portable.floatless

omit [FloatFormat F] in
theorem Within.reordered (within : Within host payload) (same : payload.Reordered other) :
    Within host other :=
  ⟨same.depth_le within.depth, same.fits within.fits⟩

theorem Portable.jsonClone (portable : Portable payload) (within : Within host payload) :
    jsonClone host payload = .ok (sortKeys payload) :=
  (jsonClone_ok portable.wellFormed).mpr ⟨portable.isJson, within, rfl⟩

/-- Beyond the limits cloning fails with an error of its own. -/
theorem Portable.jsonClone_error (portable : Portable payload) (beyond : ¬ Within host payload) :
    Dail.jsonClone host payload = .error .recursionError ∨
      ∃ message, Dail.jsonClone host payload = .error (.valueError message) := by
  have canonical := canonicalJson_ok.mpr ⟨portable.isJson, rfl⟩
  by_cases deep : host.recursionLimit < payload.depth
  · left
    simp only [Dail.jsonClone, canonical, bind, Except.bind, if_pos deep]
  · have long : payload.fits host.digitLimit = false := by
      rw [← Bool.not_eq_true]
      exact fun fits => beyond ⟨Nat.not_lt.mp deep, fits⟩
    right
    simp only [Dail.jsonClone, canonical, bind, Except.bind, if_neg deep, if_pos long]
    exact ⟨_, rfl⟩

omit [FloatFormat F] in
theorem Portable.sortKeys (portable : Portable payload) : Portable (sortKeys payload) := by
  obtain ⟨entries, rfl⟩ := portable.object
  have reordered := reordered_sortKeys portable.wellFormed
  exact ⟨⟨_, sortKeys_dict entries⟩, sortKeys_wellFormed portable.wellFormed,
    reordered.floatless portable.floatless, sortKeys_unicode portable.unicode⟩

theorem Portable.postgresJsonbText (portable : Portable payload) (within : Within host payload) :
    postgresJsonbText host payload = .ok (jsonbText payload) := by
  have sorted := portable.sortKeys
  have order := portable.orderKeys_congr (reordered_sortKeys portable.wellFormed) sorted.wellFormed
  obtain ⟨entries, rfl⟩ := portable.object
  simp only [Dail.postgresJsonbText, Value.asMapping, Except.bind_ok, Except.pure_ok]
  refine ⟨_, portable.jsonClone within, _, jsonbOrder_ok sorted.floatless sorted.unicode, ?_⟩
  rw [jsonbText, order]

/-- Beyond the limits no text is rendered. -/
theorem Portable.postgresJsonbText_error (portable : Portable payload)
    (beyond : ¬ Within host payload) :
    Dail.postgresJsonbText host payload = .error .recursionError ∨
      ∃ message, Dail.postgresJsonbText host payload = .error (.valueError message) := by
  obtain ⟨entries, rfl⟩ := portable.object
  rcases portable.jsonClone_error beyond with failed | ⟨message, failed⟩
  · left
    simp only [Dail.postgresJsonbText, Value.asMapping, failed, bind, Except.bind]
  · right
    simp only [Dail.postgresJsonbText, Value.asMapping, failed, bind, Except.bind]
    exact ⟨message, rfl⟩

/-- Under any limit that the payload meets, reading the text back gives the payload with its
keys in order. -/
theorem Portable.loadsWith (portable : Portable payload) {limit : Nat}
    (fits : payload.fits limit = true) :
    loadsWith (Hooks.strict.limited limit) (jsonbText payload) =
      .ok (orderKeys JsonbLe payload) :=
  loadsWith_dumps (Hooks.strict_faithful.limited limit) blank_space
    (orderKeys_isJson JsonbLe portable.isJson) (orderKeys_wellFormed JsonbLe portable.wellFormed)
    ((reordered_orderKeys JsonbLe portable.wellFormed).fits fits)

theorem Portable.loadJsonNoDuplicates (portable : Portable payload)
    (within : Within host payload) :
    loadJsonNoDuplicates host (.str (jsonbText payload)) = .ok (orderKeys JsonbLe payload) := by
  simp only [Dail.loadJsonNoDuplicates, portable.loadsWith within.fits]

/-- Two payloads have the same text exactly if they differ at most in the order of keys. -/
theorem jsonbText_eq_iff (portable : Portable payload) (otherPortable : Portable other) :
    jsonbText payload = jsonbText other ↔ payload.Reordered other := by
  constructor
  · intro same
    have loaded := portable.loadsWith (fits_zero payload)
    rw [same, otherPortable.loadsWith (fits_zero other)] at loaded
    have reordered := reordered_orderKeys JsonbLe portable.wellFormed
    rw [← Except.ok.inj loaded] at reordered
    exact reordered.trans (reordered_orderKeys JsonbLe otherPortable.wellFormed).symm
  · intro same
    rw [jsonbText, portable.orderKeys_congr same otherPortable.wellFormed, jsonbText]

/-! ## Appending without a text -/

/-- The message about a text that is not that of the payload. -/
def MISMATCH : Str := lit "payload_jsonb_text does not represent payload"

/-- The error is not about a text that is not that of the payload. -/
def NoMismatch (error : PyError) : Prop := error ≠ .invalidEvent MISMATCH

omit [FloatFormat F] in
theorem noMismatch_of_names {name : String} {error : PyError} (named : Names (lit name) error)
    (apart : ¬ lit name <+: MISMATCH) : NoMismatch error := by
  obtain ⟨rest, rfl⟩ := named
  intro same
  exact apart ⟨rest, PyError.invalidEvent.inj same⟩

theorem noMismatch_named {names : List String} (apart : ∀ name ∈ names, ¬ lit name <+: MISMATCH) :
    ∀ name ∈ names, ∀ error, Names (lit name) error → NoMismatch error :=
  fun name known _ named => noMismatch_of_names named (apart name known)

theorem noMismatch_hash :
    ∀ name ∈ ["value", "text"], ∀ error, Names (lit name) error → NoMismatch error :=
  noMismatch_named (by decide)

/-- The text that is rendered for the clone of a payload represents that clone. -/
theorem Portable.canonicalJson_jsonbText (portable : Portable payload) :
    canonicalJson (orderKeys JsonbLe payload) = canonicalJson payload := by
  have json := portable.isJson
  have sorted := (reordered_orderKeys JsonbLe portable.wellFormed).sortKeys_eq json
    portable.wellFormed (orderKeys_wellFormed JsonbLe portable.wellFormed)
  rw [canonicalJson_ok.mpr ⟨orderKeys_isJson JsonbLe json, rfl⟩, ← sorted,
    canonicalJson_ok.mpr ⟨json, rfl⟩]

omit [FloatFormat F] in
theorem normalizeText_noMismatch (v : Value F) (maximum : Nat) {name : String}
    (apart : ¬ lit name <+: MISMATCH) : Only NoMismatch (normalizeText v name maximum) :=
  (normalizeText_only v name maximum).mono fun _ named => noMismatch_of_names named apart

omit [FloatFormat F] in
theorem normalizeOptionalText_noMismatch (v : Value F) (maximum : Nat) {name : String}
    (apart : ¬ lit name <+: MISMATCH) : Only NoMismatch (normalizeOptionalText v name maximum) :=
  (normalizeOptionalText_only v name maximum).mono fun _ named => noMismatch_of_names named apart

/-- Copying a payload fails at most at the limits. -/
theorem Portable.jsonClone_noMismatch (portable : Portable payload) :
    Only NoMismatch (Dail.jsonClone host payload) := by
  by_cases within : Within host payload
  · exact .of_eq_ok (portable.jsonClone within)
  · rcases portable.jsonClone_error within with failed | ⟨message, failed⟩
    · rw [failed]
      exact only_error.mpr (by simp [NoMismatch])
    · rw [failed]
      exact only_error.mpr (by simp [NoMismatch])

/-- The checks of a request whose text is left out never find a wrong text. -/
theorem prepare_noMismatch {args : AppendArgs F} (portable : Portable args.payload.val)
    (omitted : args.payloadJsonbText = .none) (allowReservedEventType : Bool) :
    Only NoMismatch (prepare host args allowReservedEventType) := by
  have cloned : Only NoMismatch (jsonClone host args.payload.val) := portable.jsonClone_noMismatch
  have sorted := portable.sortKeys
  obtain ⟨entries, payloadEq⟩ := portable.object
  refine (normalizeText_noMismatch _ _ (by decide)).bind fun eventType => ?_
  split
  · exact only_error.mpr (show _ ≠ _ by decide)
  refine (normalizeText_noMismatch _ _ (by decide)).bind fun entityType => ?_
  refine (normalizeText_noMismatch _ _ (by decide)).bind fun entityId => ?_
  refine (normalizeOptionalText_noMismatch _ _ (by decide)).bind fun entityVersion => ?_
  refine (normalizeOptionalText_noMismatch _ _ (by decide)).bind fun actorDid => ?_
  refine (normalizeOptionalText_noMismatch _ _ (by decide)).bind fun actorRef => ?_
  refine (normalizeText_noMismatch _ _ (by decide)).bind fun idempotencyKey => ?_
  simp only [payloadEq, Value.asMapping]
  rw [payloadEq] at cloned sorted portable
  refine .bind_of_ok cloned fun payload ran => ?_
  obtain ⟨_, within, rfl⟩ := (jsonClone_ok portable.wellFormed).mp ran
  have still := within.reordered (reordered_sortKeys portable.wellFormed)
  have given : givenJsonbText host args.payloadJsonbText (Python.sortKeys (.dict entries)) =
      .ok (.str (jsonbText (Python.sortKeys (.dict entries)))) := by
    rw [omitted, givenJsonbText, sorted.postgresJsonbText still]
    rfl
  have loaded := sorted.loadJsonNoDuplicates still
  refine .bind_of_ok (.of_eq_ok given) fun jsonbText_ ran => ?_
  obtain rfl := Except.ok.inj (given.symm.trans ran)
  refine .bind ?_ fun payloadSha256 => ?_
  · simp only [payloadSha256FromJsonbText, loaded, asInvalidEvent]
    exact (sha256Text_only host _).mono fun _ named =>
      noMismatch_of_names named (by decide)
  simp only [loaded, asInvalidEvent]
  refine .bind_of_ok .ok fun parsed ran => ?_
  obtain rfl := Except.ok.inj ran
  rw [sorted.canonicalJson_jsonbText]
  have canonical := canonicalJson_ok.mpr ⟨sorted.isJson, rfl⟩
  refine .bind_of_ok (.of_eq_ok canonical) fun parsedText ran => ?_
  obtain rfl := Except.ok.inj (canonical.symm.trans ran)
  refine .bind_of_ok (.of_eq_ok canonical) fun payloadText ran => ?_
  obtain rfl := Except.ok.inj (canonical.symm.trans ran)
  rw [if_neg (not_not.mpr rfl)]
  exact (requestHash_only F host _ noMismatch_hash).bind fun requestSha256 => .pure

omit [FloatFormat F] in
/-- Entering a request never finds a wrong text. -/
theorem store_noMismatch (env : Env) (eventId occurredAt : Value F) (request : Request F) :
    Stops NoMismatch (store host env eventId occurredAt request) := by
  have timestamp (v : Value F) : Only NoMismatch (normalizeTimestamp host env.now v) :=
    (normalizeTimestamp_only host env.now v).mono fun error kind =>
      kind.elim (fun named => noMismatch_of_names named (by decide))
        (fun overflow => by
          rw [overflow]
          simp [NoMismatch])
  refine Stops.read.bind fun l => ?_
  split
  · exact (Stops.ensure (by simp [NoMismatch])).bind fun _ => .okOr (by simp [NoMismatch])
  refine .bind (.ofExcept ?_) fun eventId => ?_
  · unfold newEventId
    split
    · exact .ok
    · exact (normalizeText_only _ _ _).mono fun _ named =>
        noMismatch_of_names named (by decide)
  refine (Stops.ensure (by simp [NoMismatch])).bind fun _ => ?_
  refine (Stops.ofExcept (timestamp _)).bind fun occurredAt => ?_
  refine .bind (.ofExcept ?_) fun eventHash => ?_
  · exact productionEventHash_only (noMismatch_named (by decide)) (timestamp _)
  exact Stops.write.bind fun _ => Stops.write.bind fun _ => Stops.write.bind fun _ => .pure

end Rendered

/-! ## The property -/

/-- An object of two keys whose values are nested. -/
def nestedPayload : Value ZeroFloat :=
  .dict [(.str (lit "b"), .list [.int 1, .none]), (.str (lit "aa"), .str (lit "\""))]

/-- The same object with its keys the other way round. -/
def turnedPayload : Value ZeroFloat :=
  .dict [(.str (lit "aa"), .str (lit "\"")), (.str (lit "b"), .list [.int 1, .none])]

/-- The text of a payload without floating-point numbers within the limits is read back as an
equal value, and beyond them none is rendered.  Two such payloads have the same text exactly
if they differ at most in the order of keys, and an append that leaves the text out never
finds that it is not the payload's. -/
theorem postgresJsonbText_canonical (host : Host) {payload other : Value F}
    (portable : Portable payload) (otherPortable : Portable other) :
    (Within host payload → ∃ text loaded, postgresJsonbText host payload = .ok text ∧
      loadJsonNoDuplicates host (.str text) = .ok loaded ∧ payload.Reordered loaded ∧
        loaded.pyEq payload = true) ∧
    (¬ Within host payload → postgresJsonbText host payload = .error .recursionError ∨
      ∃ message, postgresJsonbText host payload = .error (.valueError message)) ∧
    (Within host payload → Within host other →
      (postgresJsonbText host payload = postgresJsonbText host other ↔ payload.Reordered other)) ∧
    ∀ (env : Env) (args : AppendArgs F) (allowReservedEventType : Bool) (l l' : Ledger F),
      args.payload.val = payload → args.payloadJsonbText = .none →
        appendWith host env args allowReservedEventType l ≠ .error (.invalidEvent MISMATCH) l' := by
  have reordered := reordered_orderKeys JsonbLe portable.wellFormed
  have wellFormed := orderKeys_wellFormed JsonbLe portable.wellFormed
  refine ⟨fun within => ?_, portable.postgresJsonbText_error, fun within otherWithin => ?_, ?_⟩
  · refine ⟨jsonbText payload, orderKeys JsonbLe payload, portable.postgresJsonbText within,
      portable.loadJsonNoDuplicates within, reordered, ?_⟩
    exact reordered.symm.pyEq (reordered.floatless portable.floatless) wellFormed
      portable.wellFormed
  · rw [portable.postgresJsonbText within, otherPortable.postgresJsonbText otherWithin,
      Except.ok.injEq]
    exact jsonbText_eq_iff portable otherPortable
  · intro env args allowed l l' payloadEq omitted failed
    subst payloadEq
    have stops : Stops NoMismatch (appendWith host env args allowed) :=
      (Stops.ofExcept (prepare_noMismatch portable omitted allowed)).bind fun request =>
        store_noMismatch env _ _ request
    exact stops l _ l' failed rfl

theorem nestedPayload_portable : Portable nestedPayload where
  object := ⟨_, rfl⟩
  wellFormed := .dict (by decide) (by
    simp only [List.forall_mem_cons, List.not_mem_nil, false_implies, implies_true, and_true]
    exact ⟨.list (by simpa using ⟨.int 1, .none⟩), .str _⟩)
  floatless := .dict (by simp) (by
    simp only [List.forall_mem_cons, List.not_mem_nil, false_implies, implies_true, and_true]
    exact ⟨.list (by simpa using ⟨.int 1, .none⟩), .str _⟩)
  unicode := Value.unicode_of_isUnicode (by decide)

theorem turnedPayload_portable : Portable turnedPayload where
  object := ⟨_, rfl⟩
  wellFormed := .dict (by decide) (by
    simp only [List.forall_mem_cons, List.not_mem_nil, false_implies, implies_true, and_true]
    exact ⟨.str _, .list (by simpa using ⟨.int 1, .none⟩)⟩)
  floatless := .dict (by simp) (by
    simp only [List.forall_mem_cons, List.not_mem_nil, false_implies, implies_true, and_true]
    exact ⟨.str _, .list (by simpa using ⟨.int 1, .none⟩)⟩)
  unicode := Value.unicode_of_isUnicode (by decide)

theorem postgresJsonbText_canonical_nested :
    postgresJsonbText sampleHost nestedPayload = postgresJsonbText sampleHost turnedPayload ↔
      nestedPayload.Reordered turnedPayload :=
  (postgresJsonbText_canonical sampleHost nestedPayload_portable turnedPayload_portable).2.2.1
    ⟨by decide, by decide⟩ ⟨by decide, by decide⟩

/-! ## Payloads beyond the limits -/

/-- An object with one key. -/
def single (v : Value ZeroFloat) : Value ZeroFloat :=
  .dict [(.str (lit "n"), v)]

/-- An integer inside so many lists. -/
def buried : Nat → Value ZeroFloat
  | 0 => .int 1
  | depth + 1 => .list [buried depth]

theorem depth_buried (depth : Nat) : (buried depth).depth = depth := by
  induction depth with
  | zero => rfl
  | succ depth ih => simp [buried, Value.depth, itemsDepth, ih]

theorem depth_single (v : Value ZeroFloat) : (single v).depth = v.depth + 1 := by
  simp [single, Value.depth, entriesDepth]

theorem fits_single {v : Value ZeroFloat} {limit : Nat} :
    (single v).fits limit = true ↔ v.fits limit = true := by
  simp [single, fits_dict]

/-- An integer with more digits than the limit does not fit. -/
theorem not_fits_int {limit n : Nat} (least : 0 < limit) (long : 10 ^ limit ≤ n) :
    ¬ (Value.int (F := ZeroFloat) n).fits limit = true := by
  intro fits
  rcases fits_int.mp fits with none_ | short
  · omega
  · exact Nat.not_lt.mpr long ((length_natText_le_iff least).mp short)

theorem fits_buried {limit : Nat} (least : 0 < limit) (depth : Nat) :
    (buried depth).fits limit = true := by
  induction depth with
  | zero =>
      exact fits_int.mpr (.inr ((length_natText_le_iff least).mpr
        (Nat.one_lt_pow least.ne' (by decide))))
  | succ depth ih => exact fits_list.mpr (by simpa using ih)

theorem portable_single {v : Value ZeroFloat} (wellFormed : v.WellFormed)
    (floatless : v.Floatless) (unicode : v.Unicode) : Portable (single v) where
  object := ⟨_, rfl⟩
  wellFormed := .dict (by simp) (by simpa using wellFormed)
  floatless := .dict (by simp) (by simpa using floatless)
  unicode := .dict (fun _ member => List.mem_singleton.mp member ▸ scalars_lit "n")
    (by simpa using unicode)

theorem portable_buried (depth : Nat) : Portable (single (buried depth)) := by
  refine portable_single ?_ ?_ ?_
  · induction depth with
    | zero => exact .int 1
    | succ depth ih => exact .list (by simpa using ih)
  · induction depth with
    | zero => exact .int 1
    | succ depth ih => exact .list (by simpa using ih)
  · induction depth with
    | zero => exact .int 1
    | succ depth ih => exact .list (by simpa using ih)

/-- Neither an integer with more digits than the limit nor a deeper nesting is rendered. -/
theorem not_every_payload_rendered :
    (∃ payload : Value ZeroFloat, Portable payload ∧ payload.depth ≤ sampleHost.recursionLimit ∧
      ∀ text, postgresJsonbText sampleHost payload ≠ .ok text) ∧
    (∃ payload : Value ZeroFloat, Portable payload ∧
      payload.fits sampleHost.digitLimit = true ∧
        ∀ text, postgresJsonbText sampleHost payload ≠ .ok text) := by
  have refused {payload : Value ZeroFloat} (portable : Portable payload)
      (beyond : ¬ Within sampleHost payload) (text : Str) :
      postgresJsonbText sampleHost payload ≠ .ok text := by
    rcases portable.postgresJsonbText_error beyond with failed | ⟨message, failed⟩ <;>
      simp [failed]
  constructor
  · have portable : Portable (single (.int ↑(10 ^ sampleHost.digitLimit : Nat))) :=
      portable_single (.int _) (.int _) (.int _)
    have shallow : (1 : Nat) ≤ sampleHost.recursionLimit := by decide
    refine ⟨_, portable, (depth_single _).trans_le shallow, refused portable fun within => ?_⟩
    exact not_fits_int (by decide) le_rfl (fits_single.mp within.fits)
  · have fits : (single (buried 990)).fits sampleHost.digitLimit = true :=
      fits_single.mpr (fits_buried (by decide) 990)
    refine ⟨_, portable_buried 990, fits, refused (portable_buried 990) fun within => ?_⟩
    have deep := within.depth
    rw [depth_single, depth_buried] at deep
    exact absurd deep (by decide)

end Chlom.Dail
