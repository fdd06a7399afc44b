import Chlom.Dail.ColdContract
import Chlom.Dail.Index

/-!
# A cold export is read back

The exporter and the verifier describe the document independently.  They meet at a chain of
typed receipts: what is exported of an accepted ledger is such a chain, and every such chain
is checked without a complaint once its keys are in order.
-/

namespace Chlom.Dail

open Python Reports

variable {F : Type}

/-! ## Documents with their keys in order -/

section Ordered

theorem getItem_sortedEntries_of_distinct {entries : Entries F}
    (distinct : (entries.map Prod.fst).Nodup) (name : String) :
    getItem (sortedEntries entries) name = sortKeys (getItem entries name) := by
  rw [getItem, getItem, lookup_sortedEntries distinct]
  cases entries.lookup (key name) with
  | none => rfl
  | some v => rfl

theorem hasKeys_sortedEntries {entries : Entries F} {keys : List Key} :
    hasKeys (sortedEntries entries) keys ↔ hasKeys entries keys := by
  simp only [hasKeys, mem_keys_sortedEntries]

variable [FloatFormat F]

theorem canonicalJson_sortKeys {v : Value F} (json : v.IsJson) :
    canonicalJson (sortKeys v) = canonicalJson v := by
  rw [canonicalJson_ok.mpr ⟨json, rfl⟩, canonicalJson_ok.mpr ⟨sortKeys_isJson json, rfl⟩,
    sortKeys_sortKeys]

theorem hashJson_sortKeys {host : Host} {v : Value F} (json : v.IsJson) :
    hashJson host (sortKeys v) = hashJson host v := by
  rw [hashJson, hashJson, canonicalJson_sortKeys json]

end Ordered

/-! ## Lengths of lists -/

/-- `sys.maxsize`: no list is longer. -/
def MAXSIZE : Nat := 2 ^ 63 - 1

/-- A position in a list has fewer digits than the interpreter reads at the least. -/
theorem fits_position (host : Host) {position : Nat} (sized : position ≤ MAXSIZE) :
    (Value.int position : Value F).fits host.digitLimit = true := by
  refine fits_int.mpr (host.digitLimit_least.imp_right fun least => ?_)
  have short : position < 10 ^ 19 := Nat.lt_of_le_of_lt sized (by decide)
  exact ((length_natText_le_iff (by decide)).mpr short).trans (by omega)

/-! ## Receipts -/

/-- What a receipt says of an event, but for its own hash. -/
structure Receipt where
  sequence : Nat
  eventIdSha256 : Str
  eventTypeSha256 : Str
  entityRefSha256 : Str
  occurredAt : Str
  payloadSha256 : Str
  previousEventHash : Str
  eventHash : Str
  previousReceiptHash : Str

namespace Receipt

def fields (r : Receipt) : Entries F :=
  [(key "sequence", .int r.sequence), (key "event_id_sha256", .str r.eventIdSha256),
    (key "event_type_sha256", .str r.eventTypeSha256),
    (key "entity_ref_sha256", .str r.entityRefSha256), (key "occurred_at", .str r.occurredAt),
    (key "payload_sha256", .str r.payloadSha256),
    (key "previous_event_hash", .str r.previousEventHash), (key "event_hash", .str r.eventHash),
    (key "previous_receipt_hash", .str r.previousReceiptHash)]

/-- The items of a receipt with its hash. -/
def entries (r : Receipt) (hash : Str) : Entries F :=
  r.fields ++ [(key "receipt_hash", .str hash)]

/-- What verification asks of the fields of a receipt on their own. -/
structure Proper (r : Receipt) : Prop where
  eventIdSha256 : IsHash r.eventIdSha256
  eventTypeSha256 : IsHash r.eventTypeSha256
  entityRefSha256 : IsHash r.entityRefSha256
  timestamp : ∃ d : DateTime, r.occurredAt = timestampText d
  payloadSha256 : IsHash r.payloadSha256
  previousEventHash : r.previousEventHash = GENESIS_MARKER ∨ IsHash r.previousEventHash
  eventHash : IsHash r.eventHash
  previousReceiptHash : IsHash r.previousReceiptHash

theorem scalars_of_isHash {hash : Str} (good : IsHash hash) : Scalars hash := fun c member =>
  isValidChar_of_isLowerHex (List.all_eq_true.mp good.2 c member)

theorem scalars_timestampText (d : DateTime) : Scalars (timestampText d) := by
  refine scalars_append.mpr ⟨fun c member => ?_, scalars_lit _⟩
  rcases DateTime.isoText_chars member with digit | mark
  · exact isValidChar_of_isDigit digit
  · exact scalars_lit _ c mark

section Entries

variable {r : Receipt} {hash : Str}

theorem keys_entries : ((r.entries hash : Entries F).map Prod.fst) = RECEIPT_KEYS := rfl

theorem hasKeys_entries : hasKeys (r.entries hash : Entries F) RECEIPT_KEYS := by
  rw [hasKeys, keys_entries]
  exact ⟨fun _ member => member, fun _ member => member⟩

theorem distinct_entries : ((r.entries hash : Entries F).map Prod.fst).Nodup := by
  rw [keys_entries]
  decide

theorem distinct_fields : ((r.fields : Entries F).map Prod.fst).Nodup := by
  have whole : ((r.entries [] : Entries F).map Prod.fst).Nodup := distinct_entries
  exact ((List.sublist_append_left _ _).map Prod.fst).nodup whole

/-- A property of all items of a receipt. -/
theorem forall_mem_entries {P : Key × Value F → Prop} :
    (∀ entry ∈ r.entries hash, P entry) ↔
      (∀ entry ∈ r.fields, P entry) ∧ P (key "receipt_hash", .str hash) := by
  simp [entries, or_imp, forall_and]

theorem wellFormed_entries : (Value.dict (r.entries hash) : Value F).WellFormed := by
  refine .dict distinct_entries (forall_mem_entries.mpr ⟨?_, .str hash⟩)
  simp only [fields, List.forall_mem_cons, List.not_mem_nil, false_imp_iff, implies_true, and_true]
  exact ⟨.int _, .str _, .str _, .str _, .str _, .str _, .str _, .str _, .str _⟩

theorem isJson_fields [FloatFormat F] : (Value.dict r.fields : Value F).IsJson := by
  constructor
  · simp only [fields, List.forall_mem_cons, List.not_mem_nil, false_imp_iff, implies_true,
      and_true]
    simp
  · simp only [fields, List.forall_mem_cons, List.not_mem_nil, false_imp_iff, implies_true,
      and_true]
    exact ⟨.int _, .str _, .str _, .str _, .str _, .str _, .str _, .str _, .str _⟩

theorem isJson_entries [FloatFormat F] : (Value.dict (r.entries hash) : Value F).IsJson := by
  cases (isJson_fields : (Value.dict r.fields : Value F).IsJson) with
  | dict keys all =>
      exact .dict (forall_mem_entries.mpr ⟨keys, _, rfl⟩) (forall_mem_entries.mpr ⟨all, .str hash⟩)

theorem Proper.unicode_fields (proper : r.Proper) : (Value.dict r.fields : Value F).Unicode := by
  have previous : Scalars r.previousEventHash := by
    rcases proper.previousEventHash with marker | good
    · rw [marker]
      exact scalars_lit _
    · exact scalars_of_isHash good
  obtain ⟨d, stamped⟩ := proper.timestamp
  constructor
  · simp only [fields, List.forall_mem_cons, List.not_mem_nil, false_imp_iff, implies_true,
      and_true]
    exact ⟨scalars_lit _, scalars_lit _, scalars_lit _, scalars_lit _, scalars_lit _, scalars_lit _,
      scalars_lit _, scalars_lit _, scalars_lit _⟩
  · simp only [fields, List.forall_mem_cons, List.not_mem_nil, false_imp_iff, implies_true,
      and_true]
    exact ⟨.int _, .str (scalars_of_isHash proper.eventIdSha256),
      .str (scalars_of_isHash proper.eventTypeSha256),
      .str (scalars_of_isHash proper.entityRefSha256), .str (stamped ▸ scalars_timestampText d),
      .str (scalars_of_isHash proper.payloadSha256), .str previous,
      .str (scalars_of_isHash proper.eventHash),
      .str (scalars_of_isHash proper.previousReceiptHash)⟩

theorem Proper.unicode_entries (proper : r.Proper) (good : IsHash hash) :
    (Value.dict (r.entries hash) : Value F).Unicode := by
  cases (proper.unicode_fields : (Value.dict r.fields : Value F).Unicode) with
  | dict keys all =>
      exact .dict (forall_mem_entries.mpr ⟨keys, scalars_lit _⟩)
        (forall_mem_entries.mpr ⟨all, .str (scalars_of_isHash good)⟩)

theorem fits_entries {limit : Nat} (fits : (Value.int r.sequence : Value F).fits limit = true) :
    (Value.dict (r.entries hash) : Value F).fits limit = true := by
  refine fits_dict.mpr (forall_mem_entries.mpr ⟨?_, rfl⟩)
  simp only [fields, List.forall_mem_cons, List.not_mem_nil, false_imp_iff, implies_true, and_true]
  exact ⟨fits, rfl, rfl, rfl, rfl, rfl, rfl, rfl, rfl⟩

/-- A receipt in the document that is read back. -/
theorem getItem_sorted (name : String) :
    getItem (sortedEntries (r.entries hash : Entries F)) name =
      sortKeys (getItem (r.entries hash) name) :=
  getItem_sortedEntries_of_distinct distinct_entries name

/-- What the items of a receipt that was read back are. -/
structure Items (receipt : Entries F) (r : Receipt) (hash : Str) : Prop where
  sequence : getItem receipt "sequence" = .int r.sequence
  eventIdSha256 : getItem receipt "event_id_sha256" = .str r.eventIdSha256
  eventTypeSha256 : getItem receipt "event_type_sha256" = .str r.eventTypeSha256
  entityRefSha256 : getItem receipt "entity_ref_sha256" = .str r.entityRefSha256
  occurredAt : getItem receipt "occurred_at" = .str r.occurredAt
  payloadSha256 : getItem receipt "payload_sha256" = .str r.payloadSha256
  previousEventHash : getItem receipt "previous_event_hash" = .str r.previousEventHash
  eventHash : getItem receipt "event_hash" = .str r.eventHash
  previousReceiptHash : getItem receipt "previous_receipt_hash" = .str r.previousReceiptHash
  receiptHash : getItem receipt "receipt_hash" = .str hash

theorem items_sorted : Items (sortedEntries (r.entries hash : Entries F)) r hash := by
  constructor
  all_goals
    rw [getItem_sorted]
    simp [getItem, entries, fields, sortKeys]

/-- Without its hash, a receipt that was read back has the hash it was given. -/
theorem hashJson_filter [FloatFormat F] (host : Host) :
    hashJson host (.dict ((sortedEntries (r.entries hash : Entries F)).filter fun entry =>
      entry.1 ≠ key "receipt_hash")) = hashJson host (.dict r.fields : Value F) := by
  have plain : (r.entries hash : Entries F).map sortKeysEntry = r.entries hash := rfl
  have kept : (r.entries hash : Entries F).filter (fun entry => entry.1 ≠ key "receipt_hash") =
      r.fields := by
    simp [entries, fields]
  have perm := (Entries.sort_perm (r.entries hash : Entries F)).filter
    (fun entry => decide (entry.1 ≠ key "receipt_hash"))
  rw [kept] at perm
  rw [sortedEntries, plain]
  have strings : Entries.StringKeys (r.fields : Entries F) := by
    cases (isJson_fields : (Value.dict r.fields : Value F).IsJson) with
    | dict keys all => exact keys
  have json : (Value.dict ((Entries.sort (r.entries hash : Entries F)).filter fun entry =>
      entry.1 ≠ key "receipt_hash")).IsJson := by
    cases (isJson_fields : (Value.dict r.fields : Value F).IsJson) with
    | dict keys all =>
        exact .dict (fun entry member => keys entry (perm.mem_iff.mp member))
          fun entry member => all entry (perm.mem_iff.mp member)
  rw [← hashJson_sortKeys json, ← hashJson_sortKeys isJson_fields,
    sortKeys_congr perm.symm distinct_fields strings]

end Entries

end Receipt

/-! ## Chains of receipts -/

section Chains

variable [FloatFormat F] {host : Host} {now : DateTime}

/-- Receipts with their hashes from a position on, each naming the one before it. -/
inductive Chained (F : Type) [FloatFormat F] (host : Host) :
    Nat → Links → List (Receipt × Str) → Links → Prop where
  | nil {position : Nat} {links : Links} : Chained F host position links [] links
  | cons {position : Nat} {links last : Links} {r : Receipt} {hash : Str}
      {rest : List (Receipt × Str)} (proper : r.Proper) (sequence : r.sequence = position)
      (event : r.previousEventHash = links.eventHash)
      (receipt : r.previousReceiptHash = links.receiptHash)
      (hashed : hashJson host (.dict r.fields : Value F) = .ok hash)
      (tail : Chained F host (position + 1) ⟨r.eventHash, hash⟩ rest last) :
      Chained F host position links ((r, hash) :: rest) last

/-- The receipts as a document lists them. -/
def receiptValues (receipts : List (Receipt × Str)) : List (Value F) :=
  receipts.map fun r => .dict (r.1.entries r.2)

/-- A property of every receipt that is proper with its hash holds along a chain. -/
theorem Chained.forall_receiptValues {P : Value F → Prop} {position : Nat} {links last : Links}
    {receipts : List (Receipt × Str)} (chained : Chained F host position links receipts last)
    (each : ∀ (r : Receipt) (hash : Str), r.Proper → IsHash hash → P (.dict (r.entries hash))) :
    ∀ v ∈ (receiptValues receipts : List (Value F)), P v := by
  induction chained with
  | nil => simp [receiptValues]
  | cons proper _ _ _ hashed _ ih =>
      rw [receiptValues, List.map_cons, List.forall_mem_cons]
      exact ⟨each _ _ proper (isHash_of_hashJson hashed), ih⟩

/-- Receipts of positions that fit are within the limit. -/
theorem Chained.fits {limit position : Nat} {links last : Links}
    {receipts : List (Receipt × Str)} (chained : Chained F host position links receipts last)
    (each : ∀ n < position + receipts.length, (Value.int n : Value F).fits limit = true) :
    ∀ v ∈ (receiptValues receipts : List (Value F)), v.fits limit = true := by
  induction chained with
  | nil => simp [receiptValues]
  | cons proper sequence _ _ _ _ ih =>
      rw [List.length_cons] at each
      rw [receiptValues, List.map_cons, List.forall_mem_cons]
      refine ⟨Receipt.fits_entries (sequence ▸ each _ (by omega)), ih fun n below => each n ?_⟩
      omega

theorem silent_checkTimestamp {label : Str} {d : DateTime} :
    Silent (checkTimestamp host now label (.str (timestampText d) : Value F)) () := by
  have normalized := normalizeTimestamp_timestampText (F := F) host now d
  have recovered : Silent (recover (some <$> normalizeTimestamp host now
      (.str (timestampText d) : Value F)) (PyError.timestampErrors label) none)
      (some (timestampText d)) := by
    rw [normalized]
    rfl
  exact recovered.bind (silent_report.mpr (by simp))

omit [FloatFormat F] in
theorem isHashValue_str {s : Str} : isHashValue (.str s : Value F) = true ↔ IsHash s := by
  simp [isHashValue]

theorem silent_checkReceipt {label : Str} {position : Nat} {links : Links} {r : Receipt} {hash : Str}
    (proper : r.Proper) (sequence : r.sequence = position)
    (event : r.previousEventHash = links.eventHash)
    (receipt : r.previousReceiptHash = links.receiptHash)
    (hashed : hashJson host (.dict r.fields : Value F) = .ok hash) :
    Silent (checkReceipt host now label position links (sortedEntries (r.entries hash : Entries F)))
      ⟨r.eventHash, hash⟩ := by
  have good := isHash_of_hashJson hashed
  have items : Receipt.Items (sortedEntries (r.entries hash : Entries F)) r hash :=
    Receipt.items_sorted
  obtain ⟨d, stamped⟩ := proper.timestamp
  have hashes : (RECEIPT_HASHES.filter fun field =>
      !isHashValue (getItem (sortedEntries (r.entries hash : Entries F)) field)) = [] := by
    rw [List.filter_eq_nil_iff]
    simp only [RECEIPT_HASHES, List.forall_mem_cons, Bool.not_eq_true', Bool.not_eq_false,
      items.eventIdSha256, items.eventTypeSha256, items.entityRefSha256, items.payloadSha256,
      items.eventHash, items.previousReceiptHash, items.receiptHash, isHashValue_str]
    exact ⟨proper.eventIdSha256, proper.eventTypeSha256, proper.entityRefSha256,
      proper.payloadSha256, proper.eventHash, proper.previousReceiptHash, good, by simp⟩
  have previous : ¬ (¬ (Value.str r.previousEventHash : Value F).pyEq (.str GENESIS_MARKER) = true ∧
      isHashValue (.str r.previousEventHash : Value F) = false) := by
    rintro ⟨other, bad⟩
    rcases proper.previousEventHash with marker | good
    · exact other (Value.pyEq_str.mpr (congrArg Value.str marker))
    · rw [isHashValue_str.mpr good] at bad
      cases bad
  unfold checkReceipt
  rw [items.sequence, items.previousEventHash, items.occurredAt, items.previousReceiptHash,
    items.receiptHash, items.eventHash, hashes, stamped]
  refine .report ?_ (.reportAll rfl (.report previous (.bind silent_checkTimestamp ?_)))
  · rw [not_not, isNumber_iff, sequence]
  refine .report ?_ (.report ?_ ?_)
  · rw [not_not, Value.pyEq_str, event]
  · rw [not_not, Value.pyEq_str, receipt]
  refine .bind (silent_ofExcept.mpr ((Receipt.hashJson_filter host).trans hashed)) ?_
  refine .report ?_ (silent_pure.mpr rfl)
  rw [not_not, Value.pyEq_str]

omit [FloatFormat F] in
theorem entriesWithKeys_sorted {entries : Entries F} {keys : List Key} (known : hasKeys entries keys) :
    entriesWithKeys (.dict (sortedEntries entries)) keys = some (sortedEntries entries) := by
  rw [entriesWithKeys, if_pos (hasKeys_sortedEntries.mpr known)]

theorem silent_checkReceipts {position : Nat} {links last : Links} {receipts : List (Receipt × Str)}
    (chained : Chained F host position links receipts last) :
    Silent (checkReceipts host now position links
      ((receiptValues receipts : List (Value F)).map sortKeys)) last := by
  induction chained with
  | nil => exact silent_pure.mpr rfl
  | @cons position links last r hash rest proper sequence event receipt hashed tail ih =>
      rw [receiptValues, List.map_cons, List.map_cons, sortKeys_dict, checkReceipts,
        entriesWithKeys_sorted Receipt.hasKeys_entries]
      exact (silent_checkReceipt proper sequence event receipt hashed).bind ih

end Chains

/-! ## What an accepted ledger exports -/

section Exported

variable [FloatFormat F] {host : Host} {now : DateTime}

/-- The events have the readings, in order from a position on. -/
inductive ReadsAll (host : Host) (now : DateTime) :
    Nat → Option Str → List (Event F) → List Reading → Prop where
  | nil {position : Nat} {previous : Option Str} : ReadsAll host now position previous [] []
  | cons {position : Nat} {previous : Option Str} {e : Event F} {r : Reading}
      {events : List (Event F)} {readings : List Reading}
      (reads : Reads host now position previous e r)
      (tail : ReadsAll host now (position + 1) (some r.eventHash) events readings) :
      ReadsAll host now position previous (e :: events) (r :: readings)

theorem ReadsAll.concat {position : Nat} {previous : Option Str} {events : List (Event F)}
    {readings : List Reading} {e : Event F} {r : Reading}
    (all : ReadsAll host now position previous events readings)
    (reads : Reads host now (position + events.length) ((lastHash readings).or previous) e r) :
    ReadsAll host now position previous (events ++ [e]) (readings ++ [r]) := by
  induction all with
  | nil => exact .cons reads .nil
  | @cons position previous first reading events readings head tail ih =>
      refine .cons head (ih ?_)
      have place : position + 1 + events.length = position + (first :: events).length := by
        rw [List.length_cons]
        omega
      have last : (lastHash (reading :: readings)).or previous =
          (lastHash readings).or (some reading.eventHash) := by
        cases readings using List.reverseRecOn with
        | nil => rfl
        | append_singleton front final =>
            rw [← List.cons_append, lastHash_append_singleton, lastHash_append_singleton]
            rfl
      rw [place, ← last]
      exact reads

theorem Verified.readsAll {shape : Value F → List Str → Prop} {values : List (Value F)}
    {readings : List Reading} (verified : Verified host now shape values readings)
    {events : List (Event F)} (same : events.map Event.toValue = values) :
    ReadsAll host now 1 none events readings := by
  induction verified generalizing events with
  | nil =>
      obtain rfl := List.map_eq_nil_iff.mp same
      exact .nil
  | @snoc values readings value e r before event reads fresh keyFresh correction ih =>
      obtain ⟨front, back, rfl, frontEq, backEq⟩ := List.map_eq_append_iff.mp same
      obtain ⟨last, rfl, rfl⟩ := List.map_eq_singleton_iff.mp backEq
      obtain rfl := Option.some.inj ((Event.ofValue_toValue last).symm.trans event)
      refine (ih frontEq).concat ?_
      have length : front.length = values.length := by rw [← frontEq, List.length_map]
      rw [Option.or_none, length, Nat.add_comm]
      exact reads

/-! ### One receipt -/

theorem exists_sha256Text (host : Host) {s : Str} (scalars : Scalars s) :
    ∃ hash, sha256Text host s = .ok hash := by
  obtain ⟨encoded, encodes⟩ := exists_encodeUtf8.mpr scalars
  exact ⟨_, sha256Text_ok.mpr ⟨encoded, encodes, rfl⟩⟩

omit [FloatFormat F] in
/-- The text of a field of an event without lone surrogates. -/
theorem exists_text {e : Event F} (unicode : e.toValue.Unicode) {name field : String} {v : Value F}
    {maximum : Nat} {s : Str} (member : (key name, v) ∈ e.entries)
    (normalized : normalizeText v field maximum = .ok s) : ∃ raw, v = .str raw ∧ Scalars raw := by
  obtain ⟨raw, rfl, _⟩ := normalizeText_ok.mp normalized
  cases unicode with
  | dict keys all =>
      cases all _ member with
      | str scalars => exact ⟨raw, rfl, scalars⟩

/-- The version of an entity, or nothing in its place. -/
theorem exists_version {e : Event F} (unicode : e.toValue.Unicode) {o : Option Str}
    (normalized : normalizeOptionalText e.entityVersion "entity_version" 128 = .ok o) :
    ∃ version, orDefault e.entityVersion (.str []) = .str version ∧ Scalars version := by
  rcases normalizeOptionalText_ok.mp normalized with ⟨absent, _⟩ | ⟨s, _, found⟩
  · exact ⟨[], by rw [absent]; rfl, scalars_nil⟩
  · have member : (key "entity_version", e.entityVersion) ∈ e.entries := by simp [Event.entries]
    obtain ⟨raw, stored, scalars⟩ := exists_text unicode member found
    rw [stored, orDefault]
    split
    · exact ⟨raw, rfl, scalars⟩
    · exact ⟨[], rfl, scalars_nil⟩

/-- The predecessor that a receipt names. -/
theorem orDefault_previous {previous : Option Str}
    (good : ∀ hash, previous = some hash → IsHash hash) :
    orDefault (optional previous : Value F) (.str GENESIS_MARKER) =
      .str (previous.getD GENESIS_MARKER) := by
  cases previous with
  | none => rfl
  | some hash =>
      have nonempty : hash ≠ [] := by
        rintro rfl
        exact absurd (good [] rfl).1 (by decide)
      simp [orDefault, optional, Value.truthy, nonempty]

/-- The receipt of an event that was read seals it behind the hashes before. -/
theorem receiptWithoutHash_ok {position : Nat} {previous : Option Str} {e : Event F} {r : Reading}
    {link : Str} (reads : Reads host now position previous e r) (unicode : e.toValue.Unicode)
    (previousGood : ∀ hash, previous = some hash → IsHash hash) (linkGood : IsHash link) :
    ∃ receipt : Receipt, receipt.Proper ∧ receiptWithoutHash host link e = .ok receipt.fields ∧
      receipt.sequence = position ∧ receipt.previousEventHash = previous.getD GENESIS_MARKER ∧
      receipt.previousReceiptHash = link ∧ receipt.eventHash = r.eventHash ∧
      receipt.occurredAt = r.occurredAt := by
  have members : (key "event_id", e.eventId) ∈ e.entries ∧
      (key "event_type", e.eventType) ∈ e.entries ∧
      (key "entity_type", e.entityType) ∈ e.entries ∧
      (key "entity_id", e.entityId) ∈ e.entries := by
    simp [Event.entries]
  obtain ⟨idMember, typeMember, entityTypeMember, entityIdMember⟩ := members
  obtain ⟨eventId, eventIdEq, idScalars⟩ := exists_text unicode idMember reads.identity.eventId
  obtain ⟨eventType, typeEq, typeScalars⟩ := exists_text unicode typeMember reads.identity.eventType
  obtain ⟨entityType, entityTypeEq, entityTypeScalars⟩ :=
    exists_text unicode entityTypeMember reads.identity.entityType
  obtain ⟨entityId, entityIdEq, entityIdScalars⟩ :=
    exists_text unicode entityIdMember reads.identity.entityId
  obtain ⟨version, versionEq, versionScalars⟩ := exists_version unicode reads.identity.entityVersion
  have refScalars : Scalars (List.intercalate (lit "|") [entityType, entityId, version]) := by
    refine scalars_intercalate (scalars_lit _) ?_
    simp only [List.forall_mem_cons, List.not_mem_nil, false_imp_iff, implies_true, and_true]
    exact ⟨entityTypeScalars, entityIdScalars, versionScalars⟩
  obtain ⟨idHash, idHashEq⟩ := exists_sha256Text host idScalars
  obtain ⟨typeHash, typeHashEq⟩ := exists_sha256Text host typeScalars
  obtain ⟨refHash, refHashEq⟩ := exists_sha256Text host refScalars
  refine ⟨⟨position, idHash, typeHash, refHash, r.occurredAt, r.payloadSha256,
    previous.getD GENESIS_MARKER, r.eventHash, link⟩, ?_, ?_, rfl, rfl, rfl, rfl, rfl⟩
  · constructor
    · exact isHash_of_sha256Text idHashEq
    · exact isHash_of_sha256Text typeHashEq
    · exact isHash_of_sha256Text refHashEq
    · exact normalizeTimestamp_text reads.timestamp
    · exact isHash_of_sha256Text reads.payloadHash
    · cases previous with
      | none => exact .inl rfl
      | some hash => exact .inr (previousGood hash rfl)
    · exact reads.isHash
    · exact linkGood
  · rw [receiptWithoutHash, entityTypeEq, entityIdEq, versionEq, eventIdEq, typeEq, reads.sequence,
      reads.occurredAt, reads.payloadSha256, reads.previous, orDefault_previous previousGood,
      reads.eventHash]
    simp only [requireText, bind, Except.bind, idHashEq, typeHashEq, refHashEq]
    rfl

/-! ### All receipts -/

/-- The value is a receipt that says nothing of the event but its place, its time and
hashes. -/
def Bare (e : Event F) (receipt : Value F) : Prop :=
  ∃ entries, receipt = .dict entries ∧ hasKeys entries RECEIPT_KEYS ∧
    getItem entries "sequence" = e.sequence ∧ getItem entries "occurred_at" = e.occurredAt ∧
    ∀ entry ∈ entries, entry.1 = key "sequence" ∨ entry.1 = key "occurred_at" ∨
      isHashValue entry.2 = true ∨ entry = (key "previous_event_hash", .str GENESIS_MARKER)

omit [FloatFormat F] in
theorem bare_sortKeys {e : Event F} {r : Receipt} {hash : Str} (proper : r.Proper)
    (good : IsHash hash) (sequence : e.sequence = .int r.sequence)
    (occurred : e.occurredAt = .str r.occurredAt) :
    Bare e (sortKeys (.dict (r.entries hash))) := by
  have items : Receipt.Items (sortedEntries (r.entries hash : Entries F)) r hash :=
    Receipt.items_sorted
  refine ⟨_, sortKeys_dict _, hasKeys_sortedEntries.mpr Receipt.hasKeys_entries,
    items.sequence.trans sequence.symm, items.occurredAt.trans occurred.symm, ?_⟩
  have plain : (r.entries hash : Entries F).map sortKeysEntry = r.entries hash := rfl
  intro entry member
  rw [sortedEntries, plain, (Entries.sort_perm _).mem_iff] at member
  revert entry
  rw [Receipt.forall_mem_entries]
  constructor
  · simp only [Receipt.fields, List.forall_mem_cons, List.not_mem_nil, false_imp_iff, implies_true,
      and_true, isHashValue_str]
    have previous : IsHash r.previousEventHash ∨
        (key "previous_event_hash", (.str r.previousEventHash : Value F)) =
          (key "previous_event_hash", .str GENESIS_MARKER) := by
      rcases proper.previousEventHash with marker | known
      · exact .inr (by rw [marker])
      · exact .inl known
    exact ⟨.inl trivial, .inr (.inr (.inl proper.eventIdSha256)),
      .inr (.inr (.inl proper.eventTypeSha256)), .inr (.inr (.inl proper.entityRefSha256)),
      .inr (.inl trivial), .inr (.inr (.inl proper.payloadSha256)),
      .inr (.inr previous), .inr (.inr (.inl proper.eventHash)),
      .inr (.inr (.inl proper.previousReceiptHash))⟩
  · exact .inr (.inr (.inl (isHashValue_str.mpr good)))

/-- An accepted ledger exports a chain of receipts, one for each event. -/
theorem exists_receipts {position : Nat} {previous : Option Str} {events : List (Event F)}
    {readings : List Reading} {link : Str}
    (all : ReadsAll host now position previous events readings)
    (unicode : ∀ e ∈ events, e.toValue.Unicode)
    (previousGood : ∀ hash, previous = some hash → IsHash hash) (linkGood : IsHash link) :
    ∃ receipts last, receiptsFrom host link events = .ok (receiptValues receipts, last.receiptHash) ∧
      Chained F host position ⟨previous.getD GENESIS_MARKER, link⟩ receipts last ∧
      last.eventHash = ((lastHash readings).or previous).getD GENESIS_MARKER ∧
      IsHash last.receiptHash ∧
      List.Forall₂ Bare events ((receiptValues receipts : List (Value F)).map sortKeys) := by
  induction all generalizing link with
  | nil => exact ⟨[], ⟨_, link⟩, rfl, .nil, rfl, linkGood, .nil⟩
  | @cons position previous e r events readings reads tail ih =>
      obtain ⟨receipt, proper, sealedOk, sequence, named, linked, hashEq, occurred⟩ :=
        receiptWithoutHash_ok reads (unicode e List.mem_cons_self) previousGood linkGood
      obtain ⟨hash, hashed⟩ := exists_hashJson host (Receipt.isJson_fields (F := F))
        proper.unicode_fields
      have good := isHash_of_hashJson hashed
      obtain ⟨receipts, last, ran, chained, final, lastGood, bare⟩ :=
        ih (fun other member => unicode other (List.mem_cons_of_mem _ member))
          (fun other same => Option.some.inj same ▸ reads.isHash) good
      refine ⟨(receipt, hash) :: receipts, last, ?_, ?_, ?_, lastGood, ?_⟩
      · simp only [receiptsFrom, bind, Except.bind, sealedOk, hashed, ran]
        rfl
      · refine .cons proper sequence named linked hashed ?_
        rw [hashEq]
        exact chained
      · rw [final]
        cases readings using List.reverseRecOn with
        | nil => rfl
        | append_singleton front other =>
            rw [← List.cons_append, lastHash_append_singleton, lastHash_append_singleton]
            rfl
      · refine .cons (bare_sortKeys proper good ?_ ?_) bare
        · rw [reads.sequence, sequence]
        · rw [reads.occurredAt, occurred]

end Exported

/-! ## The document -/

/-- What an export says besides its receipts. -/
structure Cover where
  createdAt : Str
  eventCount : Nat
  head : Str
  receiptHead : Str
  digest : Str

namespace Cover

def integrity (c : Cover) : Entries F :=
  [(key "source_verification", .str (lit "pass")), (key "event_count", .int c.eventCount),
    (key "first_sequence", if c.eventCount = 0 then .none else .int 1),
    (key "last_sequence", if c.eventCount = 0 then .none else .int c.eventCount),
    (key "head_hash", .str c.head), (key "receipt_head_hash", .str c.receiptHead)]

def entries (c : Cover) (receipts : List (Value F)) : Entries F :=
  [(key "format", .str COLD_EXPORT_FORMAT), (key "schema_version", .str SCHEMA_VERSION),
    (key "created_at", .str c.createdAt), (key "integrity", .dict c.integrity),
    (key "receipts", .list receipts), (key "receipts_sha256", .str c.digest)]

variable {c : Cover} {receipts : List (Value F)}

theorem keys_integrity : (c.integrity : Entries F).map Prod.fst = INTEGRITY_KEYS := rfl

theorem keys_entries : (c.entries receipts).map Prod.fst = EXPORT_KEYS := rfl

theorem distinct_integrity : ((c.integrity : Entries F).map Prod.fst).Nodup := by
  rw [keys_integrity]
  decide

theorem distinct_entries : ((c.entries receipts).map Prod.fst).Nodup := by
  rw [keys_entries]
  decide

theorem hasKeys_integrity : hasKeys (c.integrity : Entries F) INTEGRITY_KEYS := by
  rw [hasKeys, keys_integrity]
  exact ⟨fun _ member => member, fun _ member => member⟩

theorem hasKeys_entries : hasKeys (c.entries receipts) EXPORT_KEYS := by
  rw [hasKeys, keys_entries]
  exact ⟨fun _ member => member, fun _ member => member⟩

/-- A property of the values of a cover, with the two positions that may be missing. -/
theorem forall_integrity {P : Value F → Prop} (null : P .none) (one : P (.int 1))
    (count : P (.int c.eventCount)) (pass : P (.str (lit "pass"))) (head : P (.str c.head))
    (receiptHead : P (.str c.receiptHead)) :
    ∀ entry ∈ (c.integrity : Entries F), P entry.2 := by
  simp only [integrity, List.forall_mem_cons, List.not_mem_nil, false_imp_iff, implies_true,
    and_true]
  by_cases empty : c.eventCount = 0
  · simp only [empty, if_true]
    exact ⟨pass, empty ▸ count, null, null, head, receiptHead⟩
  · simp only [empty, if_false]
    exact ⟨pass, count, one, count, head, receiptHead⟩

theorem wellFormed (all : ∀ receipt ∈ receipts, receipt.WellFormed) :
    (Value.dict (c.entries receipts)).WellFormed := by
  refine .dict distinct_entries ?_
  simp only [entries, List.forall_mem_cons, List.not_mem_nil, false_imp_iff, implies_true,
    and_true]
  have inner : (Value.dict c.integrity : Value F).WellFormed :=
    .dict distinct_integrity (forall_integrity .none (.int 1) (.int _) (.str _) (.str _) (.str _))
  exact ⟨.str _, .str _, .str _, inner, .list all, .str _⟩

theorem isJson [FloatFormat F] (all : ∀ receipt ∈ receipts, receipt.IsJson) :
    (Value.dict (c.entries receipts)).IsJson := by
  have inner : (Value.dict c.integrity : Value F).IsJson := by
    refine .dict ?_ (forall_integrity .none (.int 1) (.int _) (.str _) (.str _) (.str _))
    simp [integrity]
  refine .dict ?_ ?_
  · simp [entries]
  · simp only [entries, List.forall_mem_cons, List.not_mem_nil, false_imp_iff, implies_true,
      and_true]
    exact ⟨.str _, .str _, .str _, inner, .list all, .str _⟩

theorem unicode (createdAt : Scalars c.createdAt) (head : Scalars c.head)
    (receiptHead : Scalars c.receiptHead) (digest : Scalars c.digest)
    (all : ∀ receipt ∈ receipts, receipt.Unicode) :
    (Value.dict (c.entries receipts)).Unicode := by
  have inner : (Value.dict c.integrity : Value F).Unicode := by
    refine .dict ?_ (forall_integrity .none (.int 1) (.int _) (.str (scalars_lit _))
      (.str head) (.str receiptHead))
    simp only [integrity, List.forall_mem_cons, List.not_mem_nil, false_imp_iff, implies_true,
      and_true]
    exact ⟨scalars_lit _, scalars_lit _, scalars_lit _, scalars_lit _, scalars_lit _, scalars_lit _⟩
  constructor
  · simp only [entries, List.forall_mem_cons, List.not_mem_nil, false_imp_iff, implies_true,
      and_true]
    exact ⟨scalars_lit _, scalars_lit _, scalars_lit _, scalars_lit _, scalars_lit _, scalars_lit _⟩
  · simp only [entries, List.forall_mem_cons, List.not_mem_nil, false_imp_iff, implies_true,
      and_true]
    exact ⟨.str (scalars_lit _), .str (scalars_lit _), .str createdAt, inner, .list all, .str digest⟩

theorem fits {limit : Nat} (one : (Value.int 1 : Value F).fits limit = true)
    (count : (Value.int c.eventCount : Value F).fits limit = true)
    (all : ∀ receipt ∈ receipts, receipt.fits limit = true) :
    (Value.dict (c.entries receipts)).fits limit = true := by
  have inner : (Value.dict c.integrity : Value F).fits limit = true :=
    fits_dict.mpr (forall_integrity (P := fun v => v.fits limit = true) rfl one count rfl rfl rfl)
  rw [fits_dict]
  simp only [entries, List.forall_mem_cons, List.not_mem_nil, false_imp_iff, implies_true,
    and_true]
  exact ⟨rfl, rfl, rfl, inner, fits_list.mpr all, rfl⟩

theorem getItem_sorted (name : String) :
    getItem (sortedEntries (c.entries receipts)) name =
      sortKeys (getItem (c.entries receipts) name) :=
  getItem_sortedEntries_of_distinct distinct_entries name

theorem getItem_sorted_integrity (name : String) :
    getItem (sortedEntries (c.integrity : Entries F)) name =
      sortKeys (getItem (c.integrity : Entries F) name) :=
  getItem_sortedEntries_of_distinct distinct_integrity name

theorem getItem_integrity : getItem (c.entries receipts) "integrity" = .dict c.integrity := by
  simp [getItem, entries]

theorem integrityOf_sorted :
    integrityOf (sortedEntries (c.entries receipts)) = some (sortedEntries c.integrity) := by
  rw [integrityOf, getItem_sorted, getItem_integrity, sortKeys_dict, entriesWithKeys_sorted hasKeys_integrity]

theorem receipts_sorted :
    getItem (sortedEntries (c.entries receipts)) "receipts" = .list (receipts.map sortKeys) := by
  have item : getItem (c.entries receipts) "receipts" = .list receipts := by
    simp [getItem, entries]
  rw [getItem_sorted, item, sortKeys, sortKeysItems_eq_map]

theorem receiptsOf_sorted :
    receiptsOf (sortedEntries (c.entries receipts)) = some (receipts.map sortKeys) := by
  rw [receiptsOf, receipts_sorted]

theorem eventCountOf_sorted :
    eventCountOf (sortedEntries (c.integrity : Entries F)) = some c.eventCount := by
  have item : getItem (c.integrity : Entries F) "event_count" = .int c.eventCount := by
    simp [getItem, integrity]
  have ordered : sortKeys (.int c.eventCount : Value F) = .int c.eventCount := rfl
  rw [eventCountOf, getItem_sorted_integrity, item, ordered]
  simp

/-- The fields of the document that verification compares. -/
structure Items (c : Cover) (document integrity : Entries F) : Prop where
  format : getItem document "format" = .str COLD_EXPORT_FORMAT
  schemaVersion : getItem document "schema_version" = .str SCHEMA_VERSION
  createdAt : getItem document "created_at" = .str c.createdAt
  digest : getItem document "receipts_sha256" = .str c.digest
  pass : getItem integrity "source_verification" = .str (lit "pass")
  first : getItem integrity "first_sequence" = if c.eventCount = 0 then .none else .int 1
  last : getItem integrity "last_sequence" = if c.eventCount = 0 then .none else .int c.eventCount
  head : getItem integrity "head_hash" = .str c.head
  receiptHead : getItem integrity "receipt_head_hash" = .str c.receiptHead

theorem items_sorted : Items c (sortedEntries (c.entries receipts)) (sortedEntries c.integrity) := by
  constructor
  case first | last =>
    rw [getItem_sorted_integrity]
    by_cases empty : c.eventCount = 0
    · simp [getItem, integrity, sortKeys, empty]
    · simp [getItem, integrity, sortKeys, empty]
  case format | schemaVersion | createdAt | digest =>
    rw [getItem_sorted]
    simp [getItem, entries, sortKeys]
  case pass | head | receiptHead =>
    rw [getItem_sorted_integrity]
    simp [getItem, integrity, sortKeys]

end Cover

/-! ## Reading an export back -/

section Back

variable [FloatFormat F] {host : Host} {now : DateTime}

/-- The event hash that verification expects at the head of the receipts. -/
def finalHash (receipts : List (Receipt × Str)) (last : Links) : Str :=
  if receipts = [] then ZERO_HASH else last.eventHash

/-- A chain of receipts under its cover is checked without a complaint. -/
theorem silent_checkExport {c : Cover} {receipts : List (Receipt × Str)} {last : Links}
    {exportSha256 : Str} (chained : Chained F host 1 ⟨GENESIS_MARKER, ZERO_HASH⟩ receipts last)
    (stamped : ∃ d : DateTime, c.createdAt = timestampText d)
    (count : c.eventCount = receipts.length) (head : c.head = finalHash receipts last)
    (receiptHead : c.receiptHead = last.receiptHash)
    (digest : hashJson host (.list (receiptValues receipts) : Value F) = .ok c.digest)
    (json : (Value.list (receiptValues receipts) : Value F).IsJson) :
    Silent (checkExport host now exportSha256 c.head exportSha256
        (sortedEntries (c.entries (receiptValues receipts) : Entries F)))
      ⟨true, c.eventCount, c.head, c.receiptHead, exportSha256⟩ := by
  have items : Cover.Items c (sortedEntries (c.entries (receiptValues receipts) : Entries F))
      (sortedEntries c.integrity) := Cover.items_sorted
  have length : ((receiptValues receipts : List (Value F)).map sortKeys).length = c.eventCount := by
    rw [List.length_map, receiptValues, List.length_map, count]
  have digestBack : hashJson host (.list ((receiptValues receipts : List (Value F)).map sortKeys)) =
      .ok c.digest := by
    rw [← sortKeysItems_eq_map, ← sortKeys, hashJson_sortKeys json, digest]
  have isEmpty : ((receiptValues receipts : List (Value F)).map sortKeys).isEmpty = true ↔
      c.eventCount = 0 := by
    rw [List.isEmpty_iff, ← List.length_eq_zero_iff, length]
  have headEq : (if ((receiptValues receipts : List (Value F)).map sortKeys).isEmpty = true then
      ZERO_HASH else last.eventHash) = c.head := by
    rw [head, finalHash]
    refine if_congr ?_ rfl rfl
    rw [isEmpty, count, List.length_eq_zero_iff]
  obtain ⟨d, stamp⟩ := stamped
  have created : Silent (checkTimestamp host now (lit "cold export created_at")
      (getItem (sortedEntries (c.entries (receiptValues receipts) : Entries F)) "created_at")) () := by
    rw [items.createdAt, stamp]
    exact silent_checkTimestamp
  have first : (getItem (sortedEntries (c.integrity : Entries F)) "first_sequence").pyEq
      (if ((receiptValues receipts : List (Value F)).map sortKeys).isEmpty = true then .none
        else .int 1) = true := by
    rw [items.first, if_congr isEmpty rfl rfl]
    split
    · rw [Value.pyEq_none]
    · rw [Value.int_pyEq_int]
  have final : (getItem (sortedEntries (c.integrity : Entries F)) "last_sequence").pyEq
      (if ((receiptValues receipts : List (Value F)).map sortKeys).isEmpty = true then .none
        else .int ((receiptValues receipts : List (Value F)).map sortKeys).length) = true := by
    rw [items.last, if_congr isEmpty rfl rfl, length]
    split
    · rw [Value.pyEq_none]
    · rw [Value.int_pyEq_int]
  unfold checkExport
  rw [Cover.integrityOf_sorted, Cover.receiptsOf_sorted]
  simp only [Option.getD_some]
  refine .report (by simp) (.report ?_ (.report ?_ (.report ?_ (.bind created ?_))))
  · rw [not_not]
    exact hasKeys_sortedEntries.mpr Cover.hasKeys_entries
  · rw [not_not, Value.pyEq_str, items.format]
  · rw [not_not, Value.pyEq_str, items.schemaVersion]
  refine .report (by simp) (.report (by simp) (.report ?_ (.report ?_ (.report ?_ ?_))))
  · rw [not_not, Value.pyEq_str, items.pass]
  · simp [Cover.eventCountOf_sorted]
  · simp [Cover.eventCountOf_sorted, length]
  refine .bind (silent_ofExcept.mpr digestBack) (.report ?_ (.bind (silent_checkReceipts chained) ?_))
  · rw [not_not, Value.pyEq_str, items.digest]
  refine .report (not_not.mpr first) (.report (not_not.mpr final) (.report ?_ (.report ?_ ?_)))
  · rw [not_not, Value.pyEq_str, headEq, items.head]
  · rw [not_not, Value.pyEq_str, items.head]
  refine .report ?_ (silent_pure.mpr ?_)
  · rw [not_not, Value.pyEq_str, items.receiptHead, receiptHead]
  · rw [Cover.eventCountOf_sorted, headEq, receiptHead]
    rfl

/-! ### Forms of an export -/

/-- The forms in which an export can be handed to verification. -/
inductive Holds (F : Type) [FloatFormat F] (export_ : ColdExport) : ExportForm F → Prop where
  | coldExport : Holds F export_ (.coldExport export_)
  | text : Holds F export_ (.value (.str export_.canonicalJson))
  | bytes {content : List UInt8} (encoded : encodeUtf8 export_.canonicalJson = some content) :
      Holds F export_ (.bytes content)
  | object {v : Value F} (parsed : loadsWith .standard export_.canonicalJson = .ok v) :
      Holds F export_ (.value v)

/-- Every form of the text of a dictionary is read as that dictionary with its keys in order. -/
theorem Holds.coerce {export_ : ColdExport} {form : ExportForm F} {entries : Entries F}
    (holds : Holds F export_ form) (json : (Value.dict entries).IsJson)
    (wellFormed : (Value.dict entries).WellFormed)
    (fits : (Value.dict entries).fits host.digitLimit = true)
    (text : export_.canonicalJson = dumps [] (sortKeys (.dict entries))) :
    coerceExportDocument host form = .ok (sortedEntries entries) := by
  have strict : loadJsonNoDuplicates host (.str export_.canonicalJson : Value F) =
      .ok (.dict (sortedEntries entries)) := by
    have loaded := loadsWith_dumps_sortKeys (Hooks.strict_faithful.limited host.digitLimit)
      blank_nil json wellFormed fits
    simp only [loadJsonNoDuplicates, text, loaded]
    rw [sortKeys_dict]
  have read : readExportForm host form = .ok (.dict (sortedEntries entries)) := by
    cases holds with
    | coldExport => exact strict
    | text => exact strict
    | bytes encoded => simp only [readExportForm, decodeUtf8_encodeUtf8 encoded, strict]
    | object parsed =>
        have loaded := loadsWith_dumps_sortKeys Hooks.standard_faithful blank_nil json wellFormed
          (fits_zero _)
        rw [text, loaded, sortKeys_dict] at parsed
        obtain rfl := Except.ok.inj parsed
        rfl
  rw [coerceExportDocument, read]
  rfl

/-! ### The round trip -/

theorem isHash_zero : IsHash ZERO_HASH := by decide

/-- The head of a ledger and the hash that verification expects at the head of its
receipts are the same. -/
theorem headOf_eq {readings : List Reading} {receipts : List (Receipt × Str)}
    (length : readings.length = receipts.length) :
    headOf readings =
      if receipts = [] then ZERO_HASH else (lastHash readings).getD GENESIS_MARKER := by
  cases readings using List.reverseRecOn with
  | nil =>
      rw [if_pos (List.eq_nil_of_length_eq_zero length.symm)]
      rfl
  | append_singleton front last =>
      have nonempty : receipts ≠ [] := by
        rintro rfl
        simp at length
      rw [if_neg nonempty, headOf, lastHash_append_singleton]
      rfl

/-- The steps of an export that succeeds. -/
theorem exportCold_ok {l : Ledger F} {report : VerificationReport F} {createdAt : Value F}
    {receipts : List (Value F)} {receiptHead time digest canonical sha : Str}
    (ran : l.verify host now = .ok report) (ok : report.ok = true)
    (sealedOk : receiptsFrom host ZERO_HASH l.events = .ok (receipts, receiptHead))
    (valid : normalizeTimestamp host now createdAt = .ok time)
    (hashed : hashJson host (.list receipts) = .ok digest)
    (spelled : canonicalJson (exportDocument time l.events.length report.headHash receipts
      receiptHead digest) = .ok canonical)
    (digested : sha256Text host canonical = .ok sha) :
    l.exportCold host now createdAt = .ok ⟨canonical, sha⟩ := by
  simp only [Ledger.exportCold, bind, Except.bind, ran, ok, sealedOk, valid, hashed, spelled,
    digested]
  rfl

/-- The steps of a verification that succeeds. -/
theorem verifyColdExport_ok {form : ExportForm F} {document : Entries F}
    {found : ColdRestoreReport} {canonical sha head : Str}
    (read : coerceExportDocument host form = .ok document) (anchor : IsHash sha)
    (headAnchor : IsHash head) (spelled : canonicalJson (.dict document) = .ok canonical)
    (digested : sha256Text host canonical = .ok sha)
    (silent : Silent (checkExport host now sha head sha document) found) :
    verifyColdExport host now form (.str sha) (.str head) = .ok (document, found) := by
  have first : requireHash (.str sha : Value F) "expected_export_sha256" true = .ok sha :=
    requireHash_ok.mpr ⟨rfl, anchor⟩
  have second : requireHash (.str head : Value F) "expected_head_hash" true = .ok head :=
    requireHash_ok.mpr ⟨rfl, headAnchor⟩
  have judged : judgeExport host now sha head sha document = .ok found := by
    rw [judgeExport, silent]
  have text : asNotJson (canonicalJson (.dict document)) = .ok canonical := by
    rw [spelled]
    rfl
  simp only [verifyColdExport, bind, Except.bind, read, first, second, text, digested, judged]
  rfl

/-- An accepted ledger has an export that every later verification accepts in each of its
forms, under the digest of the export and the head of the ledger. -/
theorem cold_export_round_trip (later : DateTime) {l : Ledger F} {report : VerificationReport F}
    {createdAt : Value F} {time : Str} (sized : l.events.length ≤ MAXSIZE) (ran : l.verify host now = .ok report)
    (ok : report.ok = true) (unicode : ∀ e ∈ l.events, e.toValue.Unicode)
    (valid : normalizeTimestamp host now createdAt = .ok time) :
    ∃ export_ head receiptHead document integrity receipts,
      l.exportCold host now createdAt = .ok export_ ∧ l.headHash = .str head ∧
      (∃ content, encodeUtf8 export_.canonicalJson = some content) ∧
      loadsWith .standard export_.canonicalJson = .ok (.dict document) ∧
      (∀ form : ExportForm F, Holds F export_ form →
        verifyColdExport host later form (.str export_.exportSha256) l.headHash =
          .ok (document, ⟨true, l.events.length, head, receiptHead, export_.exportSha256⟩)) ∧
      hasKeys document EXPORT_KEYS ∧ getItem document "integrity" = .dict integrity ∧
      hasKeys integrity INTEGRITY_KEYS ∧
      getItem integrity "receipt_head_hash" = .str receiptHead ∧
      getItem document "receipts" = .list receipts ∧ List.Forall₂ Bare l.events receipts := by
  obtain ⟨readings, verified, rfl⟩ := verify_ok.mp ⟨ran, ok⟩
  have ledgerHead := verified.ledgerHead
  have readsAll := (verified.later later).readsAll rfl
  have headGood := isHash_headOf verified
  obtain ⟨receipts, last, exported, chained, final, lastGood, bare⟩ :=
    exists_receipts readsAll unicode (by simp) isHash_zero
  -- the list of receipts and its digest
  have eachJson := chained.forall_receiptValues fun _ _ _ _ => Receipt.isJson_entries (F := F)
  have eachUnicode := chained.forall_receiptValues (P := Value.Unicode) fun _ _ proper good =>
    proper.unicode_entries good
  have eachFormed := chained.forall_receiptValues (P := Value.WellFormed) fun _ _ _ _ =>
    Receipt.wellFormed_entries
  obtain ⟨digest, digestEq⟩ := exists_hashJson host (.list eachJson) (.list eachUnicode)
  obtain ⟨d, stamped⟩ := normalizeTimestamp_text valid
  have timeScalars : Scalars time := by
    rw [stamped]
    exact Receipt.scalars_timestampText d
  have length : l.events.length = receipts.length := by
    rw [bare.length_eq, List.length_map, receiptValues, List.length_map]
  have headEq : headOf readings = finalHash receipts last := by
    rw [finalHash, final, Option.or_none]
    refine headOf_eq ?_
    rw [← verified.length, List.length_map, length]
  -- the document, its text and the digest of the text
  let c : Cover := ⟨time, l.events.length, headOf readings, last.receiptHash, digest⟩
  have json : (Value.dict (c.entries (receiptValues receipts)) : Value F).IsJson :=
    Cover.isJson eachJson
  have wellFormed : (Value.dict (c.entries (receiptValues receipts)) : Value F).WellFormed :=
    Cover.wellFormed eachFormed
  have strings : (Value.dict (c.entries (receiptValues receipts)) : Value F).Unicode :=
    Cover.unicode timeScalars (Receipt.scalars_of_isHash headGood) (Receipt.scalars_of_isHash lastGood)
      (Receipt.scalars_of_isHash (isHash_of_hashJson digestEq)) eachUnicode
  have fits : (Value.dict (c.entries (receiptValues receipts)) : Value F).fits host.digitLimit =
      true :=
    Cover.fits (fits_position host (by decide : 1 ≤ MAXSIZE)) (fits_position host sized)
      (chained.fits fun n below => fits_position host (by omega))
  have spelled := canonicalJson_ok.mpr ⟨json, rfl⟩
  have textScalars := scalars_dumps scalars_nil (sortKeys_isJson json) (sortKeys_unicode strings)
  obtain ⟨sha, shaEq⟩ := exists_sha256Text host textScalars
  have back : canonicalJson (.dict (sortedEntries (c.entries (receiptValues receipts) : Entries F))) =
      .ok (dumps [] (sortKeys (.dict (c.entries (receiptValues receipts) : Entries F)))) := by
    rw [← sortKeys_dict, canonicalJson_sortKeys json, spelled]
  have items : Cover.Items c (sortedEntries (c.entries (receiptValues receipts) : Entries F))
      (sortedEntries c.integrity) := Cover.items_sorted
  have silent : Silent (checkExport host later sha c.head sha
      (sortedEntries (c.entries (receiptValues receipts) : Entries F)))
      ⟨true, c.eventCount, c.head, c.receiptHead, sha⟩ :=
    silent_checkExport chained ⟨d, stamped⟩ length headEq rfl digestEq (.list eachJson)
  refine ⟨⟨_, sha⟩, headOf readings, last.receiptHash,
    sortedEntries (c.entries (receiptValues receipts)), sortedEntries c.integrity, _,
    exportCold_ok ran ok exported valid digestEq spelled shaEq, ledgerHead,
    exists_encodeUtf8.mpr textScalars, ?_, fun form holds => ?_,
    hasKeys_sortedEntries.mpr Cover.hasKeys_entries, ?_,
    hasKeys_sortedEntries.mpr Cover.hasKeys_integrity, items.receiptHead, Cover.receipts_sorted,
    bare⟩
  · rw [← sortKeys_dict]
    exact loadsWith_dumps_sortKeys Hooks.standard_faithful blank_nil json wellFormed (fits_zero _)
  · rw [ledgerHead]
    exact verifyColdExport_ok (holds.coerce json wellFormed fits rfl) (isHash_of_sha256Text shaEq)
      headGood back shaEq silent
  · rw [Cover.getItem_sorted, ← sortKeys_dict]
    exact congrArg sortKeys (Cover.getItem_integrity (c := c))

end Back

theorem cold_export_round_trip_sample :
    ∃ export_ document found,
      (record sampleHost .empty sampleCalls).exportCold sampleHost sampleEnv.now
        (.str (timestampText sampleEnv.now)) = .ok export_ ∧
      ∀ form : ExportForm ZeroFloat, Holds ZeroFloat export_ form →
        verifyColdExport sampleHost sampleEnv.now form (.str export_.exportSha256)
          (record sampleHost .empty sampleCalls).headHash = .ok (document, found) := by
  have evaluated : (acceptedHead ((record sampleHost .empty sampleCalls).verify sampleHost
      sampleEnv.now)).isSome = true ∧
      (record sampleHost .empty sampleCalls).events.length ≤ MAXSIZE ∧
      ((record sampleHost .empty sampleCalls).events.all fun e => e.toValue.isUnicode) = true := by
    decide +kernel
  obtain ⟨head, accepted⟩ := Option.isSome_iff_exists.mp evaluated.1
  obtain ⟨report, ran, ok, _⟩ := acceptedHead_eq_some accepted
  have unicode : ∀ e ∈ (record sampleHost .empty sampleCalls).events, e.toValue.Unicode :=
    fun e member => Value.unicode_of_isUnicode (List.all_eq_true.mp evaluated.2.2 e member)
  obtain ⟨export_, _, _, document, _, _, exported, _, _, _, all, _⟩ :=
    cold_export_round_trip sampleEnv.now evaluated.2.1 ran ok unicode
      (normalizeTimestamp_timestampText sampleHost sampleEnv.now sampleEnv.now)
  exact ⟨export_, document, _, exported, all⟩

end Chlom.Dail
