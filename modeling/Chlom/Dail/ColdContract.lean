import Chlom.Dail.ColdExport
import Chlom.Dail.Escapes
import Chlom.Library.Python.JsonUnicode

/-!
# What escapes the verification of a cold export

A document that is JSON and comes with two valid anchors is refused with a failed restore
or accepted, but for two kinds of documents: those with a lone surrogate, whose canonical
text has no digest, and those with a timestamp that leaves the calendar.
-/

namespace Chlom.Dail

open Python Raises Reports

variable {F : Type} [FloatFormat F] {host : Host} {now : DateTime}

/-! ## Reading -/

theorem readExportForm_only (host : Host) (form : ExportForm F) :
    Only IsRestoreError (readExportForm host form) := by
  unfold readExportForm
  split
  · exact loadJsonNoDuplicates_only host _
  · split
    · exact loadJsonNoDuplicates_only host _
    · exact only_error.mpr ⟨_, rfl⟩
  · exact loadJsonNoDuplicates_only host _
  · split
    · exact .ok
    · exact only_error.mpr ⟨_, rfl⟩

theorem coerceExportDocument_only (host : Host) (form : ExportForm F) :
    Only IsRestoreError (coerceExportDocument host form) := by
  refine (readExportForm_only host form).bind fun document => ?_
  split
  · exact .pure
  · exact only_error.mpr ⟨_, rfl⟩

theorem asNotJson_only (v : Value F) : Only IsRestoreError (asNotJson (canonicalJson v)) := by
  intro error failed
  cases computed : canonicalJson v with
  | ok text =>
      rw [computed] at failed
      cases failed
  | error raised =>
      obtain ⟨rest, rfl⟩ := canonicalJson_only v raised computed
      rw [computed] at failed
      cases failed
      exact ⟨_, rfl⟩

theorem asNotJson_ok {v : Value F} {text : Str} :
    asNotJson (canonicalJson v) = .ok text ↔ v.IsJson ∧ dumps [] (sortKeys v) = text := by
  rw [← canonicalJson_ok]
  unfold asNotJson
  split
  · simp_all
  · rfl

/-- The canonical text of a JSON value has a digest exactly if no string in it has a lone
surrogate. -/
theorem sha256Text_canonical_ends {v : Value F} (json : v.IsJson) :
    Ends (fun error => ¬ IsRestoreError error) (sha256Text host (dumps [] (sortKeys v))) ↔
      ¬ v.Unicode := by
  have scalars : Scalars (dumps [] (sortKeys v)) ↔ v.Unicode :=
    ⟨fun scalars => unicode_of_sortKeys (unicode_of_scalars_dumps (sortKeys_isJson json) scalars),
      fun unicode => scalars_dumps scalars_nil (sortKeys_isJson json) (sortKeys_unicode unicode)⟩
  rw [← scalars, ← exists_encodeUtf8]
  unfold sha256Text
  split
  · next encoded found => simp [found]
  · next absent => simp [absent, IsRestoreError]

/-! ## Checking -/

omit [FloatFormat F] in
theorem timestampErrors_none (label : Str) (error : PyError) :
    Names (lit "timestamp") error ∨ error = .overflowError →
      (PyError.timestampErrors label error = none ↔ error = .overflowError) := by
  rintro (⟨rest, rfl⟩ | rfl)
  · simp [PyError.timestampErrors]
  · simp [PyError.timestampErrors]

theorem checkTimestamp_fails (label : Str) (v : Value F) :
    Fails (Overflows host now v) (checkTimestamp host now label v) := by
  refine (Fails.recover.bind fun _ => Fails.report).congr ?_
  rw [or_false, ends_map, ← normalizeTimestamp_overflows]
  constructor
  · rintro ⟨error, failed, uncaught⟩
    have kind := normalizeTimestamp_only host now v error failed
    exact (timestampErrors_none label error kind).mp uncaught ▸ failed
  · exact fun failed => ⟨_, failed, rfl⟩

/-- The receipt has the keys of a receipt and a timestamp that leaves the calendar. -/
def ReceiptFault (host : Host) (now : DateTime) (receipt : Value F) : Prop :=
  ∃ entries, entriesWithKeys receipt RECEIPT_KEYS = some entries ∧
    Overflows host now (getItem entries "occurred_at")

theorem hashJson_fails (host : Host) {v : Value F} (json : v.IsJson) (unicode : v.Unicode) :
    Fails False (Dispatch.ofExcept (hashJson host v) : Dispatch (List Str) PyError Str) := by
  obtain ⟨hash, hashed⟩ := exists_hashJson host json unicode
  exact .of_eq_ok hashed

theorem checkReceipt_fails {label : Str} {position : Nat} {links : Links} {receipt : Entries F}
    (json : (Value.dict receipt).IsJson) (unicode : (Value.dict receipt).Unicode) :
    Fails (Overflows host now (getItem receipt "occurred_at"))
      (checkReceipt host now label position links receipt) := by
  have kept : ∀ entry ∈ receipt.filter (fun entry => entry.1 ≠ key "receipt_hash"),
      entry ∈ receipt := fun entry member => List.mem_of_mem_filter member
  have keptJson : (Value.dict (receipt.filter fun entry => entry.1 ≠ key "receipt_hash")).IsJson := by
    cases json with
    | dict keys all =>
        exact .dict (fun entry member => keys entry (kept entry member))
          fun entry member => all entry (kept entry member)
  have keptUnicode :
      (Value.dict (receipt.filter fun entry => entry.1 ≠ key "receipt_hash")).Unicode := by
    cases unicode with
    | dict keys all =>
        exact .dict (fun entry member => keys entry (kept entry member))
          fun entry member => all entry (kept entry member)
  refine Fails.report.after fun _ => Fails.reportAll.after fun _ => Fails.report.after fun _ => ?_
  refine ((checkTimestamp_fails _ _).bind fun _ => ?_).congr (Iff.of_eq (or_false _))
  refine Fails.report.after fun _ => Fails.report.after fun _ => ?_
  exact (hashJson_fails host keptJson keptUnicode).after fun _ => Fails.report.after fun _ => .pure

omit [FloatFormat F] in
theorem entriesWithKeys_eq_some {v : Value F} {keys : List Key} {entries : Entries F}
    (found : entriesWithKeys v keys = some entries) : v = .dict entries := by
  unfold entriesWithKeys at found
  split at found
  · split at found
    · cases found
      rfl
    · cases found
  · cases found

theorem checkReceipts_fails {position : Nat} {links : Links} {receipts : List (Value F)}
    (json : ∀ receipt ∈ receipts, receipt.IsJson)
    (unicode : ∀ receipt ∈ receipts, receipt.Unicode) :
    Fails (∃ receipt ∈ receipts, ReceiptFault host now receipt)
      (checkReceipts host now position links receipts) := by
  induction receipts generalizing position links with
  | nil => exact Fails.pure.congr (by simp)
  | cons receipt rest ih =>
      have later := fun (position : Nat) (links : Links) =>
        @ih position links (fun other member => json other (List.mem_cons_of_mem _ member))
          fun other member => unicode other (List.mem_cons_of_mem _ member)
      have hereJson := json receipt List.mem_cons_self
      have hereUnicode := unicode receipt List.mem_cons_self
      rw [checkReceipts]
      cases found : entriesWithKeys receipt RECEIPT_KEYS with
      | none =>
          have sound : ¬ ReceiptFault host now receipt := by
            rintro ⟨entries, here, _⟩
            rw [found] at here
            cases here
          refine (Fails.report.after fun _ => later (position + 1) links).congr ?_
          rw [List.exists_mem_cons_iff, or_iff_right sound]
      | some entries =>
          have fault : ReceiptFault host now receipt ↔
              Overflows host now (getItem entries "occurred_at") := by
            simp [ReceiptFault, found]
          rw [entriesWithKeys_eq_some found] at hereJson hereUnicode
          refine ((checkReceipt_fails hereJson hereUnicode).bind
            fun links => later (position + 1) links).congr ?_
          rw [List.exists_mem_cons_iff, fault]

omit [FloatFormat F] in
theorem receiptsOf_eq_some {document : Entries F} {items : List (Value F)}
    (found : receiptsOf document = some items) :
    document.lookup (key "receipts") = some (.list items) := by
  unfold receiptsOf getItem at found
  cases present : document.lookup (key "receipts") with
  | none =>
      rw [present] at found
      cases found
  | some v =>
      rw [present, Option.getD_some] at found
      split at found
      · cases found
        rfl
      · cases found

/-- The list of receipts of a document, empty where there is none. -/
def receiptItems (document : Entries F) : List (Value F) := (receiptsOf document).getD []

theorem receiptItems_list {document : Entries F} (json : (Value.dict document).IsJson)
    (unicode : (Value.dict document).Unicode) :
    (Value.list (receiptItems document)).IsJson ∧ (Value.list (receiptItems document)).Unicode := by
  unfold receiptItems
  cases found : receiptsOf document with
  | none => exact ⟨.list (by simp), .list (by simp)⟩
  | some items =>
      have member := Entries.mem_of_lookup (receiptsOf_eq_some found)
      cases json with
      | dict _ jsonAll =>
          cases unicode with
          | dict _ unicodeAll => exact ⟨jsonAll _ member, unicodeAll _ member⟩

/-- The checks of a readable document fail exactly at a timestamp that leaves the calendar. -/
theorem checkExport_fails {expectedExport expectedHead actualExportHash : Str} {document : Entries F}
    (json : (Value.dict document).IsJson) (unicode : (Value.dict document).Unicode) :
    Fails (Overflows host now (getItem document "created_at") ∨
        ∃ receipt ∈ receiptItems document, ReceiptFault host now receipt)
      (checkExport host now expectedExport expectedHead actualExportHash document) := by
  obtain ⟨listJson, listUnicode⟩ := receiptItems_list json unicode
  have receipts := hashJson_fails host listJson listUnicode
  have each : (∀ receipt ∈ receiptItems document, receipt.IsJson) ∧
      ∀ receipt ∈ receiptItems document, receipt.Unicode := by
    cases listJson with
    | list all =>
        cases listUnicode with
        | list unicodeAll => exact ⟨all, unicodeAll⟩
  refine Fails.report.after fun _ => Fails.report.after fun _ => Fails.report.after fun _ => ?_
  refine Fails.report.after fun _ => (checkTimestamp_fails _ _).bind fun _ => ?_
  refine Fails.report.after fun _ => Fails.report.after fun _ => Fails.report.after fun _ => ?_
  refine Fails.report.after fun _ => Fails.report.after fun _ => receipts.after fun _ => ?_
  refine Fails.report.after fun _ => ?_
  refine ((checkReceipts_fails each.1 each.2).bind fun links => ?_).congr (Iff.of_eq (or_false _))
  refine Fails.report.after fun _ => Fails.report.after fun _ => Fails.report.after fun _ => ?_
  exact Fails.report.after fun _ => Fails.report.after fun _ => .pure

/-! ## Kinds of errors -/

theorem not_isRestoreError_of_names {name : Str} (error : PyError) (named : Names name error) :
    ¬ IsRestoreError error := by
  obtain ⟨rest, rfl⟩ := named
  simp [IsRestoreError]

theorem checkTimestamp_stops (label : Str) (v : Value F) :
    Stops (fun error => ¬ IsRestoreError error) (checkTimestamp host now label v) := by
  refine (Stops.recover ?_).bind fun _ => .report
  refine ((normalizeTimestamp_only host now v).map).mono fun error kind uncaught => ?_
  rw [(timestampErrors_none label error kind).mp uncaught]
  simp [IsRestoreError]

theorem hashJson_stops (v : Value F) :
    Stops (fun error => ¬ IsRestoreError error)
      (Dispatch.ofExcept (hashJson host v) : Dispatch (List Str) PyError Str) :=
  Stops.ofExcept (hashJson_only host v fun _ _ error named => not_isRestoreError_of_names error named)

theorem checkReceipt_stops (label : Str) (position : Nat) (links : Links) (receipt : Entries F) :
    Stops (fun error => ¬ IsRestoreError error)
      (checkReceipt host now label position links receipt) := by
  refine Stops.report.bind fun _ => Stops.reportAll.bind fun _ => Stops.report.bind fun _ => ?_
  refine (checkTimestamp_stops _ _).bind fun _ => Stops.report.bind fun _ => ?_
  refine Stops.report.bind fun _ => (hashJson_stops _).bind fun _ => ?_
  exact Stops.report.bind fun _ => .pure

theorem checkReceipts_stops (position : Nat) (links : Links) (receipts : List (Value F)) :
    Stops (fun error => ¬ IsRestoreError error)
      (checkReceipts host now position links receipts) := by
  induction receipts generalizing position links with
  | nil => exact .pure
  | cons receipt rest ih =>
      rw [checkReceipts]
      cases entriesWithKeys receipt RECEIPT_KEYS with
      | none => exact Stops.report.bind fun _ => ih _ _
      | some entries => exact (checkReceipt_stops _ _ _ _).bind fun links => ih _ links

theorem checkExport_stops (expectedExport expectedHead actualExportHash : Str)
    (document : Entries F) :
    Stops (fun error => ¬ IsRestoreError error)
      (checkExport host now expectedExport expectedHead actualExportHash document) := by
  refine Stops.report.bind fun _ => Stops.report.bind fun _ => Stops.report.bind fun _ => ?_
  refine Stops.report.bind fun _ => (checkTimestamp_stops _ _).bind fun _ => ?_
  refine Stops.report.bind fun _ => Stops.report.bind fun _ => Stops.report.bind fun _ => ?_
  refine Stops.report.bind fun _ => Stops.report.bind fun _ => (hashJson_stops _).bind fun _ => ?_
  refine Stops.report.bind fun _ => (checkReceipts_stops _ _ _).bind fun _ => ?_
  refine Stops.report.bind fun _ => Stops.report.bind fun _ => Stops.report.bind fun _ => ?_
  exact Stops.report.bind fun _ => Stops.report.bind fun _ => .pure

/-! ## A restore from an export -/

/-- A string with the form of a hash. -/
def IsAnchor (v : Value F) : Prop := ∃ s, v = .str s ∧ IsHash s

omit [FloatFormat F] in
theorem requireHash_restore_eq_ok {v : Value F} {field : String} {s : Str} :
    requireHash v field true = .ok s ↔ v = .str s ∧ IsHash s := by
  cases v with
  | str text =>
      simp only [requireHash]
      split
      · next hash =>
          simp only [Except.ok.injEq, Value.str.injEq]
          exact ⟨fun same => ⟨same, same ▸ hash⟩, fun found => found.1⟩
      · next other =>
          simp only [reduceCtorEq, Value.str.injEq, false_iff]
          rintro ⟨rfl, hash⟩
          exact other hash
  | _ => simp [requireHash]

/-- A document that is JSON has a lone surrogate or a timestamp that leaves the calendar. -/
def ColdFault (host : Host) (now : DateTime) (document : Entries F) : Prop :=
  (Value.dict document).IsJson ∧ (¬ (Value.dict document).Unicode ∨
    Overflows host now (getItem document "created_at") ∨
    ∃ receipt ∈ receiptItems document, ReceiptFault host now receipt)

theorem judgeExport_ends {expectedExport expectedHead actualExportHash : Str}
    {document : Entries F} (json : (Value.dict document).IsJson)
    (unicode : (Value.dict document).Unicode) :
    Ends (fun error => ¬ IsRestoreError error)
        (judgeExport host now expectedExport expectedHead actualExportHash document) ↔
      Overflows host now (getItem document "created_at") ∨
        ∃ receipt ∈ receiptItems document, ReceiptFault host now receipt := by
  rw [← checkExport_fails json unicode []]
  unfold judgeExport
  cases ran : checkExport host now expectedExport expectedHead actualExportHash document [] with
  | ok found errors => cases errors <;> simp [IsRestoreError]
  | error error errors =>
      have other := checkExport_stops _ _ _ _ [] error errors ran
      simp [other]

/-- A cold restore raises something other than a failed restore exactly if the form holds a
faulty document and both anchors have the form of a hash. -/
theorem verifyColdExport_ends {form : ExportForm F} {expectedExportSha256 expectedHeadHash : Value F} :
    Ends (fun error => ¬ IsRestoreError error)
        (verifyColdExport host now form expectedExportSha256 expectedHeadHash) ↔
      ∃ document, coerceExportDocument host form = .ok document ∧ IsAnchor expectedExportSha256 ∧
        IsAnchor expectedHeadHash ∧ ColdFault host now document := by
  have passed {α : Type} {computed : Except PyError α} (only : Only IsRestoreError computed) :
      Only (fun error => ¬ ¬ IsRestoreError error) computed :=
    only.mono fun _ => not_not_intro
  have judged : ∀ (expectedExport expectedHead : Str) (document : Entries F),
      Ends (fun error => ¬ IsRestoreError error) (do
        let canonical ← asNotJson (canonicalJson (.dict document))
        let actualExportHash ← sha256Text host canonical
        let found ← judgeExport host now expectedExport expectedHead actualExportHash document
        return (document, found)) ↔ ColdFault host now document := by
    intro expectedExport expectedHead document
    rw [ends_bind_of_only (passed (asNotJson_only _))]
    simp only [asNotJson_ok, and_assoc, exists_and_left, exists_eq_left', ColdFault]
    refine and_congr_right fun json => ?_
    rw [ends_bind, sha256Text_canonical_ends json]
    by_cases unicode : (Value.dict document).Unicode
    · obtain ⟨hash, hashed⟩ := exists_hashJson host json unicode
      obtain ⟨text, spelled, digest⟩ := Except.bind_ok.mp hashed
      obtain ⟨_, rfl⟩ := canonicalJson_ok.mp spelled
      have ends : ∀ actualExportHash, Ends (fun error => ¬ IsRestoreError error) (do
          let found ← judgeExport host now expectedExport expectedHead actualExportHash document
          return (document, found)) ↔ _ :=
        fun actualExportHash => ends_map.trans (judgeExport_ends json unicode)
      simp only [ends, digest, unicode, not_true_eq_false, false_or, exists_and_right,
        Except.ok.injEq, exists_eq', true_and]
    · simp only [unicode, not_false_eq_true, true_or]
  rw [verifyColdExport, ends_bind_of_only (passed (coerceExportDocument_only host form))]
  refine exists_congr fun document => and_congr_right fun _ => ?_
  rw [ends_bind_of_only (passed (requireHash_restore_only _ _))]
  simp only [ends_bind_of_only (passed (requireHash_restore_only _ _)), judged,
    requireHash_restore_eq_ok, IsAnchor]
  constructor
  · rintro ⟨first, firstHash, second, secondHash, fault⟩
    exact ⟨⟨first, firstHash⟩, ⟨second, secondHash⟩, fault⟩
  · rintro ⟨⟨first, firstHash⟩, ⟨second, secondHash⟩, fault⟩
    exact ⟨first, firstHash, second, secondHash, fault⟩

end Chlom.Dail
