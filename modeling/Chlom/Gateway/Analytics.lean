import Chlom.Gateway.Rpc

/-!
# Queries of the chains' history

A query is one of four texts over the dataset of a chain, with the values of a request as its
parameters.  Its answer is refused unless the query is complete and without errors; else its
rows are named by the fields of its schema, and an envelope tells the query and the rows.
-/

namespace Chlom.Gateway

open Js

variable {N : Type}

def MAX_ANALYTICS_ROWS : Int := 250
def MAX_ANALYTICS_LOOKBACK_DAYS : Int := 31

/-! ## Templates -/

/-- The templates of queries. -/
def TEMPLATES : List Str :=
  [lit "latest_block", lit "transaction_evidence", lit "address_activity", lit "contract_logs"]

def isHex (c : CodeUnit) : Bool :=
  isDigit c || (0x41 ≤ c.val && c.val ≤ 0x46) || (0x61 ≤ c.val && c.val ≤ 0x66)

/-- A hexadecimal number after `0x`. -/
def isHexNumber (s : Str) : Bool :=
  (lit "0x").isPrefixOf s && 2 < s.length && (s.drop 2).all isHex

def lowerCase (s : Str) : Str :=
  s.map fun c => if unit 'A' ≤ c ∧ c ≤ unit 'Z' then Fin.ofNat 0x10000 (c.val + 32) else c

def requireHex (value : Option (Sized 3 132)) (field : Str) : Except Thrown Str :=
  match value with
  | some text =>
      if isHexNumber text then .ok (lowerCase text)
      else throwChlom (lit "CHLOM_ANALYTICS_INPUT_INVALID")
        (field ++ lit " must be a 0x-prefixed hexadecimal value.") 400 .none
  | none =>
      throwChlom (lit "CHLOM_ANALYTICS_INPUT_INVALID")
        (field ++ lit " must be a 0x-prefixed hexadecimal value.") 400 .none

/-- A template text, whose lines are indented like the first one's. -/
def sqlText (lines : List Str) : Str := List.intercalate (lit "\n        ") lines

def latestBlockQuery (dataset : Str) : Str :=
  sqlText [lit "SELECT", lit "  MIN(block_number) AS first_block_in_window,",
    lit "  MAX(block_number) AS newest_block,", lit "  COUNT(1) AS indexed_blocks_in_window",
    lit "FROM `" ++ dataset ++ lit ".blocks`", lit "WHERE block_timestamp >= @start_timestamp"]

def transactionEvidenceQuery (dataset : Str) : Str :=
  sqlText [lit "SELECT", lit "  tx.block_number,", lit "  tx.block_hash,",
    lit "  tx.block_timestamp,", lit "  tx.transaction_hash,", lit "  tx.transaction_index,",
    lit "  tx.from_address,", lit "  tx.to_address,",
    lit "  tx.value.bignumeric_value AS value_wei,", lit "  tx.gas,", lit "  tx.gas_price,",
    lit "  receipt.status,", lit "  receipt.gas_used,", lit "  receipt.contract_address",
    lit "FROM `" ++ dataset ++ lit ".transactions` AS tx",
    lit "LEFT JOIN `" ++ dataset ++ lit ".receipts` AS receipt",
    lit "  USING (block_hash, transaction_hash)",
    lit "WHERE tx.block_timestamp >= @start_timestamp",
    lit "  AND tx.transaction_hash = @transaction_hash", lit "LIMIT 1"]

def addressActivityQuery (dataset : Str) : Str :=
  sqlText [lit "SELECT", lit "  block_number,", lit "  block_hash,", lit "  block_timestamp,",
    lit "  transaction_hash,", lit "  transaction_index,", lit "  from_address,",
    lit "  to_address,", lit "  value.bignumeric_value AS value_wei,", lit "  gas,",
    lit "  gas_price", lit "FROM `" ++ dataset ++ lit ".transactions`",
    lit "WHERE block_timestamp >= @start_timestamp",
    lit "  AND (from_address = @address OR to_address = @address)",
    lit "ORDER BY block_timestamp DESC", lit "LIMIT @limit"]

def contractLogsQuery (dataset : Str) : Str :=
  sqlText [lit "SELECT", lit "  block_number,", lit "  block_hash,", lit "  block_timestamp,",
    lit "  transaction_hash,", lit "  transaction_index,", lit "  log_index,", lit "  address,",
    lit "  data,", lit "  topics", lit "FROM `" ++ dataset ++ lit ".logs`",
    lit "WHERE block_timestamp >= @start_timestamp", lit "  AND address = @address",
    lit "ORDER BY block_timestamp DESC, log_index DESC", lit "LIMIT @limit"]

structure PreparedQuery where
  chain : Str
  template : Str
  dataset : Str
  limit : Int
  lookbackDays : Int
  parameters : List Parameter
  query : Str

/-- An integer within bounds. -/
abbrev Within (minimum maximum : Int) := { n : Int // minimum ≤ n ∧ n ≤ maximum }

structure AnalyticsInput where
  chain : Chain
  template : { template : Str // template ∈ TEMPLATES }
  transactionHash : Option (Sized 3 132)
  address : Option (Sized 3 132)
  lookbackDays : Within 1 MAX_ANALYTICS_LOOKBACK_DAYS
  limit : Within 1 MAX_ANALYTICS_ROWS

def prepareAnalyticsQuery (now : Int) (input : AnalyticsInput) : Except Thrown PreparedQuery :=
  match chainDefinition input.chain with
  | none =>
      throwChlom (lit "CHLOM_ANALYTICS_DATASET_UNAVAILABLE")
        (lit "Google Blockchain Analytics is not registered for " ++ input.chain ++ lit ".") 400
        .none
  | some definition =>
      match definition.analyticsDataset with
      | none =>
          throwChlom (lit "CHLOM_ANALYTICS_DATASET_UNAVAILABLE")
            (lit "Google Blockchain Analytics is not registered for " ++ definition.displayName ++
              lit ".") 400 .none
      | some dataset => do
          let template := input.template.val
          let limit : Int := if template = lit "latest_block" ∨
            template = lit "transaction_evidence" then 1 else input.limit
          let lookbackDays : Int := input.lookbackDays
          let startTimestamp := isoText (now - lookbackDays * 86400000)
          let started : Parameter := ⟨lit "start_timestamp", lit "TIMESTAMP", startTimestamp⟩
          if template = lit "latest_block" then
            return ⟨input.chain, template, dataset, 1, lookbackDays, [started],
              latestBlockQuery dataset⟩
          else if template = lit "transaction_evidence" then do
            let transactionHash ← requireHex input.transactionHash (lit "transactionHash")
            return ⟨input.chain, template, dataset, 1, lookbackDays,
              [⟨lit "transaction_hash", lit "STRING", transactionHash⟩, started],
              transactionEvidenceQuery dataset⟩
          else do
            let address ← requireHex input.address (lit "address")
            let parameters : List Parameter := [⟨lit "limit", lit "INT64", intText limit⟩,
              ⟨lit "address", lit "STRING", address⟩, started]
            if template = lit "address_activity" then
              return ⟨input.chain, template, dataset, limit, lookbackDays, parameters,
                addressActivityQuery dataset⟩
            else if template = lit "contract_logs" then
              return ⟨input.chain, template, dataset, limit, lookbackDays, parameters,
                contractLogsQuery dataset⟩
            else
              throwChlom (lit "CHLOM_ANALYTICS_TEMPLATE_NOT_ALLOWLISTED")
                (lit "Analytics template is not allowlisted: " ++ template) 403 .none

/-- The limit of the bytes of a query, which has to be digits. -/
def maximumBytesBilled (host : Host N) : Str :=
  let raw := (host.set (lit "CHLOM_BIGQUERY_MAX_BYTES_BILLED")).getD (lit "536870912")
  if raw.all isDigit then raw else lit "536870912"

/-- The query, and how it is posted after the checks and with the access token. -/
def analyticsJob (host : Host N) (input : AnalyticsInput) : Except Thrown (PreparedQuery × Job) := do
  let prepared ← prepareAnalyticsQuery host.now input
  match host.set (lit "GCP_PROJECT_ID") with
  | none =>
      throwChlom (lit "CHLOM_GCP_PROJECT_NOT_CONFIGURED")
        (lit "GCP_PROJECT_ID is required for Blockchain Analytics queries.") 503 .none
  | some projectId => do
      let accessToken ← host.googleAccessToken
      return (prepared, ⟨projectId, accessToken,
        (host.set (lit "GCP_BIGQUERY_LOCATION")).getD (lit "US"), prepared.query,
        prepared.parameters, maximumBytesBilled host, prepared.template⟩)

/-! ## Rows -/

/-- What the engine throws where a property of `null` or of nothing is read. -/
def unreadable {α : Type} (value : Any N) (name : Str) : Except Thrown α :=
  .error (.other (lit "Cannot read properties of " ++
    (if value.isSome then lit "null" else lit "undefined") ++ lit " (reading '" ++ name ++
      lit "')"))

/-- What the engine throws where something else than an array is mapped. -/
def unmappable {α : Type} (name : String) : Except Thrown α :=
  .error (.other (lit name ++ lit ".map is not a function"))

/-- `value === text`. -/
def isText (value : Any N) (text : String) : Bool :=
  match value with
  | some (.string s) => s = lit text
  | _ => false

/-- `typeof value === 'object'`, of a value that is not `null`. -/
def isObject : Value N → Bool
  | .array _ | .object _ => true
  | _ => false

/-- `value[index]`, where only properties of the outcome are read: a string has none. -/
def item (value : Any N) (index : Nat) : Any N :=
  match value with
  | some (.array items) => items[index]?
  | some (.object entries) => entries.lookup (natText index)
  | _ => none

/-- The fields inside a field are smaller. -/
theorem sizeOf_lt_of_get {field : Value N} {name : String} {items : List (Value N)}
    (found : get (some field) name = some (.array items)) : sizeOf items < sizeOf field := by
  cases field with
  | object entries =>
      have member := List.sizeOf_lt_of_mem (mem_of_property found)
      simp only [Prod.mk.sizeOf_spec, Value.array.sizeOf_spec, Value.object.sizeOf_spec] at member ⊢
      omega
  | _ => cases found

section Decoding

variable [Numbers N]

/-- The key that the name of a field becomes. -/
def fieldName : Value N → Except Thrown Str
  | .null => unreadable (some (.null : Value N)) (lit "name")
  | field => .ok (Evidence.templateText (get (some field) "name"))

mutual

def decodeCell (field : Value N) (value : Any N) : Except Thrown (Value N) :=
  match value with
  | some (.array items) =>
      if isText (get (some field) "mode") "REPEATED" then
        .array <$> items.mapM fun entry => decodeValue field (get (some entry) "v")
      else decodeValue field (some (.array items))
  | value => decodeValue field value
termination_by (sizeOf field, 1)

/-- `decodeCell` of a field without a mode. -/
def decodeValue (field : Value N) (value : Any N) : Except Thrown (Value N) :=
  match value with
  | none | some .null => .ok .null
  | some value =>
      let type := get (some field) "type"
      if isText type "RECORD" && (get (some field) "fields").any Value.truthy && isObject value then
        match nested : get (some field) "fields" with
        | some (.array fields) => do
            let cells := (get (some value) "f").filter Value.truthy
            return .object (fromEntries (← decodeFields fields cells 0))
        | _ => unmappable "field.fields"
      else if isText type "BOOL" || isText type "BOOLEAN" then
        .ok (.boolean (isText (some value) "true" || value matches .boolean true))
      else .ok value
termination_by (sizeOf field, 0)
decreasing_by exact .left _ _ (sizeOf_lt_of_get nested)

/-- The properties of a record, one for each of its fields. -/
def decodeFields (fields : List (Value N)) (cells : Any N) (index : Nat) :
    Except Thrown (Entries N) :=
  match fields with
  | [] => .ok []
  | field :: rest => do
      let name ← fieldName field
      let value ← decodeCell field (get (item cells index) "v")
      return (name, value) :: (← decodeFields rest cells (index + 1))
termination_by (sizeOf fields, 0)

end

/-- `row.f[index]?.v`. -/
def rowCell (row : Value N) (index : Nat) : Except Thrown (Any N) :=
  match row with
  | .null => unreadable (some (.null : Value N)) (lit "f")
  | row =>
      match get (some row) "f" with
      | none => unreadable (none : Any N) (natText index)
      | some .null => unreadable (some (.null : Value N)) (natText index)
      | some cells => .ok (get (item (some cells) index) "v")

/-- The properties of a row from a field on. -/
def decodeRow (row : Value N) : List (Value N) → Nat → Except Thrown (Entries N)
  | [], _ => .ok []
  | field :: rest, index => do
      let name ← fieldName field
      let cell ← rowCell row index
      let value ← decodeCell field cell
      return (name, value) :: (← decodeRow row rest (index + 1))

def decodeRows (fields : Value N) (rows : Any N) : Except Thrown (List (Value N)) :=
  match rows with
  | none => .ok []
  | some (.array rows) => rows.mapM fun row =>
      match fields with
      | .array fields => do return .object (fromEntries (← decodeRow row fields 0))
      | _ => unmappable "fields"
  | some .null => unreadable (some (.null : Value N)) (lit "map")
  | some _ => unmappable "rows"

/-! ## Answers -/

/-- `payload.errors?.length` is truthy. -/
def hasErrors : Any N → Bool
  | some (.array items) => !items.isEmpty
  | some (.string s) => !s.isEmpty
  | some (.object entries) => (property entries "length").any Value.truthy
  | _ => false

/-- `value || fallback`. -/
def orElse (value : Any N) (fallback : Value N) : Value N :=
  (value.filter Value.truthy).getD fallback

/-- The source that an envelope of a query names. -/
def analyticsSource (prepared : PreparedQuery) : Entries N :=
  [(lit "kind", .string (lit "google_blockchain_analytics")),
    (lit "provider", .string (lit "google-bigquery-blockchain-analytics")),
    (lit "chain", .string prepared.chain), (lit "operation", .string prepared.template)]

/-- The request that an envelope of a query digests. -/
def analyticsRequest (host : Host N) (prepared : PreparedQuery) : Value N :=
  .object [(lit "chain", .string prepared.chain), (lit "template", .string prepared.template),
    (lit "limit", .number (host.integer prepared.limit)),
    (lit "lookbackDays", .number (host.integer prepared.lookbackDays)),
    (lit "parameters", .array (prepared.parameters.map fun entry => .string entry.name))]

/-- What an envelope of a query carries. -/
def analyticsPayload (host : Host N) (prepared : PreparedQuery) (job : Job) (answer : Value N)
    (rows : List (Value N)) : Value N :=
  .object [(lit "dataset", .string prepared.dataset), (lit "location", .string job.location),
    (lit "rowCount", .number (host.integer rows.length)),
    (lit "totalRows",
      orElse (get (some answer) "totalRows") (.string (natText rows.length))),
    (lit "totalBytesProcessed", orElse (get (some answer) "totalBytesProcessed") .null),
    (lit "cacheHit", orElse (get (some answer) "cacheHit") (.boolean false)),
    (lit "rows", .array rows)]

def analyticsEnvelope (host : Host N) (prepared : PreparedQuery) (job : Job) (answer : Value N)
    (rows : List (Value N)) : Evidence.Envelope N :=
  Evidence.createEvidenceEnvelope host.platform host.call (analyticsSource prepared)
    (analyticsRequest host prepared) (analyticsPayload host prepared job answer rows) false

/-- What is made of the answer to a query. -/
def finishAnalytics (host : Host N) (prepared : PreparedQuery) (job : Job) :
    Fetched → Except Thrown (Evidence.Envelope N)
  | .failed reason =>
      throwChlom (lit "CHLOM_BIGQUERY_UNREACHABLE")
        (lit "Google BigQuery could not be reached.") 502 (.reason reason)
  | .answered _ none => .error (.other (lit "terminated"))
  | .answered status (some text) =>
      match host.parseJson text with
      | none => .error (.other (host.jsonErrorText text))
      | some .null => unreadable (some (.null : Value N)) (lit "errors")
      | some answer =>
          let errors := get (some answer) "errors"
          if Fetched.ok status = false ∨ hasErrors errors = true then
            throwChlom (lit "CHLOM_BIGQUERY_QUERY_FAILED")
              (lit "Google Blockchain Analytics query failed.") 502
              (.query status (errors.map stringify) prepared.template prepared.chain)
          else if get (some answer) "jobComplete" matches some (.boolean false) then
            throwChlom (lit "CHLOM_BIGQUERY_QUERY_PENDING")
              (lit "Blockchain Analytics query did not complete inside the governed timeout.") 504
              (.template prepared.template prepared.chain)
          else do
            let fields := orElse (get (get (some answer) "schema") "fields") (.array [])
            let rows ← decodeRows fields (get (some answer) "rows")
            return analyticsEnvelope host prepared job answer rows

def runBlockchainAnalytics (host : Host N) (network : Network N) (input : AnalyticsInput) :
    Handling N (Evidence.Envelope N) := do
  let (prepared, job) ← Dispatch.ofExcept (analyticsJob host input)
  let fetched ← Sends.send network (.bigquery job)
  Dispatch.ofExcept (finishAnalytics host prepared job fetched)

end Decoding

end Chlom.Gateway
