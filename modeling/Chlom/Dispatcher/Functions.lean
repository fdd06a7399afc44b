import Mathlib.Data.List.MinMax
import Mathlib.Data.Prod.Lex
import Chlom.Library.Json
import Chlom.Library.Locking.Transactions
import Chlom.Sql

/-!
# The dispatchers of the authenticated interface

The first dispatcher judges the operator of a request and carries its action out.  The
second and the third give a mutation an idempotency key: they lock the key, look for
what was stored under it, and call the first dispatcher only when nothing was.  The
functions that carry actions out, the chain of events, the clock and new identifiers are
inputs of a request.
-/

namespace Chlom.Dispatcher

open Assurance (Text text btrim lower Timestamp Uuid SqlError)
open Locking

/-- Versions and times are compared by the computable order of the integers. -/
local instance integerPreorder : Preorder Int :=
  Int.instLinearOrder.toPreorder

/-! ## Rows -/

/-- A version of an operator.  An element of its scopes may be null. -/
structure OperatorVersion where
  operatorSubjectId : Text
  version : Int
  userId : Uuid
  authorityClass : Text
  active : Bool
  scopes : List (Option Text)
  approvalId : Text
  recordedAt : Timestamp
  deriving DecidableEq

def OperatorVersion.key (o : OperatorVersion) : Text × Int :=
  (o.operatorSubjectId, o.version)

structure DispatchReceipt where
  dispatchReceiptId : Uuid
  requestId : Uuid
  operatorSubjectId : Text
  operatorUserId : Uuid
  action : Text
  requiredScope : Text
  requiredAuthorityClass : Text
  resultSha256 : Text
  deriving DecidableEq

/-- The account, the action and the minute that a bucket counts. -/
abbrev BucketKey := Uuid × Text × Timestamp

structure RateBucket where
  operatorUserId : Uuid
  action : Text
  bucketStartedAt : Timestamp
  requestCount : Nat
  updatedAt : Timestamp
  deriving DecidableEq

def RateBucket.key (b : RateBucket) : BucketKey :=
  (b.operatorUserId, b.action, b.bucketStartedAt)

inductive RegistryState where
  | processing | completed
  deriving DecidableEq

/-- An account and its idempotency key. -/
abbrev RegistryKey := Uuid × Text

/-- What the third dispatcher stores under a key. -/
structure RegistryRow where
  operatorUserId : Uuid
  idempotencyKey : Text
  action : Text
  requestSha256 : Text
  state : RegistryState
  response : Option Json
  responseSha256 : Option Text
  firstSeenAt : Timestamp
  completedAt : Option Timestamp

def RegistryRow.key (r : RegistryRow) : RegistryKey :=
  (r.operatorUserId, r.idempotencyKey)

/-- An account, an action and the digest of an idempotency key. -/
abbrev ReceiptKey := Uuid × Text × Text

/-- What the second dispatcher stores under a key. -/
structure IdempotencyReceipt where
  idempotencyReceiptId : Uuid
  operatorUserId : Uuid
  operatorSubjectId : Text
  action : Text
  idempotencyKeyHash : Text
  requestPayloadSha256 : Text
  resultSha256 : Text
  result : Json
  recordedAt : Timestamp

def IdempotencyReceipt.key (r : IdempotencyReceipt) : ReceiptKey :=
  (r.operatorUserId, r.action, r.idempotencyKeyHash)

structure Tables where
  operators : Table OperatorVersion.key
  dispatchReceipts : List DispatchReceipt
  rateBuckets : Table RateBucket.key
  registry : Table RegistryRow.key
  idempotencyReceipts : List IdempotencyReceipt

def Tables.empty : Tables :=
  ⟨.empty, [], .empty, .empty, []⟩

/-! ## Locks -/

/-- Functions of the database: its hashes, and the text of a time. -/
structure Builtins where
  hashText : Text → Int
  sha256Hex : Text → Text
  canonicalSha256 : Json → Text
  timestampText : Timestamp → Text

/-- The text of an identifier. -/
def uuidText (id : Uuid) : Text :=
  let digits := (Nat.toDigits 16 id.toNat).leftpad 32 '0'
  digits.take 8 ++ '-' :: (digits.drop 8).take 4 ++ '-' :: (digits.drop 12).take 4 ++
    '-' :: (digits.drop 16).take 4 ++ '-' :: digits.drop 20

/-- The advisory lock of an account's idempotency key. -/
def registryLock (B : Builtins) (key : RegistryKey) : Int :=
  B.hashText (uuidText key.1 ++ ':' :: key.2)

/-- The advisory lock of an account's idempotency key for one action. -/
def receiptLock (B : Builtins) (key : ReceiptKey) : Int :=
  B.hashText (uuidText key.1 ++ ':' :: key.2.1 ++ ':' :: key.2.2)

/-- The locks of a call: advisory locks, and the rows and entries of indexes that it
writes. -/
inductive Lock where
  | advisory (key : Int)
  | operator (key : Text × Int)
  | dispatchReceipt (dispatchReceiptId : Uuid)
  | dispatchRequest (requestId : Uuid)
  | rateBucket (key : BucketKey)
  | registry (key : RegistryKey)
  | idempotencyReceipt (idempotencyReceiptId : Uuid)
  | idempotencyKey (key : ReceiptKey)
  deriving DecidableEq

/-- What is stored under idempotency keys is read and written under an advisory lock of
the key, which other keys may share. -/
def parts (B : Builtins) : Parts Tables Lock where
  Part
    | .advisory _ => (RegistryKey → Option RegistryRow) × List IdempotencyReceipt
    | .operator _ => Option OperatorVersion
    | .dispatchReceipt _ => List DispatchReceipt
    | .dispatchRequest _ => List DispatchReceipt
    | .rateBucket _ => Option RateBucket
    | .registry _ => Option RegistryRow
    | .idempotencyReceipt _ => List IdempotencyReceipt
    | .idempotencyKey _ => List IdempotencyReceipt
  part
    | .advisory lock => fun t =>
        (fun key => if registryLock B key = lock then t.registry.find key else none,
          t.idempotencyReceipts.filter fun r => receiptLock B r.key = lock)
    | .operator key => fun t => t.operators.find key
    | .dispatchReceipt id => fun t => t.dispatchReceipts.filter fun r => r.dispatchReceiptId = id
    | .dispatchRequest id => fun t => t.dispatchReceipts.filter fun r => r.requestId = id
    | .rateBucket key => fun t => t.rateBuckets.find key
    | .registry key => fun t => t.registry.find key
    | .idempotencyReceipt id => fun t =>
        t.idempotencyReceipts.filter fun r => r.idempotencyReceiptId = id
    | .idempotencyKey key => fun t => t.idempotencyReceipts.filter fun r => r.key = key

/-! ## Failures -/

/-- An exception of a dispatcher, or of a function that it calls. -/
inductive Failure where
  | own (error : SqlError)
  | called (error : SqlError)
  deriving DecidableEq

abbrev Statement (α : Type) := Prog Tables Lock Failure α

def raised (message errcode : String) : Failure :=
  .own (.raised message errcode)

def authenticationRequired : Failure := raised "CHLOM_API_AUTHENTICATION_REQUIRED" "28000"

def payloadTooLarge : Failure := raised "CHLOM_API_PAYLOAD_TOO_LARGE" "22023"

def operatorNotActive : Failure := raised "CHLOM_API_OPERATOR_NOT_ACTIVE" "42501"

def actionNotAllowed : Failure := raised "CHLOM_API_ACTION_NOT_ALLOWED" "22023"

def scopeDenied : Failure := raised "CHLOM_API_SCOPE_DENIED" "42501"

def authorityDenied : Failure := raised "CHLOM_API_AUTHORITY_DENIED" "42501"

def keyRequired : Failure := raised "CHLOM_API_IDEMPOTENCY_KEY_REQUIRED" "22023"

def keyTooLong : Failure := raised "CHLOM_API_IDEMPOTENCY_KEY_TOO_LONG" "22023"

def idempotencyConflict : Failure := raised "CHLOM_API_IDEMPOTENCY_CONFLICT" "23505"

def requestInProgress : Failure := raised "CHLOM_API_REQUEST_IN_PROGRESS" "55000"

def rateLimitExceeded : Failure := raised "CHLOM_API_RATE_LIMIT_EXCEEDED" "54000"

/-- Go on with the result of a called function. -/
def ofCalled {α : Type} : Except SqlError α → Statement α
  | .ok value => pure value
  | .error error => .raise (.called error)

/-! ## Requests -/

/-- The arguments of a request, any of which may be null, with the signed-in account; the
order in which operators of the same version and time are met; new identifiers and
readings of the clock; and what the called functions answer. -/
structure Request where
  uid : Option Uuid
  action : Option Text
  payload : Option Json
  met : Text × Int → Int
  requestId : Uuid
  dispatchReceiptId : Uuid
  idempotencyReceiptId : Uuid
  clock : Timestamp
  recordedAt : Timestamp
  completedAt : Timestamp
  status : Json
  capabilities : Json
  carryOut : Json → Except SqlError Json
  receiptEvent : Except SqlError Json

/-- The name of the action. -/
def Request.name (r : Request) : Text :=
  lower (btrim (r.action.getD []))

def Request.document (r : Request) : Json :=
  r.payload.getD (.object [])

/-- The request as a dispatcher passes it on. -/
def Request.passOn (r : Request) : Request :=
  { r with action := some r.name, payload := some r.document }

/-- The action changes something. -/
def Mutation (action : Text) : Prop :=
  action ≠ text "status" ∧ action ≠ text "capabilities"

instance (action : Text) : Decidable (Mutation action) :=
  inferInstanceAs (Decidable (_ ∧ _))

/-! ## The first dispatcher -/

structure Requirement where
  scope : Text
  authority : Text
  mutation : Bool
  deriving DecidableEq

/-- What each action asks of an operator. -/
def requirements : List (Text × Requirement) :=
  [(text "status", ⟨text "chlom:read", text "D0", false⟩),
    (text "capabilities", ⟨text "chlom:read", text "D0", false⟩),
    (text "register_asset_binding", ⟨text "chlom:write", text "D1", true⟩),
    (text "record_ownership_interest", ⟨text "chlom:write", text "D2", true⟩),
    (text "record_rights_instrument", ⟨text "chlom:write", text "D2", true⟩),
    (text "record_dla", ⟨text "chlom:write", text "D2", true⟩),
    (text "record_lex_offer", ⟨text "chlom:write", text "D2", true⟩),
    (text "record_agreement_entitlement", ⟨text "chlom:write", text "D2", true⟩),
    (text "record_obligation", ⟨text "chlom:write", text "D2", true⟩),
    (text "record_revenue_policy", ⟨text "chlom:write", text "D2", true⟩),
    (text "preview_settlement", ⟨text "chlom:settlement-preview", text "D2", true⟩),
    (text "register_token_candidate", ⟨text "chlom:token-candidate", text "D2", true⟩),
    (text "report_oracle_signal", ⟨text "chlom:oracle", text "D1", true⟩),
    (text "bind_dail_proof", ⟨text "chlom:proof", text "D1", true⟩)]

def requirement (action : Text) : Option Requirement :=
  (requirements.find? fun entry => entry.1 = action).map Prod.snd

def authorityRank (authorityClass : Text) : Int :=
  if authorityClass = text "D0" then 0
  else if authorityClass = text "D1" then 1
  else if authorityClass = text "D2" then 2
  else if authorityClass = text "D3" then 3
  else -1

/-- The latest version of the operators of an account. -/
def latestOperator (met : Text × Int → Int) (operators : Table OperatorVersion.key) (uid : Uuid) :
    Option OperatorVersion :=
  (operators.rows.filter fun o => o.userId = uid).argmax fun o =>
    toLex (o.version, toLex (o.recordedAt, met o.key))

def wildcard : Text := text "chlom:*"

/-- A scope is known to be neither the required one nor the wildcard. -/
def lacks (required : Text) (scope : Option Text) : Bool :=
  scope.any fun value => value ≠ required ∧ value ≠ wildcard

/-- What was found about an admitted request. -/
structure Admission where
  uid : Uuid
  operator : OperatorVersion
  required : Requirement

def judge (r : Request) : Statement Admission := do
  let uid ← Prog.okOr r.uid authenticationRequired
  Prog.ensure (r.document.octets ≤ 1048576) payloadTooLarge
  let latest ← Prog.query fun t => latestOperator r.met t.operators uid
  let operator ← Prog.okOr (latest.filter fun o => o.active) operatorNotActive
  let required ← Prog.okOr (requirement r.name) actionNotAllowed
  -- with a null among the scopes the comparison is unknown, which raises nothing
  Prog.ensure (operator.scopes.all (lacks required.scope) = false) scopeDenied
  Prog.ensure (authorityRank required.authority ≤ authorityRank operator.authorityClass)
    authorityDenied
  pure { uid, operator, required }

/-- The payload that the function of an action gets. -/
def serverPayload (r : Request) (operator : OperatorVersion) : Json :=
  r.document.concat (.object
    [(text "recorded_by", .string operator.operatorSubjectId),
      (text "created_by", .string operator.operatorSubjectId),
      (text "oracle_subject_id", .string operator.operatorSubjectId),
      (text "authority_class", .string operator.authorityClass),
      (text "authority_basis", .string (text "CHLOM_AUTHENTICATED_OPERATOR_V1")),
      (text "approval_id", .string operator.approvalId),
      (text "correlation_id", .string (text "ctcorr:chlom-api:" ++ uuidText r.requestId))])

def isSpace (c : Char) : Bool :=
  c = ' ' ∨ 9 ≤ c.toNat ∧ c.toNat ≤ 13

/-- The truth value that a text stands for. -/
def booleanOfText (value : Text) : Option Bool :=
  let word := lower ((value.dropWhile isSpace).reverse.dropWhile isSpace).reverse
  if word = [] then none
  else if word <+: text "true" ∨ word <+: text "yes" ∨ word = text "on" ∨ word = text "1" then
    some true
  else if word <+: text "false" ∨ word <+: text "no" ∨ word = text "of" ∨ word = text "off" ∨
      word = text "0" then
    some false
  else none

/-- The field "ok" of a result as a truth value, true when it is missing. -/
def okOf (result : Json) : Option Bool :=
  match result.get (text "ok") with
  | none | some .null => some true
  | some (.bool value) => some value
  | some (.number literal) => booleanOfText literal
  | some (.string value) => booleanOfText value
  | some (.array _) | some (.object _) => none

def invalidBoolean : Failure := raised "invalid input syntax for type boolean" "22P02"

def insertDispatchReceipt (row : DispatchReceipt) : Statement Unit := do
  Prog.acquire (.dispatchReceipt row.dispatchReceiptId)
  let sameId ← Prog.query fun t =>
    t.dispatchReceipts.filter fun r => r.dispatchReceiptId = row.dispatchReceiptId
  Prog.ensure (sameId = []) (.own (.uniqueViolation "dispatch_receipt_id"))
  Prog.acquire (.dispatchRequest row.requestId)
  let sameRequest ← Prog.query fun t =>
    t.dispatchReceipts.filter fun r => r.requestId = row.requestId
  Prog.ensure (sameRequest = []) (.own (.uniqueViolation "request_id"))
  Prog.update fun t => { t with dispatchReceipts := t.dispatchReceipts ++ [row] }

/-- Carry the action of an admitted request out. -/
def execute (B : Builtins) (r : Request) (a : Admission) : Statement Json := do
  let result ← ofCalled (r.carryOut (serverPayload r a.operator))
  let resultSha256 := B.canonicalSha256 result
  let receiptEvent ← ofCalled r.receiptEvent
  insertDispatchReceipt
    { dispatchReceiptId := r.dispatchReceiptId
      requestId := r.requestId
      operatorSubjectId := a.operator.operatorSubjectId
      operatorUserId := a.uid
      action := r.name
      requiredScope := a.required.scope
      requiredAuthorityClass := a.required.authority
      resultSha256 }
  let ok ← Prog.okOr (okOf result) invalidBoolean
  pure (.object
    [(text "ok", .bool ok),
      (text "contract", .string (text "ct.chlom.authenticated-control-plane-dispatch.v1")),
      (text "request_id", .string (uuidText r.requestId)),
      (text "dispatch_receipt_id", .string (uuidText r.dispatchReceiptId)),
      (text "action", .string r.name),
      (text "result_sha256", .string resultSha256),
      (text "result", result),
      (text "receipt_dail", receiptEvent),
      (text "external_execution_enabled", .bool false)])

def dispatchV1 (B : Builtins) (r : Request) : Statement Json := do
  let a ← judge r
  if a.required.mutation = true then execute B r a
  else pure (if r.name = text "status" then r.status else r.capabilities)

/-! ## The second dispatcher -/

/-- What the second dispatcher answers when it stored a result. -/
def answerV2 (row : IdempotencyReceipt) : Json :=
  row.result.concat (.object
    [(text "idempotent_replay", .bool false),
      (text "idempotency_receipt_id", .string (uuidText row.idempotencyReceiptId))])

/-- What it answers when it finds a result stored. -/
def replayV2 (B : Builtins) (row : IdempotencyReceipt) : Json :=
  row.result.concat (.object
    [(text "idempotent_replay", .bool true),
      (text "idempotency_receipt_id", .string (uuidText row.idempotencyReceiptId)),
      (text "first_recorded_at", .string (B.timestampText row.recordedAt))])

def insertIdempotencyReceipt (row : IdempotencyReceipt) : Statement Unit := do
  Prog.acquire (.idempotencyReceipt row.idempotencyReceiptId)
  let sameId ← Prog.query fun t =>
    t.idempotencyReceipts.filter fun r => r.idempotencyReceiptId = row.idempotencyReceiptId
  Prog.ensure (sameId.isEmpty = true) (.own (.uniqueViolation "idempotency_receipt_id"))
  Prog.acquire (.idempotencyKey row.key)
  let sameKey ← Prog.query fun t => t.idempotencyReceipts.filter fun r => r.key = row.key
  Prog.ensure (sameKey.isEmpty = true)
    (.own (.uniqueViolation "operator_user_id, action, idempotency_key_hash"))
  Prog.update fun t => { t with idempotencyReceipts := t.idempotencyReceipts ++ [row] }

/-- The result stored under a key. -/
def priorOf (t : Tables) (key : ReceiptKey) : Option IdempotencyReceipt :=
  t.idempotencyReceipts.find? fun row => row.key = key

/-- The row that stores the result of a mutation. -/
def receiptOf (B : Builtins) (r : Request) (key : ReceiptKey) (operatorSubjectId : Text)
    (result : Json) : IdempotencyReceipt where
  idempotencyReceiptId := r.idempotencyReceiptId
  operatorUserId := key.1
  operatorSubjectId
  action := key.2.1
  idempotencyKeyHash := key.2.2
  requestPayloadSha256 := B.canonicalSha256 r.document
  resultSha256 := B.canonicalSha256 result
  result
  recordedAt := r.recordedAt

/-- Carry out a mutation whose key is not in use, and store its result. -/
def firstV2 (B : Builtins) (r : Request) (key : ReceiptKey) (operatorSubjectId : Text) :
    Statement Json := do
  let result ← dispatchV1 B r.passOn
  insertIdempotencyReceipt (receiptOf B r key operatorSubjectId result)
  pure (answerV2 (receiptOf B r key operatorSubjectId result))

/-- Answer a mutation whose key is in use. -/
def againV2 (B : Builtins) (r : Request) (prior : IdempotencyReceipt) : Statement Json := do
  Prog.ensure (prior.requestPayloadSha256 = B.canonicalSha256 r.document) idempotencyConflict
  pure (replayV2 B prior)

/-- The key of a mutation, without the spaces at its ends. -/
def trimmedKey (key : Option Text) : Text :=
  btrim (key.getD [])

def mutateV2 (B : Builtins) (r : Request) (uid : Uuid) (key : Text) : Statement Json := do
  Prog.ensure (key ≠ []) keyRequired
  Prog.ensure (key.length ≤ 128) keyTooLong
  let latest ← Prog.query fun t => latestOperator r.met t.operators uid
  let operator ← Prog.okOr latest operatorNotActive
  let receiptKey : ReceiptKey := (uid, r.name, B.sha256Hex key)
  Prog.acquire (.advisory (receiptLock B receiptKey))
  let prior ← Prog.query fun t => priorOf t receiptKey
  match prior with
  | some prior => againV2 B r prior
  | none => firstV2 B r receiptKey operator.operatorSubjectId

def dispatchV2 (B : Builtins) (r : Request) (key : Option Text) : Statement Json := do
  let uid ← Prog.okOr r.uid authenticationRequired
  if Mutation r.name then mutateV2 B r uid (trimmedKey key) else dispatchV1 B r.passOn

/-! ## The third dispatcher -/

def contractV3 : Text × Json :=
  (text "dispatcher_contract",
    .string (text "ct.chlom.authenticated-control-plane-dispatch.v3"))

/-- What the third dispatcher answers when it stored a response. -/
def answerV3 (B : Builtins) (key : Text) (response : Json) (limit : Nat) : Json :=
  response.concat (.object
    [contractV3,
      (text "idempotency_key", .string key),
      (text "idempotency_response_sha256", .string (B.canonicalSha256 response)),
      (text "idempotent_replay", .bool false),
      (text "rate_limit_per_minute", .number (Nat.toDigits 10 limit))])

/-- What it answers when it finds a response stored. -/
def replayV3 (B : Builtins) (row : RegistryRow) (response : Json) (limit : Nat) : Json :=
  response.concat (.object
    [contractV3,
      (text "idempotent_replay", .bool true),
      (text "idempotency_key", .string row.idempotencyKey),
      (text "idempotency_response_sha256", (row.responseSha256.map Json.string).getD .null),
      (text "first_seen_at", .string (B.timestampText row.firstSeenAt)),
      (text "rate_limit_per_minute", .number (Nat.toDigits 10 limit))])

/-- The start of the minute of a time. -/
def minute (time : Timestamp) : Timestamp :=
  time - time % 60000000

def rateLimit (action : Text) : Nat :=
  if Mutation action then 30 else 120

/-- Count a request in the bucket of its minute. -/
def countRequest (uid : Uuid) (action : Text) (clock : Timestamp) : Statement Unit := do
  let key : BucketKey := (uid, action, minute clock)
  Prog.acquire (.rateBucket key)
  let stored ← Prog.query fun t => t.rateBuckets.find key
  let count := (stored.map RateBucket.requestCount).getD 0 + 1
  Prog.update fun t =>
    { t with rateBuckets := t.rateBuckets.put ⟨uid, action, minute clock, count, clock⟩ }
  Prog.ensure (count ≤ rateLimit action) rateLimitExceeded

def keyLetter (c : Char) : Bool :=
  c.isAlphanum ∨ c = '.' ∨ c = '_' ∨ c = ':' ∨ c = '-'

/-- A key that the third dispatcher accepts. -/
def ValidKey (key : Text) : Prop :=
  16 ≤ key.length ∧ key.length ≤ 128 ∧ key.all keyLetter = true

instance (key : Text) : Decidable (ValidKey key) :=
  inferInstanceAs (Decidable (_ ∧ _ ∧ _))

/-- The digest of a request. -/
def requestSha256 (B : Builtins) (r : Request) : Text :=
  B.canonicalSha256 (.object [(text "action", .string r.name), (text "payload", r.document)])

/-- The row that reserves a key. -/
def placeholder (B : Builtins) (r : Request) (key : RegistryKey) : RegistryRow where
  operatorUserId := key.1
  idempotencyKey := key.2
  action := r.name
  requestSha256 := requestSha256 B r
  state := .processing
  response := none
  responseSha256 := none
  firstSeenAt := r.recordedAt
  completedAt := none

/-- The row with the response of its mutation. -/
def completed (B : Builtins) (r : Request) (key : RegistryKey) (response : Json) : RegistryRow :=
  { placeholder B r key with
    state := .completed
    response := some response
    responseSha256 := some (B.canonicalSha256 response)
    completedAt := some r.completedAt }

/-- Reserve a key, carry the mutation out, and store its response. -/
def firstV3 (B : Builtins) (r : Request) (key : RegistryKey) : Statement Json := do
  Prog.acquire (.registry key)
  let stored ← Prog.query fun t => t.registry.find key
  Prog.ensure (stored.isNone = true) (.own (.uniqueViolation "operator_user_id, idempotency_key"))
  Prog.update fun t => { t with registry := t.registry.put (placeholder B r key) }
  let response ← dispatchV1 B r.passOn
  Prog.update fun t => { t with registry := t.registry.put (completed B r key response) }
  pure (answerV3 B key.2 response (rateLimit r.name))

/-- Answer a mutation whose key is in use. -/
def againV3 (B : Builtins) (r : Request) (stored : RegistryRow) : Statement Json := do
  Prog.ensure (stored.action = r.name ∧ stored.requestSha256 = requestSha256 B r)
    idempotencyConflict
  Prog.ensure (stored.state = .completed) requestInProgress
  let response ← Prog.okOr stored.response requestInProgress
  pure (replayV3 B stored response (rateLimit r.name))

def mutateV3 (B : Builtins) (r : Request) (uid : Uuid) (key : Text) : Statement Json := do
  Prog.ensure (ValidKey key) keyRequired
  Prog.acquire (.advisory (registryLock B (uid, key)))
  let stored ← Prog.query fun t => t.registry.find (uid, key)
  match stored with
  | some stored => againV3 B r stored
  | none => firstV3 B r (uid, key)

def readV3 (B : Builtins) (r : Request) : Statement Json := do
  let response ← dispatchV1 B r.passOn
  pure (response.concat (.object
    [contractV3,
      (text "idempotency_required", .bool false),
      (text "rate_limit_per_minute", .number (Nat.toDigits 10 (rateLimit r.name)))]))

def dispatchV3 (B : Builtins) (r : Request) (key : Option Text) : Statement Json := do
  let uid ← Prog.okOr r.uid authenticationRequired
  Prog.ensure (r.document.octets ≤ 1048576) payloadTooLarge
  countRequest uid r.name r.clock
  if Mutation r.name then mutateV3 B r uid (trimmedKey key) else readV3 B r

/-! ## Calls -/

/-- Append a version of an operator. -/
def appendOperator (row : OperatorVersion) : Statement Json := do
  Prog.acquire (.operator row.key)
  let stored ← Prog.query fun t => t.operators.find row.key
  Prog.ensure (stored = none) (.own (.uniqueViolation "operator_subject_id, version"))
  Prog.update fun t => { t with operators := t.operators.insert row }
  pure .null

inductive Call where
  | operator (row : OperatorVersion)
  | v1 (request : Request)
  | v2 (request : Request) (key : Option Text)
  | v3 (request : Request) (key : Option Text)

def perform (B : Builtins) : Call → Statement Json
  | .operator row => appendOperator row
  | .v1 request => dispatchV1 B request
  | .v2 request key => dispatchV2 B request key
  | .v3 request key => dispatchV3 B request key

/-- The sessions after a schedule of the steps of their calls. -/
abbrev sessions {Session : Type} [DecidableEq Session] (B : Builtins)
    (schedule : List (Action Call Session)) : System Tables Lock Failure Json Call Session :=
  Runs.run (step (perform B)) (.initial .empty) schedule

end Chlom.Dispatcher
