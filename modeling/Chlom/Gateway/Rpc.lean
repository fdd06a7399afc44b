import Chlom.Evidence.Envelope
import Chlom.Library.Js.Date
import Chlom.Library.Sends

/-!
# The governed RPC endpoint

A request is authorised, its input parsed and its method classified; only then is it sent to
the provider that the environment configures for the chain, and what comes back is wrapped in
an envelope.  The requests that are sent are the log of the model.
-/

namespace Chlom.Gateway

open Js

/-! ## Constants -/

def READ_ONLY_RPC_METHODS : List Str :=
  [lit "eth_chainId", lit "eth_blockNumber", lit "eth_getBalance", lit "eth_getBlockByHash",
    lit "eth_getBlockByNumber", lit "eth_getCode", lit "eth_getLogs", lit "eth_getStorageAt",
    lit "eth_getTransactionByBlockHashAndIndex", lit "eth_getTransactionByBlockNumberAndIndex",
    lit "eth_getTransactionByHash", lit "eth_getTransactionCount", lit "eth_getTransactionReceipt",
    lit "eth_call", lit "eth_estimateGas", lit "eth_feeHistory", lit "eth_gasPrice",
    lit "net_version", lit "web3_clientVersion"]

def GOVERNED_WRITE_RPC_METHODS : List Str := [lit "eth_sendRawTransaction"]

def PROHIBITED_RPC_PREFIXES : List Str :=
  [lit "admin_", lit "debug_", lit "engine_", lit "miner_", lit "personal_", lit "txpool_"]

def GOOGLE_RPC_SUNSET : Str := lit "2026-12-15"
def MAX_REQUEST_BYTES : Nat := 128 * 1024
def MAX_RPC_PARAMS_BYTES : Nat := 64 * 1024

/-! ## Chains -/

structure ChainDefinition where
  key : Str
  displayName : Str
  evm : Bool
  chainIdHex : Option Str
  analyticsDataset : Option Str

def CHAIN_KEYS : List Str :=
  [lit "base", lit "base-sepolia", lit "ethereum", lit "arbitrum", lit "avalanche", lit "cronos",
    lit "fantom", lit "optimism", lit "polygon", lit "tron"]

def CHAIN_REGISTRY : List ChainDefinition :=
  [⟨lit "base", lit "Base Mainnet", true, some (lit "0x2105"), none⟩,
    ⟨lit "base-sepolia", lit "Base Sepolia", true, some (lit "0x14a34"), none⟩,
    ⟨lit "ethereum", lit "Ethereum Mainnet", true, some (lit "0x1"),
      some (lit "bigquery-public-data.goog_blockchain_ethereum_mainnet_us")⟩,
    ⟨lit "arbitrum", lit "Arbitrum One", true, some (lit "0xa4b1"),
      some (lit "bigquery-public-data.goog_blockchain_arbitrum_one_us")⟩,
    ⟨lit "avalanche", lit "Avalanche C-Chain", true, some (lit "0xa86a"),
      some (lit "bigquery-public-data.goog_blockchain_avalanche_contract_chain_us")⟩,
    ⟨lit "cronos", lit "Cronos Mainnet", true, some (lit "0x19"),
      some (lit "bigquery-public-data.goog_blockchain_cronos_mainnet_us")⟩,
    ⟨lit "fantom", lit "Fantom Opera", true, some (lit "0xfa"),
      some (lit "bigquery-public-data.goog_blockchain_fantom_opera_us")⟩,
    ⟨lit "optimism", lit "Optimism Mainnet", true, some (lit "0xa"),
      some (lit "bigquery-public-data.goog_blockchain_optimism_mainnet_us")⟩,
    ⟨lit "polygon", lit "Polygon Mainnet", true, some (lit "0x89"),
      some (lit "bigquery-public-data.goog_blockchain_polygon_mainnet_us")⟩,
    ⟨lit "tron", lit "Tron Mainnet", false, none,
      some (lit "bigquery-public-data.goog_blockchain_tron_mainnet_us")⟩]

/-- `CHAIN_REGISTRY[chain]`. -/
def chainDefinition (chain : Str) : Option ChainDefinition :=
  CHAIN_REGISTRY.find? fun definition => definition.key = chain

/-- `chain.toUpperCase().replaceAll('-', '_')`, of keys in lower-case letters and hyphens. -/
def envChainSuffix (chain : Str) : Str :=
  chain.map fun c =>
    if unit 'a' ≤ c ∧ c ≤ unit 'z' then Fin.ofNat 0x10000 (c.val - 32)
    else if c = unit '-' then unit '_' else c

/-! ## Errors -/

/-- What an error tells beside its message. -/
inductive Details where
  | none
  | maximumBytes (bytes : Nat)
  | origin (origin : Str)
  | unreachable (provider reason : Str)
  | provider (name : Str) (status : Nat)
  | reason (reason : Str)
  | query (status : Nat) (errors : Option Str) (template chain : Str)
  | template (template chain : Str)
  | mcpCode (code : Int)
  | versions (code : Int) (supported : List Str) (requested : Option Str)

structure ChlomError where
  code : Str
  message : Str
  status : Nat
  details : Details

/-- What is thrown: an error of the gateway, or any other with its message. -/
inductive Thrown where
  | chlom (error : ChlomError)
  | other (message : Str)

def normalizeError : Thrown → ChlomError
  | .chlom error => error
  | .other message => ⟨lit "CHLOM_INTERNAL_ERROR", message, 500, .none⟩

def throwChlom {α : Type} (code message : Str) (status : Nat) (details : Details) :
    Except Thrown α :=
  .error (.chlom ⟨code, message, status, details⟩)

def validationFailed {α : Type} (message : Str) : Except Thrown α :=
  throwChlom (lit "CHLOM_REQUEST_VALIDATION_FAILED") message 400 .none

/-! ## Requests and what the gateway runs in -/

inductive HeaderValue where
  | one (value : Str)
  | many (values : List Str)

/-- A body as the platform hands it over: parsed or as a string, or as the text of a buffer. -/
inductive Body (N : Type) where
  | value (value : Option (Value N))
  | buffer (text : Str)

structure Request (N : Type) where
  method : Str
  headers : List (Str × HeaderValue)
  body : Body N

/-- What one call of `fetch` comes to: none, or an answer with a status and a text, if it could be
read. -/
inductive Fetched where
  | failed (reason : Str)
  | answered (status : Nat) (text : Option Str)

def Fetched.ok (status : Nat) : Bool := 200 ≤ status && status ≤ 299

structure RpcRequest (N : Type) where
  id : Str
  method : Str
  params : List (Value N)

structure Parameter where
  name : Str
  type : Str
  value : Str

/-- A query as it is posted to BigQuery. -/
structure Job where
  projectId : Str
  accessToken : Str
  location : Str
  query : Str
  parameters : List Parameter
  maximumBytesBilled : Str
  template : Str

/-- The environment of a request, and what the platform makes of it.  `number` is `Number(text)`
where that is finite, `integer` a safe integer as a number, `urlProtocol` the protocol of
`new URL(text)` where that is valid, and `jsonErrorText` the message about a text that is not
JSON. -/
structure Host (N : Type) where
  platform : Evidence.Platform
  env : Str → Option Str
  urlProtocol : Str → Option Str
  number : Str → Option Rat
  integer : Int → N
  parseJson : Str → Option (Value N)
  jsonErrorText : Str → Str
  decodeBase64 : Str → Str
  rpcId : Str
  randomUUID : Str
  now : Int
  googleAccessToken : Except Thrown Str

/-- A request that leaves the gateway by a call of `fetch`. -/
inductive Outgoing (N : Type) where
  | rpc (endpoint : Str) (request : RpcRequest N)
  | bigquery (job : Job)

/-- The network outside: what the last of all calls of `fetch` comes to.  Following the redirects
of an answer is part of the call and of the network. -/
abbrev Network (N : Type) := List (Outgoing N) → Fetched

abbrev Handling (N α : Type) := Dispatch (List (Outgoing N)) Thrown α

variable {N : Type}

def getHeader (request : Request N) (name : Str) : Option Str :=
  match request.headers.lookup name with
  | some (.one value) => some value
  | some (.many values) => values.head?
  | none => none

/-- `value || ''`. -/
def orEmpty (value : Option Str) : Str := value.getD []

/-- `process.env[name]`, none where it is unset or empty. -/
def Host.set (host : Host N) (name : Str) : Option Str :=
  (host.env name).filter fun value => value ≠ []

def constantTimeEqual (left right : Str) : Bool := utf8 left = utf8 right

/-! ## The perimeter -/

def enforceRequestSize (host : Host N) (request : Request N) : Except Thrown Unit :=
  match getHeader request (lit "content-length") with
  | some (c :: text) =>
      if ∃ length ∈ host.number (c :: text), (MAX_REQUEST_BYTES : Rat) < length then
        throwChlom (lit "CHLOM_REQUEST_TOO_LARGE")
          (lit "Request body exceeds the governed payload limit.") 413
          (.maximumBytes MAX_REQUEST_BYTES)
      else .ok ()
  | _ => .ok ()

/-- The parts between commas. -/
def splitComma : Str → List Str
  | [] => [[]]
  | c :: rest =>
      if c = unit ',' then [] :: splitComma rest
      else match splitComma rest with
        | [] => [[c]]
        | part :: parts => (c :: part) :: parts

def configuredAllowedOrigins (host : Host N) (request : Request N) : List Str :=
  let explicit := ((splitComma (orEmpty (host.env (lit "CHLOM_ALLOWED_ORIGINS")))).map trim).filter
    fun origin => origin ≠ []
  let requestHost :=
    ((getHeader request (lit "x-forwarded-host")).filter (· ≠ [])).or
      ((getHeader request (lit "host")).filter (· ≠ []))
  let protocol :=
    ((getHeader request (lit "x-forwarded-proto")).filter (· ≠ [])).getD (lit "https")
  explicit ++ (requestHost.map fun name => protocol ++ lit "://" ++ name).toList

def validateOrigin (host : Host N) (request : Request N) : Except Thrown Unit :=
  match getHeader request (lit "origin") with
  | some (c :: origin) =>
      if (c :: origin) ∈ configuredAllowedOrigins host request then .ok ()
      else throwChlom (lit "CHLOM_ORIGIN_REJECTED")
        (lit "The request Origin is not allowed by the CHLOM perimeter.") 403
        (.origin (c :: origin))
  | _ => .ok ()

/-- The token of a bearer header. -/
def suppliedToken (request : Request N) : Str :=
  let header := orEmpty (getHeader request (lit "authorization"))
  if (lit "Bearer ").isPrefixOf header then trim (header.drop 7) else []

def requireApiAuthorization (host : Host N) (request : Request N) : Except Thrown Unit := do
  enforceRequestSize host request
  match host.set (lit "CHLOM_API_TOKEN") with
  | none =>
      throwChlom (lit "CHLOM_API_TOKEN_NOT_CONFIGURED")
        (lit "The CHLOM API is fail-closed until CHLOM_API_TOKEN is configured.") 503 .none
  | some configured =>
      let supplied := suppliedToken request
      if supplied = [] ∨ constantTimeEqual supplied configured = false then
        throwChlom (lit "CHLOM_UNAUTHORIZED") (lit "A valid CHLOM bearer token is required.") 401
          .none
      else .ok ()

def assertWriteAuthority (host : Host N) (request : Request N) : Except Thrown Unit :=
  if host.env (lit "CHLOM_CHAIN_WRITE_ENABLED") ≠ some (lit "true") then
    throwChlom (lit "CHLOM_CHAIN_WRITE_DISABLED")
      (lit "Chain broadcast is disabled by CHLOM policy.") 403 .none
  else if host.env (lit "CHLOM_GOVERNANCE_STATE") ≠ some (lit "promoted") then
    throwChlom (lit "CHLOM_GOVERNANCE_NOT_PROMOTED")
      (lit "Chain broadcast requires a promoted CHLOM governance state.") 403 .none
  else
    let supplied := orEmpty (getHeader request (lit "x-chlom-ecac-digest"))
    match host.set (lit "CHLOM_ECAC_DIGEST") with
    | some expected =>
        if supplied = [] ∨ constantTimeEqual expected supplied = false then
          throwChlom (lit "CHLOM_ECAC_MISMATCH")
            (lit "Chain broadcast requires an exact active ECAC digest.") 403 .none
        else .ok ()
    | none =>
        throwChlom (lit "CHLOM_ECAC_MISMATCH")
          (lit "Chain broadcast requires an exact active ECAC digest.") 403 .none

def invalidJson {α : Type} : Except Thrown α :=
  throwChlom (lit "CHLOM_INVALID_JSON") (lit "Request body is not valid JSON.") 400 .none

def readJsonBody (host : Host N) (request : Request N) : Except Thrown (Value N) := do
  enforceRequestSize host request
  match request.body with
  | .value (some (.object entries)) => return .object entries
  | .value (some (.array items)) => return .array items
  | .buffer text =>
      match host.parseJson text with
      | some value => return value
      | none => invalidJson
  | .value (some (.string text)) =>
      if trim text = [] then
        throwChlom (lit "CHLOM_BODY_REQUIRED") (lit "A JSON request body is required.") 400 .none
      else
        match host.parseJson text with
        | some value => return value
        | none => invalidJson
  | _ => throwChlom (lit "CHLOM_BODY_REQUIRED") (lit "A JSON request body is required.") 400 .none

/-! ## Inputs -/

/-- A value that is read from a property or an argument, `none` where it is undefined. -/
abbrev Any (N : Type) := Option (Value N)

/-- A property of a value that may not be an object. -/
def get (value : Any N) (name : String) : Any N :=
  match value with
  | some (.object entries) => property entries name
  | _ => none

def requireObject (value : Any N) (label : Str) : Except Thrown (Entries N) :=
  match value with
  | some (.object entries) => .ok entries
  | _ => validationFailed (label ++ lit " must be an object.")

/-- A text whose length is within bounds. -/
abbrev Sized (min max : Nat) := { text : Str // min ≤ text.length ∧ text.length ≤ max }

def requireString (value : Any N) (label : Str) (min max : Nat) :
    Except Thrown (Sized min max) :=
  let refused : Except Thrown (Sized min max) :=
    validationFailed (label ++ lit " must be a string between " ++ natText min ++ lit " and " ++
      natText max ++ lit " characters.")
  match value with
  | some (.string text) =>
      if sized : min ≤ text.length ∧ text.length ≤ max then .ok ⟨text, sized⟩ else refused
  | _ => refused

/-- The key of a chain. -/
abbrev Chain := { chain : Str // chain ∈ CHAIN_KEYS }

def requireChain (value : Any N) : Except Thrown Chain := do
  let ⟨chain, _⟩ ← requireString value (lit "chain") 1 64
  if known : chain ∈ CHAIN_KEYS then return ⟨chain, known⟩
  else throwChlom (lit "CHLOM_UNSUPPORTED_CHAIN") (lit "Unsupported chain: " ++ chain) 400 .none

structure RpcInput (N : Type) where
  chain : Chain
  method : Str
  params : List (Value N)
  few : params.length ≤ 64

def parseRpcInput (raw : Any N) : Except Thrown (RpcInput N) := do
  let value ← requireObject raw (lit "RPC request")
  match (property value "params").getD (.array []) with
  | .array params =>
      if few : params.length ≤ 64 then
        let chain ← requireChain (property value "chain")
        let method ← requireString (property value "method") (lit "method") 1 128
        return ⟨chain, method.val, params, few⟩
      else
        validationFailed (lit "params must be an array with no more than 64 entries.")
  | _ => validationFailed (lit "params must be an array with no more than 64 entries.")

/-! ## Governed calls -/

inductive Mode where
  | read
  | write
  deriving DecidableEq

def classifyRpcMethod (method : Str) : Except Thrown Mode :=
  if ∃ start ∈ PROHIBITED_RPC_PREFIXES, start.isPrefixOf method = true then
    throwChlom (lit "CHLOM_RPC_METHOD_PROHIBITED")
      (lit "RPC namespace is prohibited: " ++ method) 403 .none
  else if method ∈ READ_ONLY_RPC_METHODS then .ok .read
  else if method ∈ GOVERNED_WRITE_RPC_METHODS then .ok .write
  else
    throwChlom (lit "CHLOM_RPC_METHOD_NOT_ALLOWLISTED")
      (lit "RPC method is not allowlisted: " ++ method) 403 .none

/-- A provider's name, the names of its variables and whether it is on its way out. -/
def PROVIDER_PREFIXES : List (Str × Str × Bool) :=
  [(lit "quicknode", lit "QUICKNODE_RPC_", false), (lit "custom", lit "CHLOM_RPC_", false),
    (lit "google-blockchain-rpc-deprecated", lit "GOOGLE_BLOCKCHAIN_RPC_", true),
    (lit "alchemy", lit "ALCHEMY_RPC_", false), (lit "infura", lit "INFURA_RPC_", false)]

structure RpcProvider where
  name : Str
  endpoint : Str
  deprecated : Bool
  sunset : Option Str

/-- The first provider with an endpoint for the chain decides. -/
def resolveFrom (host : Host N) (chain : Str) : List (Str × Str × Bool) → Except Thrown RpcProvider
  | [] =>
      throwChlom (lit "CHLOM_RPC_PROVIDER_NOT_CONFIGURED")
        (lit "No governed RPC endpoint is configured for " ++ chain ++ lit ".") 503 .none
  | (name, start, deprecated) :: rest =>
      match trim (orEmpty (host.env (start ++ envChainSuffix chain))) with
      | [] => resolveFrom host chain rest
      | c :: text =>
          let endpoint := c :: text
          match host.urlProtocol endpoint with
          | none =>
              throwChlom (lit "CHLOM_RPC_ENDPOINT_INVALID")
                (lit "Configured " ++ name ++ lit " endpoint for " ++ chain ++
                  lit " is not a valid URL.") 500 .none
          | some protocol =>
              if protocol ≠ lit "https:" then
                throwChlom (lit "CHLOM_RPC_ENDPOINT_INSECURE")
                  (lit "Configured " ++ name ++ lit " endpoint for " ++ chain ++
                    lit " must use HTTPS.") 500 .none
              else
                .ok ⟨name, endpoint, deprecated,
                  if deprecated then some GOOGLE_RPC_SUNSET else none⟩

def resolveRpcProvider (host : Host N) (chain : Str) : Except Thrown RpcProvider :=
  resolveFrom host chain PROVIDER_PREFIXES

variable [Numbers N]

/-- The bytes of the parameters as they are sent. -/
def paramsBytes (params : List (Value N)) : Nat := (utf8 (stringify (.array params))).length

/-- Everything that is checked before a call is sent. -/
def governed (host : Host N) (input : RpcInput N) (writeAuthorized : Bool) :
    Except Thrown (ChainDefinition × Mode × RpcProvider) := do
  match chainDefinition input.chain with
  | none =>
      throwChlom (lit "CHLOM_RPC_CHAIN_NOT_EVM")
        (lit "JSON-RPC execution is not enabled for " ++ input.chain ++ lit ".") 400 .none
  | some definition =>
      if definition.evm = false then
        throwChlom (lit "CHLOM_RPC_CHAIN_NOT_EVM")
          (lit "JSON-RPC execution is not enabled for " ++ definition.displayName ++ lit ".") 400
          .none
      else if MAX_RPC_PARAMS_BYTES < paramsBytes input.params then
        throwChlom (lit "CHLOM_RPC_PARAMS_TOO_LARGE")
          (lit "RPC parameters exceed the governed payload limit.") 413
          (.maximumBytes MAX_RPC_PARAMS_BYTES)
      else do
        let mode ← classifyRpcMethod input.method
        if mode = .write ∧ writeAuthorized = false then
          throwChlom (lit "CHLOM_RPC_WRITE_AUTHORITY_REQUIRED")
            (lit "This RPC method requires exact CHLOM/ECAC write authority.") 403 .none
        else do
          let provider ← resolveRpcProvider host input.chain
          return (definition, mode, provider)

/-- What the envelope takes from the clock, the random source and the environment. -/
def Host.call (host : Host N) : Evidence.Call where
  randomUUID := host.randomUUID
  now := isoText host.now
  governanceState := host.env (lit "CHLOM_GOVERNANCE_STATE")
  chainWriteEnabled := host.env (lit "CHLOM_CHAIN_WRITE_ENABLED")

/-- The text of an object with the given texts of its properties, in the order by locale. -/
def objectText (P : Evidence.Platform) (fields : List (Str × Str)) : Str :=
  lit "\x7b" ++ commaJoin ((sortByKey P.LocaleLe fields).map fun (key, item) =>
    quote key ++ lit ":" ++ item) ++ lit "\x7d"

/-- The text of a property that may be undefined. -/
def optionalText (P : Evidence.Platform) (value : Option Str) : Str :=
  value.elim (lit "undefined") fun text => Evidence.canonicalize P (.string text : Value N)

/-- A property that is left out where it is undefined. -/
def optional (name : String) (value : Option Str) : Entries N :=
  value.toList.map fun text => (lit name, .string text)

/-- An envelope of a request and a payload with the given digests. -/
def envelopeOf (P : Evidence.Platform) (call : Evidence.Call) (source : Entries N)
    (requestDigest payloadDigest : Str) (payload : Value N) (write : Bool) :
    Evidence.Envelope N :=
  let authority : Evidence.Authority := {
    riskClass := if write then lit "D2" else lit "D1"
    mode := if write then lit "governed_broadcast" else lit "read_only"
    governanceState := Evidence.governanceState call.governanceState
    chainWriteEnabled := call.chainWriteEnabled = some (lit "true") }
  let evidenceDigest := Evidence.sha256 P (.object [
    (lit "schema", .string Evidence.CHLOM_EVIDENCE_SCHEMA),
    (lit "eventId", .string call.randomUUID), (lit "observedAt", .string call.now),
    (lit "source", .object source), (lit "authority", authority.toValue),
    (lit "requestDigest", .string requestDigest),
    (lit "payloadDigest", .string payloadDigest)] : Value N)
  { schema := Evidence.CHLOM_EVIDENCE_SCHEMA
    eventId := call.randomUUID
    observedAt := call.now
    source := .object source
    authority
    requestDigest
    payloadDigest
    evidenceDigest
    payload
    dailProjection := {
      eventType := lit "chlom.chain." ++ Evidence.templateText (property source "kind") ++
        lit "." ++ Evidence.templateText (property source "operation")
      idempotencyKey := evidenceDigest
      evidenceDigest } }

/-- The envelope of JSON values is the one with their digests. -/
theorem envelopeOf_sha256 (P : Evidence.Platform) (call : Evidence.Call) (source : Entries N)
    (request payload : Value N) (write : Bool) :
    envelopeOf P call source (Evidence.sha256 P request) (Evidence.sha256 P payload) payload write =
      Evidence.createEvidenceEnvelope P call source request payload write :=
  rfl

/-- The digest of the payload of an answer.  The properties that are undefined are part of
its text. -/
def rpcPayloadDigest (P : Evidence.Platform) (definition : ChainDefinition)
    (provider : RpcProvider) (rpcPayload : Value N) : Str :=
  hexText (P.sha256 (utf8 (objectText P [
    (lit "response", Evidence.canonicalize P rpcPayload),
    (lit "provider", objectText P [
      (lit "name", Evidence.canonicalize P (.string provider.name : Value N)),
      (lit "deprecated", Evidence.canonicalize P (.boolean provider.deprecated : Value N)),
      (lit "sunset", optionalText (N := N) P provider.sunset)]),
    (lit "expectedChainId", optionalText (N := N) P definition.chainIdHex)]))).toList

/-- The source that an envelope names. -/
def rpcSource (host : Host N) (input : RpcInput N) (provider : RpcProvider) : Entries N :=
  [(lit "kind", .string (lit "rpc")), (lit "provider", .string provider.name),
    (lit "chain", .string input.chain), (lit "operation", .string input.method),
    (lit "endpointFingerprint",
      .string (Evidence.sha256 host.platform (.string provider.endpoint : Value N)))]

/-- The request that an envelope digests. -/
def rpcRequestValue (input : RpcInput N) : Value N :=
  .object [(lit "chain", .string input.chain), (lit "method", .string input.method),
    (lit "params", .array input.params)]

/-- The envelope of an answer. -/
def rpcEnvelope (host : Host N) (input : RpcInput N) (definition : ChainDefinition) (mode : Mode)
    (provider : RpcProvider) (rpcPayload : Value N) : Evidence.Envelope N :=
  envelopeOf host.platform host.call (rpcSource host input provider)
    (Evidence.sha256 host.platform (rpcRequestValue input))
    (rpcPayloadDigest host.platform definition provider rpcPayload)
    (.object ([(lit "response", rpcPayload),
      (lit "provider", .object ([(lit "name", .string provider.name),
        (lit "deprecated", .boolean provider.deprecated)] ++ optional "sunset" provider.sunset))] ++
      optional "expectedChainId" definition.chainIdHex))
    (decide (mode = .write))

/-- What is made of the answer of a provider. -/
def finishRpc (host : Host N) (input : RpcInput N) (definition : ChainDefinition) (mode : Mode)
    (provider : RpcProvider) : Fetched → Except Thrown (Evidence.Envelope N)
  | .failed reason =>
      throwChlom (lit "CHLOM_RPC_PROVIDER_UNREACHABLE")
        (lit "The governed RPC provider could not be reached.") 502
        (.unreachable provider.name reason)
  | .answered _ none => .error (.other (lit "terminated"))
  | .answered status (some text) =>
      match host.parseJson text with
      | none =>
          throwChlom (lit "CHLOM_RPC_INVALID_RESPONSE")
            (lit "RPC provider returned a non-JSON response.") 502 (.provider provider.name status)
      | some rpcPayload =>
          if Fetched.ok status = false then
            throwChlom (lit "CHLOM_RPC_PROVIDER_ERROR")
              (lit "RPC provider rejected the request.") 502 (.provider provider.name status)
          else .ok (rpcEnvelope host input definition mode provider rpcPayload)

/-- The request for a call. -/
def rpcRequest (host : Host N) (input : RpcInput N) : RpcRequest N :=
  { id := host.rpcId, method := input.method, params := input.params }

def callGovernedRpc (host : Host N) (network : Network N) (input : RpcInput N)
    (writeAuthorized : Bool) : Handling N (Evidence.Envelope N) := do
  let (definition, mode, provider) ← Dispatch.ofExcept (governed host input writeAuthorized)
  let fetched ← Sends.send network (.rpc provider.endpoint (rpcRequest host input))
  Dispatch.ofExcept (finishRpc host input definition mode provider fetched)

/-! ## The endpoint -/

inductive RpcAnswer (N : Type) where
  | methodNotAllowed
  | envelope (envelope : Evidence.Envelope N)
  | failed (error : ChlomError)

/-- The input of an authorised request and how its method is classified. -/
def acceptRpc (host : Host N) (request : Request N) : Except Thrown (RpcInput N × Mode) := do
  validateOrigin host request
  requireApiAuthorization host request
  let body ← readJsonBody host request
  let input ← parseRpcInput (some body)
  let mode ← classifyRpcMethod input.method
  if mode = .write then assertWriteAuthority host request
  return (input, mode)

/-- What an RPC request does once it is accepted. -/
def handleRpc (host : Host N) (network : Network N) (request : Request N) :
    Handling N (Evidence.Envelope N) := do
  let (input, mode) ← Dispatch.ofExcept (acceptRpc host request)
  callGovernedRpc host network input (decide (mode = .write))

/-- `handler` of `api/rpc.js`. -/
def rpcHandler (host : Host N) (network : Network N) (request : Request N)
    (log : List (Outgoing N)) : List (Outgoing N) × RpcAnswer N :=
  if request.method ≠ lit "POST" then (log, .methodNotAllowed)
  else
    Sends.answered (handleRpc host network request)
      (fun
        | .ok envelope => .envelope envelope
        | .error error => .failed (normalizeError error))
      log

end Chlom.Gateway
