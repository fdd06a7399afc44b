import Chlom.Gateway.Analytics

/-!
# The MCP endpoint

One JSON-RPC message is checked against the headers that mirror it, and a call of a tool runs
one of five tools.  The tools read; what they send to providers and to BigQuery goes to the
same log as the calls of the RPC endpoint.
-/

namespace Chlom.Gateway

open Js

variable {N : Type}

/-! ## Constants -/

def MCP_LATEST_PROTOCOL_VERSION : Str := lit "2026-07-28"
def MCP_LEGACY_PROTOCOL_VERSION : Str := lit "2025-11-25"

def MCP_SUPPORTED_PROTOCOL_VERSIONS : List Str :=
  [MCP_LATEST_PROTOCOL_VERSION, MCP_LEGACY_PROTOCOL_VERSION]

namespace MCP_ERROR

def INVALID_REQUEST : Int := -32600
def METHOD_NOT_FOUND : Int := -32601
def INVALID_PARAMS : Int := -32602
def INTERNAL_ERROR : Int := -32603
def HEADER_MISMATCH : Int := -32020
def MISSING_REQUIRED_CLIENT_CAPABILITY : Int := -32021
def UNSUPPORTED_PROTOCOL_VERSION : Int := -32022
def AUTHORIZATION_FAILED : Int := -32030

end MCP_ERROR

/-- The names of the tools. -/
def MCP_TOOLS : List Str :=
  [lit "chlom_provider_status", lit "chlom_chain_read", lit "chlom_verify_transaction",
    lit "chlom_query_blockchain_analytics", lit "chlom_prepare_evidence_anchor"]

/-! ## The state of the configuration -/

def configuredRpcChains (host : Host N) : List Str :=
  CHAIN_KEYS.filter fun chain =>
    [lit "CHLOM_RPC_", lit "QUICKNODE_RPC_", lit "GOOGLE_BLOCKCHAIN_RPC_", lit "ALCHEMY_RPC_",
      lit "INFURA_RPC_"].any fun start => (host.set (start ++ envChainSuffix chain)).isSome

def configuredRpcProviders (host : Host N) : List Str :=
  ([(lit "custom", lit "CHLOM_RPC_"), (lit "quicknode", lit "QUICKNODE_RPC_"),
      (lit "google-blockchain-rpc-deprecated", lit "GOOGLE_BLOCKCHAIN_RPC_"),
      (lit "alchemy", lit "ALCHEMY_RPC_"), (lit "infura", lit "INFURA_RPC_")].filter
    fun provider => CHAIN_KEYS.any fun chain =>
      (host.set (provider.2 ++ envChainSuffix chain)).isSome).map Prod.fst

def REQUIRED_GOOGLE_VARIABLES : List Str :=
  [lit "GCP_PROJECT_ID", lit "GCP_PROJECT_NUMBER", lit "GCP_SERVICE_ACCOUNT_EMAIL",
    lit "GCP_WORKLOAD_IDENTITY_POOL_ID", lit "GCP_WORKLOAD_IDENTITY_POOL_PROVIDER_ID"]

def googleAnalyticsConfigured (host : Host N) : Bool :=
  REQUIRED_GOOGLE_VARIABLES.all fun key => (host.set key).isSome

structure Readiness where
  apiTokenConfigured : Bool
  googleAnalyticsConfigured : Bool
  googleAnalyticsLocation : Str
  configuredRpcChains : List Str
  configuredRpcProviders : List Str
  governanceState : Str
  chainWriteEnabled : Bool
  ecacConfigured : Bool
  allowedOriginsConfigured : Bool

def runtimeReadiness (host : Host N) : Readiness where
  apiTokenConfigured := (host.set (lit "CHLOM_API_TOKEN")).isSome
  googleAnalyticsConfigured := googleAnalyticsConfigured host
  googleAnalyticsLocation := (host.set (lit "GCP_BIGQUERY_LOCATION")).getD (lit "US")
  configuredRpcChains := configuredRpcChains host
  configuredRpcProviders := configuredRpcProviders host
  governanceState := (host.set (lit "CHLOM_GOVERNANCE_STATE")).getD (lit "hold")
  chainWriteEnabled := host.env (lit "CHLOM_CHAIN_WRITE_ENABLED") = some (lit "true")
  ecacConfigured := (host.set (lit "CHLOM_ECAC_DIGEST")).isSome
  allowedOriginsConfigured := (host.set (lit "CHLOM_ALLOWED_ORIGINS")).isSome

/-! ## Anchors -/

structure AnchorIntent where
  schema : Str
  status : Str
  createdAt : Str
  targetChain : Str
  evidenceDigest : Str
  anchorDigest : Str
  broadcast : Bool
  authority : Str

def CHLOM_ANCHOR_SCHEMA : Str := lit "ct.chlom.evidence-anchor-intent.v1"

def ANCHOR_CHAINS : List Str := [lit "base", lit "base-sepolia", lit "ethereum"]

/-- 64 lower-case hexadecimal digits. -/
def isDigest (s : Str) : Bool := s.length = 64 && s.all isLowerHex

def parseAnchorInput (raw : Any N) : Except Thrown (Str × Chain) := do
  let value ← requireObject raw (lit "Anchor request")
  let ⟨evidenceDigest, _⟩ ←
    requireString (property value "evidenceDigest") (lit "evidenceDigest") 64 64
  if isDigest evidenceDigest = false then
    validationFailed (lit "evidenceDigest must be a lowercase SHA-256 hexadecimal digest.")
  else do
    let targetChain ← requireChain (property value "targetChain")
    if targetChain.val ∉ ANCHOR_CHAINS then
      throwChlom (lit "CHLOM_ANCHOR_CHAIN_NOT_ALLOWLISTED")
        (lit "Evidence anchoring is not allowlisted for " ++ targetChain ++ lit ".") 403 .none
    else return (evidenceDigest, targetChain)

/-! ## Tools -/

section Tools

variable [Numbers N]

/-- A text that a request may leave out. -/
def optionalString (value : Any N) (label : Str) (min max : Nat) :
    Except Thrown (Option (Sized min max)) :=
  match value with
  | none => .ok none
  | some _ => some <$> requireString value label min max

def optionalBoundedInteger (value : Any N) (label : Str) (minimum maximum : Int)
    (fallback : Within minimum maximum) : Except Thrown (Within minimum maximum) :=
  let refused : Except Thrown (Within minimum maximum) :=
    validationFailed (label ++ lit " must be an integer from " ++ intText minimum ++
      lit " through " ++ intText maximum ++ lit ".")
  match value with
  | none | some .null => .ok fallback
  | some (.number n) =>
      match Numbers.safeInteger n with
      | none => refused
      | some i => if bounded : minimum ≤ i ∧ i ≤ maximum then .ok ⟨i, bounded⟩ else refused
  | some _ => refused

def parseAnalyticsInput (raw : Any N) : Except Thrown AnalyticsInput := do
  let value ← requireObject raw (lit "Analytics request")
  let ⟨template, _⟩ ← requireString (property value "template") (lit "template") 1 64
  if listed : template ∈ TEMPLATES then do
    let chain ← requireChain (property value "chain")
    let transactionHash ←
      optionalString (property value "transactionHash") (lit "transactionHash") 3 132
    let address ← optionalString (property value "address") (lit "address") 3 132
    let lookbackDays ← optionalBoundedInteger (property value "lookbackDays") (lit "lookbackDays")
      1 MAX_ANALYTICS_LOOKBACK_DAYS ⟨7, by decide⟩
    let limit ← optionalBoundedInteger (property value "limit") (lit "limit") 1 MAX_ANALYTICS_ROWS
      ⟨50, by decide⟩
    return ⟨chain, ⟨template, listed⟩, transactionHash, address, lookbackDays, limit⟩
  else
    throwChlom (lit "CHLOM_ANALYTICS_TEMPLATE_NOT_ALLOWLISTED")
      (lit "Analytics template is not allowlisted: " ++ template) 403 .none

def prepareAnchorIntent (host : Host N) (evidenceDigest targetChain : Str) : AnchorIntent :=
  let createdAt := isoText host.now
  { schema := CHLOM_ANCHOR_SCHEMA
    status := lit "HOLD_REQUIRES_GOVERNED_ANCHOR_ADAPTER"
    createdAt
    targetChain
    evidenceDigest
    anchorDigest := Evidence.sha256 host.platform (.object [
      (lit "schema", .string CHLOM_ANCHOR_SCHEMA), (lit "evidenceDigest", .string evidenceDigest),
      (lit "targetChain", .string targetChain), (lit "createdAt", .string createdAt)] : Value N)
    broadcast := false
    authority := lit "Anchor preparation does not create chain-broadcast authority." }

inductive ToolOutput (N : Type) where
  | readiness (readiness : Readiness)
  | envelope (envelope : Evidence.Envelope N)
  | anchor (intent : AnchorIntent)
  | failure (code message : Str) (status : Nat)

/-- An object literal, without its undefined properties. -/
def record (fields : List (String × Any N)) : Entries N :=
  fields.filterMap fun field => field.2.map fun value => (lit field.1, value)

/-- The input of a chain read. -/
def chainReadInput (args : Entries N) : Except Thrown (RpcInput N) := do
  let input ← parseRpcInput (some (.object args))
  let mode ← classifyRpcMethod input.method
  if mode ≠ .read then
    throwChlom (lit "CHLOM_MCP_WRITE_TOOL_UNAVAILABLE")
      (lit "The MCP chain-read tool cannot execute write methods.") 403 .none
  else return input

/-- The input of a receipt read; an undefined hash is an entry of the parameters as well. -/
def verifyTransactionInput (args : Entries N) : Except Thrown (RpcInput N) := do
  let input ← parseRpcInput (some (.object (record [("chain", property args "chain"),
    ("method", some (.string (lit "eth_getTransactionReceipt"))),
    ("params", some (.array [(property args "transactionHash").getD .null]))])))
  match property args "transactionHash" with
  | some (.string transactionHash) =>
      if isHexNumber transactionHash then return input
      else validationFailed (lit "transactionHash must be a 0x-prefixed hexadecimal value.")
  | _ => validationFailed (lit "transactionHash must be a 0x-prefixed hexadecimal value.")

/-- The arguments of a tool. -/
def toolArguments (rawArguments : Any N) : Except Thrown (Entries N) :=
  match rawArguments with
  | none => .ok []
  | some (.object args) => .ok args
  | some _ =>
      throwChlom (lit "MCP_INVALID_TOOL_ARGUMENTS") (lit "Tool arguments must be an object.") 400
        .none

def unknownTool {α : Type} (name : Str) : Except Thrown α :=
  throwChlom (lit "MCP_UNKNOWN_TOOL") (lit "Unknown MCP tool: " ++ name) 400 .none

def executeTool (host : Host N) (network : Network N) (name : Str) (rawArguments : Any N) :
    Handling N (ToolOutput N) := do
  let args ← Dispatch.ofExcept (toolArguments rawArguments)
  if name = lit "chlom_provider_status" then
    return .readiness (runtimeReadiness host)
  else if name = lit "chlom_chain_read" then do
    let input ← Dispatch.ofExcept (chainReadInput args)
    .envelope <$> callGovernedRpc host network input false
  else if name = lit "chlom_verify_transaction" then do
    let input ← Dispatch.ofExcept (verifyTransactionInput args)
    .envelope <$> callGovernedRpc host network input false
  else if name = lit "chlom_query_blockchain_analytics" then do
    let input ← Dispatch.ofExcept (parseAnalyticsInput (some (.object args)))
    .envelope <$> runBlockchainAnalytics host network input
  else if name = lit "chlom_prepare_evidence_anchor" then do
    let (evidenceDigest, targetChain) ← Dispatch.ofExcept (parseAnchorInput (some (.object args)))
    return .anchor (prepareAnchorIntent host evidenceDigest targetChain)
  else
    Dispatch.ofExcept (unknownTool name)

/-- The result of a tool; most errors are results as well. -/
def toolResult : Except Thrown (ToolOutput N) → Except Thrown (ToolOutput N × Bool)
  | .ok output => .ok (output, false)
  | .error error =>
      let normalized := normalizeError error
      if normalized.code = lit "MCP_UNKNOWN_TOOL" ∨
          normalized.code = lit "MCP_INVALID_TOOL_ARGUMENTS" then
        .error (.chlom normalized)
      else .ok (.failure normalized.code normalized.message normalized.status, true)

def handleToolCall (host : Host N) (network : Network N) (body : Value N) :
    Handling N (ToolOutput N × Bool) := do
  let name ← Dispatch.ofExcept (match get (get (some body) "params") "name" with
    | some (.string name) => if name ∈ MCP_TOOLS then .ok name else unknownTool name
    | some other => unknownTool other.toText
    | none => unknownTool (lit "undefined"))
  let ran ← Dispatch.attempt
    (executeTool host network name (get (get (some body) "params") "arguments"))
  Dispatch.ofExcept (toolResult ran)

end Tools

/-! ## Messages -/

/-- An error of a message with its code in JSON-RPC. -/
def mcpFailed {α : Type} (code message : Str) (mcpCode : Int) : Except Thrown α :=
  throwChlom code message 400 (Details.mcpCode mcpCode)

/-- The message and its method. -/
def validateJsonRpc (body : Value N) : Except Thrown Str :=
  match body with
  | .object entries =>
      match property entries "jsonrpc", property entries "method" with
      | some (.string version), method =>
          if version ≠ lit "2.0" then
            mcpFailed (lit "MCP_INVALID_REQUEST")
              (lit "The request must be one JSON-RPC 2.0 object.") MCP_ERROR.INVALID_REQUEST
          else
            match method with
            | some (.string (c :: name)) => .ok (c :: name)
            | _ =>
                mcpFailed (lit "MCP_INVALID_REQUEST") (lit "The JSON-RPC method is required.")
                  MCP_ERROR.INVALID_REQUEST
      | _, _ =>
          mcpFailed (lit "MCP_INVALID_REQUEST")
            (lit "The request must be one JSON-RPC 2.0 object.") MCP_ERROR.INVALID_REQUEST
  | _ =>
      mcpFailed (lit "MCP_INVALID_REQUEST") (lit "The request must be one JSON-RPC 2.0 object.")
        MCP_ERROR.INVALID_REQUEST

/-- A header, decoded if it is an encoded word. -/
def decodeMirroredHeader (host : Host N) (value : Option Str) : Option Str :=
  value.map fun text =>
    let inner := (text.drop 9).take (text.length - 11)
    let isBase64 : CodeUnit → Bool := fun c =>
      isDigit c || (unit 'A' ≤ c && c ≤ unit 'Z') || (unit 'a' ≤ c && c ≤ unit 'z') ||
        decide (c ∈ lit "+/=")
    if text = lit "=?base64?" ++ inner ++ lit "?=" ∧ inner ≠ [] ∧ inner.all isBase64 = true then
      host.decodeBase64 inner
    else text

def requestProtocol (body : Value N) : Any N :=
  get (get (get (some body) "params") "_meta") "io.modelcontextprotocol/protocolVersion"

def mirrorMismatch {α : Type} (message : Str) : Except Thrown α :=
  mcpFailed (lit "MCP_HEADER_MISMATCH") message MCP_ERROR.HEADER_MISMATCH

/-- The headers of a modern message repeat its protocol, its method and its tool. -/
def validateMirrors (host : Host N) (request : Request N) (body : Value N)
    (method requested : Str) : Except Thrown Unit := do
  match (getHeader request (lit "mcp-protocol-version")).filter (· ≠ []),
      (decodeMirroredHeader host (getHeader request (lit "mcp-method"))).filter (· ≠ []) with
  | some headerProtocol, some methodHeader =>
      if headerProtocol ≠ requested ∨ methodHeader ≠ method then
        mirrorMismatch (lit "MCP routing headers do not match the JSON-RPC body.")
      else if method = lit "tools/call" then
        match (decodeMirroredHeader host (getHeader request (lit "mcp-name"))).filter (· ≠ []),
            get (get (some body) "params") "name" with
        | some nameHeader, some (.string name) =>
            if nameHeader ≠ name then
              mirrorMismatch (lit "Mcp-Name does not match params.name.")
            else .ok ()
        | _, _ => mirrorMismatch (lit "Mcp-Name does not match params.name.")
      else .ok ()
  | _, _ => mirrorMismatch (lit "Required MCP routing headers are missing.")

def validateModernMetadata (host : Host N) (request : Request N) (body : Value N)
    (method requested : Str) : Except Thrown Unit := do
  validateMirrors host request body method requested
  let clientInfo :=
    get (get (get (some body) "params") "_meta") "io.modelcontextprotocol/clientInfo"
  match get clientInfo "name", get clientInfo "version" with
  | some (.string _), some (.string _) =>
      match get (get (get (some body) "params") "_meta")
          "io.modelcontextprotocol/clientCapabilities" with
      | some (.object _) => .ok ()
      | _ =>
          mcpFailed (lit "MCP_MISSING_CLIENT_CAPABILITIES")
            (lit "Modern MCP requests require clientCapabilities in params._meta.")
            MCP_ERROR.MISSING_REQUIRED_CLIENT_CAPABILITY
  | _, _ =>
      mcpFailed (lit "MCP_INVALID_CLIENT_INFO")
        (lit "Modern MCP requests require clientInfo name and version in params._meta.")
        MCP_ERROR.INVALID_PARAMS

inductive Era where
  | legacy
  | modern
  deriving DecidableEq

section Messages

variable [Numbers N]

def classifyEra (host : Host N) (request : Request N) (body : Value N) (method : Str) :
    Except Thrown Era :=
  let protocolHeader := getHeader request (lit "mcp-protocol-version")
  if method = lit "initialize" then .ok .legacy
  else
    match (requestProtocol body).filter Value.truthy with
    | none =>
        if protocolHeader = some MCP_LEGACY_PROTOCOL_VERSION then .ok .legacy
        else throwChlom (lit "MCP_PROTOCOL_VERSION_REQUIRED")
          (lit "Non-initialize MCP requests require an explicit supported protocol version.") 400
          (.versions MCP_ERROR.UNSUPPORTED_PROTOCOL_VERSION MCP_SUPPORTED_PROTOCOL_VERSIONS
            (protocolHeader.filter (· ≠ [])))
    | some requested =>
        let unsupported : Except Thrown Era :=
          throwChlom (lit "MCP_UNSUPPORTED_PROTOCOL_VERSION")
            (lit "Unsupported MCP protocol version: " ++ requested.toText) 400
            (.versions MCP_ERROR.UNSUPPORTED_PROTOCOL_VERSION MCP_SUPPORTED_PROTOCOL_VERSIONS
              (some requested.toText))
        match requested with
        | .string version =>
            if version ∉ MCP_SUPPORTED_PROTOCOL_VERSIONS then unsupported
            else if version = MCP_LATEST_PROTOCOL_VERSION then do
              validateModernMetadata host request body method version
              return .modern
            else if ∃ header ∈ protocolHeader, header ≠ [] ∧ header ≠ version then
              mirrorMismatch (lit "MCP-Protocol-Version does not match the request body.")
            else .ok .legacy
        | _ => unsupported

def Details.mcp : Details → Option Int
  | .mcpCode code | .versions code _ _ => some code
  | _ => Option.none

/-- What an error of JSON-RPC carries beside its message. -/
inductive ErrorData where
  | chlomCode (code : Str)
  | versions (supported : List Str) (requested : Option Str)

def ChlomError.data (error : ChlomError) : ErrorData :=
  if error.code = lit "MCP_UNSUPPORTED_PROTOCOL_VERSION" ∨
      error.code = lit "MCP_PROTOCOL_VERSION_REQUIRED" then
    match error.details with
    | .versions _ supported requested => .versions supported requested
    | _ => .versions MCP_SUPPORTED_PROTOCOL_VERSIONS none
  else .chlomCode error.code

/-- What a message is answered with, beside the text. -/
inductive McpResult (N : Type) where
  | initialized (protocolVersion : Str)
  | discover
  | ping
  | toolsList
  | toolCall (output : ToolOutput N) (isError : Bool)

inductive McpPayload (N : Type) where
  | result (id : Value N) (result : McpResult N)
  | error (id : Value N) (code : Int) (message : Str) (data : Option ErrorData)

structure McpResponse (N : Type) where
  status : Nat
  payload : Option (McpPayload N)

def methodNotFound (id : Value N) : McpPayload N :=
  .error id MCP_ERROR.METHOD_NOT_FOUND (lit "Method not found.") none

/-- `body.id ?? null`. -/
def messageId (body : Value N) : Value N := (get (some body) "id").getD .null

def processMcpMessage (host : Host N) (network : Network N) (request : Request N)
    (body : Value N) : Handling N (McpResponse N) := do
  let method ← Dispatch.ofExcept (validateJsonRpc body)
  let era ← Dispatch.ofExcept (classifyEra host request body method)
  let id := messageId body
  if method = lit "initialize" then
    let selected := match get (get (some body) "params") "protocolVersion" with
      | some (.string requested) =>
          if requested ∈ MCP_SUPPORTED_PROTOCOL_VERSIONS then requested
          else MCP_LEGACY_PROTOCOL_VERSION
      | _ => MCP_LEGACY_PROTOCOL_VERSION
    return ⟨200, some (.result id (.initialized selected))⟩
  else if method = lit "notifications/initialized" then
    return ⟨202, none⟩
  else if method = lit "server/discover" then
    if era ≠ .modern then return ⟨404, some (methodNotFound id)⟩
    else return ⟨200, some (.result id .discover)⟩
  else if method = lit "ping" then
    return ⟨200, some (.result id .ping)⟩
  else if method = lit "tools/list" then
    return ⟨200, some (.result id .toolsList)⟩
  else if method = lit "tools/call" then do
    let (output, isError) ← handleToolCall host network body
    return ⟨200, some (.result id (.toolCall output isError))⟩
  else
    return ⟨if era = .modern then 404 else 200, some (methodNotFound id)⟩

def mcpErrorFromException (error : Thrown) (id : Value N) : McpResponse N :=
  let normalized := normalizeError error
  let code := normalized.details.mcp.getD <|
    if normalized.status = 401 ∨ normalized.status = 403 ∨ normalized.status = 503 then
      MCP_ERROR.AUTHORIZATION_FAILED
    else if normalized.status = 400 then MCP_ERROR.INVALID_PARAMS
    else MCP_ERROR.INTERNAL_ERROR
  ⟨normalized.status, some (.error id code normalized.message (some normalized.data))⟩

/-- The body of an authorised request. -/
def acceptMcp (host : Host N) (request : Request N) : Except Thrown (Value N) := do
  validateOrigin host request
  requireApiAuthorization host request
  readJsonBody host request

/-- `handler` of `api/mcp.js`. -/
def mcpHandler (host : Host N) (network : Network N) (request : Request N)
    (log : List (Outgoing N)) : List (Outgoing N) × McpResponse N :=
  if request.method ≠ lit "POST" then
    (log, ⟨405, some (.error .null (-32600) (lit "The MCP endpoint accepts POST only.") none)⟩)
  else
    match acceptMcp host request with
    | .error error => (log, mcpErrorFromException error .null)
    | .ok body =>
        Sends.answered (processMcpMessage host network request body)
          (fun
            | .ok response => response
            | .error error => mcpErrorFromException error (messageId body))
          log

/-! ## The endpoints of two tools -/

/-- What a request for analytics does once it is accepted. -/
def handleAnalytics (host : Host N) (network : Network N) (request : Request N) :
    Handling N (Evidence.Envelope N) := do
  let body ← Dispatch.ofExcept (acceptMcp host request)
  let input ← Dispatch.ofExcept (parseAnalyticsInput (some body))
  runBlockchainAnalytics host network input

/-- `handler` of `api/analytics.js`. -/
def analyticsHandler (host : Host N) (network : Network N) (request : Request N)
    (log : List (Outgoing N)) : List (Outgoing N) × RpcAnswer N :=
  if request.method ≠ lit "POST" then (log, .methodNotAllowed)
  else
    Sends.answered (handleAnalytics host network request)
      (fun
        | .ok envelope => .envelope envelope
        | .error error => .failed (normalizeError error))
      log

/-- `handler` of `api/attest.js`. -/
def attestHandler (host : Host N) (request : Request N) : Option (Except ChlomError AnchorIntent) :=
  if request.method ≠ lit "POST" then none
  else some <|
    match acceptMcp host request >>= fun body => parseAnchorInput (some body) with
    | .ok (evidenceDigest, targetChain) => .ok (prepareAnchorIntent host evidenceDigest targetChain)
    | .error error => .error (normalizeError error)

/-! ## The gateway -/

inductive Endpoint where
  | rpc
  | mcp
  | analytics
  | attest
  deriving DecidableEq

/-- A request to an endpoint, and what it meets there. -/
structure Incoming (N : Type) where
  endpoint : Endpoint
  host : Host N
  request : Request N

inductive Answer (N : Type) where
  | rpc (answer : RpcAnswer N)
  | mcp (response : McpResponse N)
  | attest (outcome : Option (Except ChlomError AnchorIntent))

/-- Take one request. -/
def serve (network : Network N) (log : List (Outgoing N)) (incoming : Incoming N) :
    List (Outgoing N) × Answer N :=
  match incoming.endpoint with
  | .rpc => (rpcHandler incoming.host network incoming.request log).map id .rpc
  | .mcp => (mcpHandler incoming.host network incoming.request log).map id .mcp
  | .analytics => (analyticsHandler incoming.host network incoming.request log).map id .rpc
  | .attest => (log, .attest (attestHandler incoming.host incoming.request))

end Messages

end Chlom.Gateway
