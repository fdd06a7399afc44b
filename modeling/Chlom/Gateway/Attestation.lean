import Chlom.Gateway.Egress

/-!
# What an envelope is evidence of

An envelope is answered only for a request that the gateway sent and that was answered well.
Of a call it names the chain, the method and the endpoint, digests the parameters and carries
the answer of the provider; of a query it names the chain and the template, digests what was
asked and carries the rows of a complete answer without errors.
-/

namespace Chlom.Gateway

open Js Results

variable {N : Type} [Numbers N]

/-- The envelope that an answer carries, from the RPC endpoint or from a tool. -/
def Answer.envelope : Answer N → Option (Evidence.Envelope N)
  | .rpc (.envelope envelope) => some envelope
  | .mcp ⟨_, some (.result _ (.toolCall (.envelope envelope) _))⟩ => some envelope
  | _ => none

/-- What an envelope says of a call: its source, the digest of the request, the answer and
whether it was a write. -/
structure Describes (host : Host N) (envelope : Evidence.Envelope N) (endpoint : Str)
    (rpc : RpcRequest N) (response : Value N) : Prop where
  request : ∃ definition ∈ CHAIN_REGISTRY, ∃ entry ∈ PROVIDER_PREFIXES,
    endpoint = trim (orEmpty (host.env (entry.2.1 ++ envChainSuffix definition.key))) ∧
    envelope.source = .object [(lit "kind", .string (lit "rpc")),
      (lit "provider", .string entry.1), (lit "chain", .string definition.key),
      (lit "operation", .string rpc.method),
      (lit "endpointFingerprint",
        .string (Evidence.sha256 host.platform (.string endpoint : Value N)))] ∧
    envelope.requestDigest = Evidence.sha256 host.platform (.object
      [(lit "chain", .string definition.key), (lit "method", .string rpc.method),
        (lit "params", .array rpc.params)])
  answer : get (some envelope.payload) "response" = some response
  write : envelope.authority.mode =
    if rpc.method ∈ GOVERNED_WRITE_RPC_METHODS then lit "governed_broadcast" else lit "read_only"

/-- What an envelope says of a query: its source, the digest of what was asked, and the rows that
were read off the answer, which was complete and without errors. -/
structure DescribesQuery (host : Host N) (envelope : Evidence.Envelope N) (job : Job)
    (answer : Value N) : Prop where
  request : ∃ definition ∈ CHAIN_REGISTRY, ∃ dataset limit lookbackDays,
    definition.analyticsDataset = some dataset ∧
    job.query = templateQuery job.template dataset ∧
    envelope.source = .object [(lit "kind", .string (lit "google_blockchain_analytics")),
      (lit "provider", .string (lit "google-bigquery-blockchain-analytics")),
      (lit "chain", .string definition.key), (lit "operation", .string job.template)] ∧
    envelope.requestDigest = Evidence.sha256 host.platform (.object
      [(lit "chain", .string definition.key), (lit "template", .string job.template),
        (lit "limit", .number (host.integer limit)),
        (lit "lookbackDays", .number (host.integer lookbackDays)),
        (lit "parameters", .array (job.parameters.map fun entry => .string entry.name))]) ∧
    get (some envelope.payload) "dataset" = some (.string dataset)
  complete : hasErrors (get (some answer) "errors") = false ∧
    get (some answer) "jobComplete" ≠ some (.boolean false)
  rows : ∃ rows, decodeRows (orElse (get (get (some answer) "schema") "fields") (.array []))
      (get (some answer) "rows") = .ok rows ∧
    get (some envelope.payload) "rows" = some (.array rows) ∧
    get (some envelope.payload) "rowCount" = some (.number (host.integer rows.length))
  read : envelope.authority.mode = lit "read_only"

/-- Somewhere in the log is the request that the envelope is evidence of. -/
inductive Attests (network : Network N) (host : Host N) (log : List (Outgoing N))
    (envelope : Evidence.Envelope N) : Prop
  | call (before after : List (Outgoing N)) (endpoint : Str) (rpc : RpcRequest N) (status : Nat)
      (text : Str) (response : Value N) (sent : log = before ++ .rpc endpoint rpc :: after)
      (answered : network (before ++ [.rpc endpoint rpc]) = .answered status (some text))
      (succeeded : Fetched.ok status = true) (parsed : host.parseJson text = some response)
      (described : Describes host envelope endpoint rpc response) :
      Attests network host log envelope
  | query (before after : List (Outgoing N)) (job : Job) (status : Nat) (text : Str)
      (answer : Value N) (sent : log = before ++ .bigquery job :: after)
      (answered : network (before ++ [.bigquery job]) = .answered status (some text))
      (succeeded : Fetched.ok status = true) (parsed : host.parseJson text = some answer)
      (described : DescribesQuery host envelope job answer) :
      Attests network host log envelope

/-- Nothing is taken out of a log. -/
theorem Attests.later {network : Network N} {host : Host N} {log : List (Outgoing N)}
    {envelope : Evidence.Envelope N} (attests : Attests network host log envelope)
    (more : List (Outgoing N)) : Attests network host (log ++ more) envelope := by
  cases attests with
  | call before after endpoint rpc status text response sent answered succeeded parsed described =>
      refine .call before (after ++ more) endpoint rpc status text response ?_ answered succeeded
        parsed described
      rw [sent, List.append_assoc, List.cons_append]
  | query before after job status text answer sent answered succeeded parsed described =>
      refine .query before (after ++ more) job status text answer ?_ answered succeeded parsed
        described
      rw [sent, List.append_assoc, List.cons_append]

/-! ## Calls -/

section Handlers

variable {network : Network N} {host : Host N} {request : Request N} {log : List (Outgoing N)}
  {envelope : Evidence.Envelope N}

end Handlers

/-- What a provider answers to the question for its chain. -/
def sampleResponse : Value SafeInteger :=
  .object [(lit "jsonrpc", .string (lit "2.0")), (lit "id", .string (lit "call-1")),
    (lit "result", .string (lit "0x2105"))]

/-- A gateway with a token and with one endpoint, for Base. -/
def sampleHost : Host SafeInteger where
  platform := Evidence.samplePlatform
  env name :=
    if name = lit "CHLOM_API_TOKEN" then some (lit "token")
    else if name = lit "QUICKNODE_RPC_BASE" then some (lit "https://base.test/")
    else none
  urlProtocol text := if (lit "https://").isPrefixOf text then some (lit "https:") else none
  number _ := none
  integer i := ⟨max (-2 ^ 53 + 1) (min i (2 ^ 53 - 1)), by omega⟩
  parseJson text := if text = stringify sampleResponse then some sampleResponse else none
  jsonErrorText _ := lit "Unexpected end of JSON input"
  decodeBase64 _ := []
  rpcId := lit "call-1"
  randomUUID := lit "00000000-0000-4000-8000-000000000000"
  now := 1789905600000
  googleAccessToken := .error (.other (lit "Could not load the default credentials."))

end Chlom.Gateway
