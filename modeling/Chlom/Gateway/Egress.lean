import Chlom.Gateway.Mcp
import Chlom.Library.Results

/-!
# What leaves the gateway

Whatever requests come in, in whatever environments and whatever the network answers, a
request leaves the gateway only for a caller with the token of the API.  It reads from a chain
through an endpoint configured for it, or it is a bounded query whose text no caller
wrote; the one method that writes leaves only through the RPC endpoint and with the authority
to write.
-/

namespace Chlom.Gateway

open Js Results

variable {N : Type}

/-! ## What is permitted -/

/-- The caller has the token of the API. -/
def Authorised (host : Host N) (request : Request N) : Prop :=
  ∃ token, host.set (lit "CHLOM_API_TOKEN") = some token ∧ suppliedToken request ≠ [] ∧
    utf8 (suppliedToken request) = utf8 token

/-- The policy lets transactions out and the caller has the digest for it. -/
def WriteAuthority (host : Host N) (request : Request N) : Prop :=
  host.env (lit "CHLOM_CHAIN_WRITE_ENABLED") = some (lit "true") ∧
    host.env (lit "CHLOM_GOVERNANCE_STATE") = some (lit "promoted") ∧
    ∃ digest, host.set (lit "CHLOM_ECAC_DIGEST") = some digest ∧
      utf8 digest = utf8 (orEmpty (getHeader request (lit "x-chlom-ecac-digest")))

/-- The endpoint is the one that the environment configures for the chain with a provider. -/
structure Configured (host : Host N) (chain endpoint : Str) : Prop where
  provider : ∃ entry ∈ PROVIDER_PREFIXES,
    endpoint = trim (orEmpty (host.env (entry.2.1 ++ envChainSuffix chain)))
  secure : host.urlProtocol endpoint = some (lit "https:")

/-- A call to a provider as the gateway lets it out. -/
structure Governed [Numbers N] (host : Host N) (endpoint : Str) (rpc : RpcRequest N) : Prop where
  chain : ∃ definition ∈ CHAIN_REGISTRY, definition.evm = true ∧
    Configured host definition.key endpoint
  few : rpc.params.length ≤ 64
  small : paramsBytes rpc.params ≤ MAX_RPC_PARAMS_BYTES

/-- A value that a caller can put into a query: a hexadecimal number of at most 132 characters,
a limit of rows or the start of a window of days. -/
def Bounded (now : Int) (parameter : Parameter) : Prop :=
  (isHexNumber parameter.value = true ∧ (∀ c ∈ parameter.value, ¬ (unit 'A' ≤ c ∧ c ≤ unit 'Z')) ∧
    3 ≤ parameter.value.length ∧ parameter.value.length ≤ 132) ∨
  (∃ rows, 1 ≤ rows ∧ rows ≤ MAX_ANALYTICS_ROWS ∧ parameter.value = intText rows) ∨
  ∃ days, 1 ≤ days ∧ days ≤ MAX_ANALYTICS_LOOKBACK_DAYS ∧
    parameter.value = isoText (now - days * 86400000)

/-- The text of a template over a dataset. -/
def templateQuery (template dataset : Str) : Str :=
  if template = lit "latest_block" then latestBlockQuery dataset
  else if template = lit "transaction_evidence" then transactionEvidenceQuery dataset
  else if template = lit "address_activity" then addressActivityQuery dataset
  else contractLogsQuery dataset

/-- A query as the gateway lets it out: the text of one of four templates over a registered
dataset. -/
structure Fixed (host : Host N) (job : Job) : Prop where
  template : job.template ∈ TEMPLATES
  query : ∃ definition ∈ CHAIN_REGISTRY, ∃ dataset, definition.analyticsDataset = some dataset ∧
    job.query = templateQuery job.template dataset
  parameters : ∀ parameter ∈ job.parameters, Bounded host.now parameter
  billed : job.maximumBytesBilled.all isDigit = true

/-- What may leave the gateway for a request. -/
inductive Permitted [Numbers N] (incoming : Incoming N) : Outgoing N → Prop
  | read (endpoint : Str) (rpc : RpcRequest N)
      (authorised : Authorised incoming.host incoming.request)
      (source : incoming.endpoint = .rpc ∨ incoming.endpoint = .mcp)
      (governed : Governed incoming.host endpoint rpc)
      (reads : rpc.method ∈ READ_ONLY_RPC_METHODS) :
      Permitted incoming (.rpc endpoint rpc)
  | write (endpoint : Str) (rpc : RpcRequest N)
      (authorised : Authorised incoming.host incoming.request)
      (source : incoming.endpoint = .rpc)
      (governed : Governed incoming.host endpoint rpc)
      (writes : rpc.method ∈ GOVERNED_WRITE_RPC_METHODS)
      (authority : WriteAuthority incoming.host incoming.request) :
      Permitted incoming (.rpc endpoint rpc)
  | query (job : Job) (authorised : Authorised incoming.host incoming.request)
      (source : incoming.endpoint = .mcp ∨ incoming.endpoint = .analytics)
      (fixed : Fixed incoming.host job) :
      Permitted incoming (.bigquery job)

/-! ## The perimeter -/

theorem authorised_of_ok {host : Host N} {request : Request N}
    (done : requireApiAuthorization host request = .ok ()) : Authorised host request := by
  unfold requireApiAuthorization at done
  obtain ⟨_, _, done⟩ := bind_eq_ok.mp done
  split at done
  · cases done
  · rename_i token configured
    dsimp only at done
    split at done
    · cases done
    · rename_i accepted
      push Not at accepted
      have equal : constantTimeEqual (suppliedToken request) token = true := by
        simpa using accepted.2
      exact ⟨token, configured, accepted.1, of_decide_eq_true equal⟩

theorem writeAuthority_of_ok {host : Host N} {request : Request N}
    (done : assertWriteAuthority host request = .ok ()) : WriteAuthority host request := by
  unfold assertWriteAuthority at done
  split at done
  · cases done
  · rename_i enabled
    split at done
    · cases done
    · rename_i promoted
      dsimp only at done
      split at done
      · rename_i digest configured
        split at done
        · cases done
        · rename_i accepted
          push Not at accepted
          have equal : constantTimeEqual digest
              (orEmpty (getHeader request (lit "x-chlom-ecac-digest"))) = true := by
            simpa using accepted.2
          exact ⟨not_not.mp enabled, not_not.mp promoted, digest, configured,
            of_decide_eq_true equal⟩
      · cases done

theorem classify_read {method : Str} (classified : classifyRpcMethod method = .ok .read) :
    method ∈ READ_ONLY_RPC_METHODS := by
  unfold classifyRpcMethod at classified
  split at classified
  · cases classified
  · split at classified
    · assumption
    · split at classified <;> cases classified

theorem classify_write {method : Str} (classified : classifyRpcMethod method = .ok .write) :
    method ∈ GOVERNED_WRITE_RPC_METHODS := by
  unfold classifyRpcMethod at classified
  split at classified
  · cases classified
  · split at classified
    · cases classified
    · split at classified
      · assumption
      · cases classified

/-! ## Calls of providers -/

/-- The provider of a chain is one whose variable for the chain holds an https endpoint. -/
theorem resolveFrom_ok {host : Host N} {chain : Str} {providers : List (Str × Str × Bool)}
    {provider : RpcProvider} (resolved : resolveFrom host chain providers = .ok provider) :
    (∃ entry ∈ providers, provider.name = entry.1 ∧
      provider.endpoint = trim (orEmpty (host.env (entry.2.1 ++ envChainSuffix chain)))) ∧
    host.urlProtocol provider.endpoint = some (lit "https:") := by
  induction providers with
  | nil => cases resolved
  | cons entry rest ih =>
      rw [resolveFrom] at resolved
      split at resolved
      · obtain ⟨⟨later, member, named⟩, secure⟩ := ih resolved
        exact ⟨⟨later, List.mem_cons_of_mem _ member, named⟩, secure⟩
      · rename_i c text configured
        dsimp only at resolved
        split at resolved
        · cases resolved
        · rename_i protocol parsed
          split at resolved
          · cases resolved
          · rename_i https
            obtain rfl := Except.ok.inj resolved
            refine ⟨⟨entry, List.mem_cons_self, rfl, configured.symm⟩, ?_⟩
            rw [parsed, not_not.mp https]

section Calls

variable [Numbers N]

/-- Everything that was checked of a call that passed the checks. -/
structure Passed (host : Host N) (input : RpcInput N) (writeAuthorized : Bool)
    (definition : ChainDefinition) (mode : Mode) (provider : RpcProvider) : Prop where
  registered : chainDefinition input.chain = some definition
  evm : definition.evm = true
  small : paramsBytes input.params ≤ MAX_RPC_PARAMS_BYTES
  classified : classifyRpcMethod input.method = .ok mode
  authorised : mode = .write → writeAuthorized = true
  resolved : resolveRpcProvider host input.chain = .ok provider

theorem passed_of_ok {host : Host N} {input : RpcInput N} {writeAuthorized : Bool}
    {checked : ChainDefinition × Mode × RpcProvider}
    (done : governed host input writeAuthorized = .ok checked) :
    Passed host input writeAuthorized checked.1 checked.2.1 checked.2.2 := by
  unfold governed at done
  split at done
  · cases done
  · rename_i definition registered
    split at done
    · cases done
    · rename_i evm
      split at done
      · cases done
      · rename_i small
        obtain ⟨mode, classified, done⟩ := bind_eq_ok.mp done
        split at done
        · cases done
        · rename_i authorised
          obtain ⟨provider, resolved, done⟩ := bind_eq_ok.mp done
          obtain rfl := Except.ok.inj done
          refine ⟨registered, by simpa using evm, by omega, classified, ?_, resolved⟩
          intro writes
          by_contra unauthorised
          exact authorised ⟨writes, by simpa using unauthorised⟩

theorem governed_of_passed {host : Host N} {input : RpcInput N} {writeAuthorized : Bool}
    {definition : ChainDefinition} {mode : Mode} {provider : RpcProvider}
    (passed : Passed host input writeAuthorized definition mode provider) :
    Governed host provider.endpoint (rpcRequest host input) := by
  have registered := passed.registered
  have key : definition.key = input.chain := by
    simpa using List.find?_some registered
  obtain ⟨⟨entry, member, _, configured⟩, secure⟩ := resolveFrom_ok passed.resolved
  refine ⟨⟨definition, List.mem_of_find?_eq_some registered, passed.evm, ?_⟩, input.few,
    passed.small⟩
  rw [key]
  exact ⟨⟨entry, member, configured⟩, secure⟩

/-- A governed call sends at most its own request, and that one after the checks. -/
theorem sends_callGovernedRpc {host : Host N} {network : Network N} {input : RpcInput N}
    {writeAuthorized : Bool} {P : Outgoing N → Prop}
    (permitted : ∀ definition mode provider,
      Passed host input writeAuthorized definition mode provider →
        P (.rpc provider.endpoint (rpcRequest host input))) :
    Sends.AtMostOne P (callGovernedRpc host network input writeAuthorized) :=
  .guarded fun checked done =>
    (Sends.AtMostOne.send (permitted checked.1 checked.2.1 checked.2.2
      (passed_of_ok done))).followed fun _ => .ofExcept

end Calls

/-! ## Queries -/

theorem notUpper_lowerCase (s : Str) : ∀ c ∈ lowerCase s, ¬ (unit 'A' ≤ c ∧ c ≤ unit 'Z') := by
  intro c member
  obtain ⟨before, _, rfl⟩ := List.mem_map.mp member
  split
  · rename_i upper
    have low : 65 ≤ before.val := Fin.le_def.mp upper.1
    have high : before.val ≤ 90 := Fin.le_def.mp upper.2
    have code : (Fin.ofNat 0x10000 (before.val + 32) : CodeUnit).val = before.val + 32 :=
      Nat.mod_eq_of_lt (by omega)
    rintro ⟨_, below⟩
    have bound : (Fin.ofNat 0x10000 (before.val + 32) : CodeUnit).val ≤ 90 := Fin.le_def.mp below
    omega
  · assumption

theorem isHex_lowerCase {c : CodeUnit} (hex : isHex c = true) :
    isHex (if unit 'A' ≤ c ∧ c ≤ unit 'Z' then Fin.ofNat 0x10000 (c.val + 32) else c) = true := by
  split
  · rename_i upper
    have low : 65 ≤ c.val := Fin.le_def.mp upper.1
    have high : c.val ≤ 90 := Fin.le_def.mp upper.2
    have code : (Fin.ofNat 0x10000 (c.val + 32) : CodeUnit).val = c.val + 32 :=
      Nat.mod_eq_of_lt (by omega)
    simp only [isHex, isDigit, Bool.or_eq_true, Bool.and_eq_true, decide_eq_true_eq, code] at hex ⊢
    omega
  · exact hex

theorem isHexNumber_lowerCase {s : Str} (hex : isHexNumber s = true) :
    isHexNumber (lowerCase s) = true := by
  simp only [isHexNumber, Bool.and_eq_true, decide_eq_true_eq, List.all_eq_true] at hex ⊢
  obtain ⟨⟨start, long⟩, digits⟩ := hex
  obtain ⟨rest, rfl⟩ := List.isPrefixOf_iff_prefix.mp start
  refine ⟨⟨?_, ?_⟩, ?_⟩
  · rw [lowerCase, List.map_append, List.isPrefixOf_iff_prefix]
    exact List.prefix_append (lit "0x") _
  · rw [lowerCase, List.length_map]
    exact long
  · intro c member
    rw [lowerCase, ← List.map_drop] at member
    obtain ⟨before, there, rfl⟩ := List.mem_map.mp member
    exact isHex_lowerCase (digits before there)

theorem bounded_of_requireHex {now : Int} {value : Option (Sized 3 132)}
    {field text name type : Str} (done : requireHex value field = .ok text) :
    Bounded now ⟨name, type, text⟩ := by
  unfold requireHex at done
  split at done
  · split at done
    · rename_i sized hex
      obtain rfl := Except.ok.inj done
      have length : (lowerCase sized.val).length = sized.val.length := List.length_map _
      refine .inl ⟨isHexNumber_lowerCase hex, notUpper_lowerCase _, ?_⟩
      rw [length]
      exact sized.property
    · cases done
  · cases done

/-- What is posted for a prepared query. -/
structure Prepared (now : Int) (prepared : PreparedQuery) : Prop where
  template : prepared.template ∈ TEMPLATES
  dataset : ∃ definition ∈ CHAIN_REGISTRY, definition.key = prepared.chain ∧
    definition.analyticsDataset = some prepared.dataset
  query : prepared.query = templateQuery prepared.template prepared.dataset
  parameters : ∀ parameter ∈ prepared.parameters, Bounded now parameter

theorem bounded_limit {now : Int} {name type : Str} (limit : Within 1 MAX_ANALYTICS_ROWS) :
    Bounded now ⟨name, type, intText limit.val⟩ :=
  .inr (.inl ⟨limit.val, limit.property.1, limit.property.2, rfl⟩)

theorem bounded_start {now : Int} {name type : Str}
    (days : Within 1 MAX_ANALYTICS_LOOKBACK_DAYS) :
    Bounded now ⟨name, type, isoText (now - days.val * 86400000)⟩ :=
  .inr (.inr ⟨days.val, days.property.1, days.property.2, rfl⟩)

theorem prepared_of_ok {now : Int} {input : AnalyticsInput} {prepared : PreparedQuery}
    (done : prepareAnalyticsQuery now input = .ok prepared) : Prepared now prepared := by
  unfold prepareAnalyticsQuery at done
  split at done
  · cases done
  · rename_i definition registered
    have member := List.mem_of_find?_eq_some registered
    have key : definition.key = input.chain := by
      simpa using List.find?_some registered
    split at done
    · cases done
    · rename_i dataset has
      dsimp only at done
      split at done
      · rename_i latest
        obtain rfl := Except.ok.inj done
        exact ⟨input.template.property, ⟨definition, member, key, has⟩, (if_pos latest).symm,
          List.forall_mem_singleton.mpr (bounded_start input.lookbackDays)⟩
      · rename_i other
        split at done
        · rename_i evidence
          obtain ⟨hash, hashed, done⟩ := bind_eq_ok.mp done
          obtain rfl := Except.ok.inj done
          refine ⟨input.template.property, ⟨definition, member, key, has⟩, ?_, ?_⟩
          · rw [templateQuery, if_neg other, if_pos evidence]
          · exact List.forall_mem_cons.mpr ⟨bounded_of_requireHex hashed,
              List.forall_mem_singleton.mpr (bounded_start input.lookbackDays)⟩
        · rename_i another
          rw [if_neg (not_or.mpr ⟨other, another⟩)] at done
          obtain ⟨address, addressed, done⟩ := bind_eq_ok.mp done
          have parameters : ∀ parameter ∈ [⟨lit "limit", lit "INT64", intText input.limit.val⟩,
              ⟨lit "address", lit "STRING", address⟩, (⟨lit "start_timestamp", lit "TIMESTAMP",
                isoText (now - input.lookbackDays.val * 86400000)⟩ : Parameter)],
              Bounded now parameter :=
            List.forall_mem_cons.mpr ⟨bounded_limit input.limit, List.forall_mem_cons.mpr
              ⟨bounded_of_requireHex addressed,
                List.forall_mem_singleton.mpr (bounded_start input.lookbackDays)⟩⟩
          split at done
          · rename_i activity
            obtain rfl := Except.ok.inj done
            refine ⟨input.template.property, ⟨definition, member, key, has⟩, ?_, parameters⟩
            rw [templateQuery, if_neg other, if_neg another, if_pos activity]
          · rename_i remaining
            split at done
            · obtain rfl := Except.ok.inj done
              refine ⟨input.template.property, ⟨definition, member, key, has⟩, ?_, parameters⟩
              rw [templateQuery, if_neg other, if_neg another, if_neg remaining]
            · cases done

/-- The query is posted as it was prepared. -/
theorem analyticsJob_ok {host : Host N} {input : AnalyticsInput} {prepared : PreparedQuery}
    {job : Job} (done : analyticsJob host input = .ok (prepared, job)) :
    prepareAnalyticsQuery host.now input = .ok prepared ∧ job.query = prepared.query ∧
      job.parameters = prepared.parameters ∧ job.template = prepared.template ∧
      job.maximumBytesBilled = maximumBytesBilled host := by
  unfold analyticsJob at done
  obtain ⟨ready, preparedOk, done⟩ := bind_eq_ok.mp done
  split at done
  · cases done
  · obtain ⟨token, _, done⟩ := bind_eq_ok.mp done
    cases done
    exact ⟨preparedOk, rfl, rfl, rfl, rfl⟩

theorem fixed_of_ok {host : Host N} {input : AnalyticsInput} {prepared : PreparedQuery} {job : Job}
    (done : analyticsJob host input = .ok (prepared, job)) : Fixed host job := by
  obtain ⟨preparedOk, query, parameters, template, billed⟩ := analyticsJob_ok done
  have ready := prepared_of_ok preparedOk
  obtain ⟨definition, member, _, registered⟩ := ready.dataset
  refine ⟨template ▸ ready.template, ⟨definition, member, _, registered, ?_⟩,
    parameters ▸ ready.parameters, ?_⟩
  · rw [query, template, ready.query]
  · rw [billed]
    unfold maximumBytesBilled
    dsimp only
    split
    · assumption
    · decide

theorem sends_runBlockchainAnalytics [Numbers N] {host : Host N} {network : Network N}
    {input : AnalyticsInput} {P : Outgoing N → Prop}
    (permitted : ∀ job, Fixed host job → P (.bigquery job)) :
    Sends.AtMostOne P (runBlockchainAnalytics host network input) :=
  .guarded fun posted done =>
    (Sends.AtMostOne.send (permitted posted.2 (fixed_of_ok done))).followed fun _ => .ofExcept

/-! ## Acceptance -/

theorem acceptMcp_authorised {host : Host N} {request : Request N} {body : Value N}
    (accepted : acceptMcp host request = .ok body) : Authorised host request := by
  obtain ⟨_, _, accepted⟩ := bind_eq_ok.mp accepted
  obtain ⟨_, authorised, _⟩ := bind_eq_ok.mp accepted
  exact authorised_of_ok authorised

/-- A request with a method that writes is accepted only with the authority to write. -/
theorem acceptRpc_ok {host : Host N} {request : Request N} {input : RpcInput N} {mode : Mode}
    (accepted : acceptRpc host request = .ok (input, mode)) :
    Authorised host request ∧ classifyRpcMethod input.method = .ok mode ∧
      (mode = .write → WriteAuthority host request) := by
  obtain ⟨_, _, accepted⟩ := bind_eq_ok.mp accepted
  obtain ⟨_, authorised, accepted⟩ := bind_eq_ok.mp accepted
  obtain ⟨body, _, accepted⟩ := bind_eq_ok.mp accepted
  obtain ⟨parsed, _, accepted⟩ := bind_eq_ok.mp accepted
  obtain ⟨classified, classifiedOk, accepted⟩ := bind_eq_ok.mp accepted
  refine ⟨authorised_of_ok authorised, ?_⟩
  split at accepted
  · obtain ⟨_, authority, accepted⟩ := bind_eq_ok.mp accepted
    obtain ⟨rfl, rfl⟩ := Prod.mk.inj (Except.ok.inj accepted)
    exact ⟨classifiedOk, fun _ => writeAuthority_of_ok authority⟩
  · rename_i reads
    obtain ⟨rfl, rfl⟩ := Prod.mk.inj (Except.ok.inj accepted)
    exact ⟨classifiedOk, fun writes => absurd writes reads⟩

/-! ## Tools -/

variable [Numbers N]

/-- What a tool may send: a governed call that reads, or a fixed query. -/
structure ToolRequests (host : Host N) (P : Outgoing N → Prop) : Prop where
  read : ∀ endpoint rpc, Governed host endpoint rpc → rpc.method ∈ READ_ONLY_RPC_METHODS →
    P (.rpc endpoint rpc)
  query : ∀ job, Fixed host job → P (.bigquery job)

/-- Without the authority to write a governed call reads. -/
theorem ToolRequests.sends_call {host : Host N} {P : Outgoing N → Prop}
    (requests : ToolRequests host P) (network : Network N) (input : RpcInput N) :
    Sends.AtMostOne P (callGovernedRpc host network input false) := by
  apply sends_callGovernedRpc
  intro definition mode provider passed
  apply requests.read _ _ (governed_of_passed passed)
  have classified := passed.classified
  cases mode with
  | read => exact classify_read classified
  | write => cases passed.authorised rfl

theorem sends_executeTool {host : Host N} {P : Outgoing N → Prop}
    (requests : ToolRequests host P) (network : Network N) (name : Str) (rawArguments : Any N) :
    Sends.AtMostOne P (executeTool host network name rawArguments) := by
  refine .guarded fun args _ => ?_
  split
  · exact Sends.Silent.pure.atMostOne
  · split
    · exact .guarded fun input _ => (requests.sends_call network input).map
    · split
      · exact .guarded fun input _ => (requests.sends_call network input).map
      · split
        · exact .guarded fun input _ =>
            (sends_runBlockchainAnalytics requests.query).map
        · split
          · exact .guarded fun input _ => Sends.Silent.pure.atMostOne
          · exact Sends.Silent.ofExcept.atMostOne

theorem sends_handleToolCall {host : Host N} {P : Outgoing N → Prop}
    (requests : ToolRequests host P) (network : Network N) (body : Value N) :
    Sends.AtMostOne P (handleToolCall host network body) :=
  .guarded fun name _ =>
    (sends_executeTool requests network name _).attempt.followed fun _ => .ofExcept

theorem sends_processMcpMessage {host : Host N} {P : Outgoing N → Prop}
    (requests : ToolRequests host P) (network : Network N) (request : Request N)
    (body : Value N) : Sends.AtMostOne P (processMcpMessage host network request body) := by
  refine .guarded fun method _ => .guarded fun era _ => ?_
  dsimp only
  split
  · exact Sends.Silent.pure.atMostOne
  · split
    · exact Sends.Silent.pure.atMostOne
    · split
      · split <;> exact Sends.Silent.pure.atMostOne
      · split
        · exact Sends.Silent.pure.atMostOne
        · split
          · exact Sends.Silent.pure.atMostOne
          · split
            · exact (sends_handleToolCall requests network body).followed fun _ => .pure
            · exact Sends.Silent.pure.atMostOne

/-! ## Endpoints -/

/-- The requests of tools are permitted to a caller with the token. -/
theorem toolRequests_permitted {host : Host N} {request : Request N}
    (authorised : Authorised host request) :
    ToolRequests host (Permitted ⟨.mcp, host, request⟩) where
  read endpoint rpc governed reads := .read endpoint rpc authorised (.inr rfl) governed reads
  query job fixed := .query job authorised (.inl rfl) fixed

section Handlers

variable (network : Network N) (host : Host N) (request : Request N) (log : List (Outgoing N))

theorem rpcHandler_permitted :
    (rpcHandler host network request log).1 = log ∨ ∃ outgoing,
      Permitted ⟨.rpc, host, request⟩ outgoing ∧
      (rpcHandler host network request log).1 = log ++ [outgoing] := by
  unfold rpcHandler
  split
  · exact .inl rfl
  · refine Sends.AtMostOne.guarded (fun accepted done => ?_) log
    obtain ⟨authorised, classified, authority⟩ := acceptRpc_ok done
    apply sends_callGovernedRpc
    intro definition mode provider passed
    have governed := governed_of_passed passed
    have same : mode = accepted.2 := Except.ok.inj (passed.classified.symm.trans classified)
    cases writes : accepted.2 with
    | read =>
        rw [writes] at classified
        exact .read _ _ authorised (.inl rfl) governed (classify_read classified)
    | write =>
        rw [writes] at classified
        exact .write _ _ authorised rfl governed (classify_write classified) (authority writes)

theorem mcpHandler_permitted :
    (mcpHandler host network request log).1 = log ∨ ∃ outgoing,
      Permitted ⟨.mcp, host, request⟩ outgoing ∧
      (mcpHandler host network request log).1 = log ++ [outgoing] := by
  unfold mcpHandler
  split
  · exact .inl rfl
  · split
    · exact .inl rfl
    · rename_i body accepted
      have requests := toolRequests_permitted (acceptMcp_authorised accepted)
      exact sends_processMcpMessage requests network request body log

theorem analyticsHandler_permitted :
    (analyticsHandler host network request log).1 = log ∨ ∃ outgoing,
      Permitted ⟨.analytics, host, request⟩ outgoing ∧
      (analyticsHandler host network request log).1 = log ++ [outgoing] := by
  unfold analyticsHandler
  split
  · exact .inl rfl
  · refine Sends.AtMostOne.guarded (fun body accepted => .guarded fun input _ => ?_) log
    apply sends_runBlockchainAnalytics
    exact fun job fixed => .query job (acceptMcp_authorised accepted) (.inr rfl) fixed

end Handlers

/-- One request to the gateway sends at most one request, and that one is permitted. -/
theorem serve_permitted (network : Network N) (log : List (Outgoing N)) (incoming : Incoming N) :
    (serve network log incoming).1 = log ∨ ∃ outgoing, Permitted incoming outgoing ∧
      (serve network log incoming).1 = log ++ [outgoing] := by
  obtain ⟨endpoint, host, request⟩ := incoming
  cases endpoint with
  | rpc => exact rpcHandler_permitted network host request log
  | mcp => exact mcpHandler_permitted network host request log
  | analytics => exact analyticsHandler_permitted network host request log
  | attest => exact .inl rfl

/-- Over every run of the gateway, whatever the network answers, each request that was sent was
permitted for one of the requests that came in, and there are no more of them than of these. -/
theorem egress_permitted (network : Network N) (incomings : List (Incoming N)) :
    (∀ outgoing ∈ Runs.run (serve network) [] incomings,
      ∃ incoming ∈ incomings, Permitted incoming outgoing) ∧
    (Runs.run (serve network) [] incomings).length ≤ incomings.length :=
  ⟨Sends.forall_mem_run (serve_permitted network) incomings,
    Sends.length_run_le (serve_permitted network) incomings⟩

end Chlom.Gateway
