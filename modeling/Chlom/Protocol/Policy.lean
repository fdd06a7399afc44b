import Chlom.Evidence.Canonicalize
import Chlom.Protocol.Versions

/-!
# Policies

A policy requires evidence of some kinds or denies.  An evaluation collects all policies
of the scope of a request that are active and says which evidence each of them misses.
-/

namespace Chlom.Protocol

open Js Results Evidence

variable {N : Type} [Numbers N]

/-! ## Policies and evidence -/

/-- Evidence of a kind by an issuer, with the value that the requirement was read from. -/
structure Requirement (N : Type) where
  kind : Str
  issuer : Str
  source : Value N

inductive Effect where
  | requirements
  | deny
  deriving DecidableEq

def Effect.text : Effect → Str
  | .requirements => lit "requirements"
  | .deny => lit "deny"

def readEffect (value : Any N) : Except Thrown Effect :=
  match value with
  | some (.string s) =>
      if s = lit "requirements" then .ok .requirements
      else if s = lit "deny" then .ok .deny
      else invalid
  | _ => invalid

/-- A checked policy, with the value that it was read from. -/
structure Policy (N : Type) [Numbers N] extends Configured N where
  effect : Effect
  requiredEvidence : List (Requirement N)
  approvalReference : Str
  sourceReference : Str
  source : Value N

/-- A checked record of evidence. -/
structure EvidenceRecord where
  id : Str
  tenantId : Str
  subjectId : Str
  kind : Str
  issuer : Str
  digest : Str
  verification : Window
  revoked : Bool

def validateRequirement (requirement : Value N) : Except Thrown (Requirement N) := do
  let entries ← object (some requirement) ["kind", "issuer"] ["kind", "issuer"]
  let kind ← label (property entries "kind") false
  let issuer ← label (property entries "issuer") false
  return { kind, issuer, source := requirement }

/-- `JSON.stringify([requirement.kind, requirement.issuer])`. -/
def Requirement.key (requirement : Requirement N) : Str :=
  stringify (.array [.string requirement.kind, .string requirement.issuer] : Value N)

def validatePolicy (policy : Value N) : Except Thrown (Policy N) := do
  let entries ← object (some policy)
    ["id", "version", "effectiveAt", "expiresAt", "scope", "effect", "requiredEvidence",
      "approvalReference", "sourceReference"]
    ["id", "version", "effectiveAt", "expiresAt", "scope", "effect", "requiredEvidence",
      "approvalReference", "sourceReference"]
  let version ← versioned entries
  let scope ← scope (property entries "scope")
  let approvalReference ← label (property entries "approvalReference") false
  let sourceReference ← label (property entries "sourceReference") false
  let effect ← readEffect (property entries "effect")
  let requirements ← list (property entries "requiredEvidence") 30 0
  let requiredEvidence ← readUnique validateRequirement Requirement.key UNSUPPORTED requirements
  return {
    toVersioned := version, scope, effect, requiredEvidence, approvalReference, sourceReference,
    source := policy }

def readBoolean (value : Any N) : Except Thrown Bool :=
  match value with
  | some (.boolean b) => .ok b
  | _ => invalid

def validateEvidence (evidence : Value N) : Except Thrown EvidenceRecord := do
  let entries ← object (some evidence)
    ["id", "tenantId", "subjectId", "kind", "issuer", "digest", "verifiedAt", "expiresAt", "revoked"]
    ["id", "tenantId", "subjectId", "kind", "issuer", "digest", "verifiedAt", "expiresAt", "revoked"]
  let id ← label (property entries "id") false
  let tenantId ← label (property entries "tenantId") false
  let subjectId ← label (property entries "subjectId") false
  let kind ← label (property entries "kind") false
  let issuer ← label (property entries "issuer") false
  let digest ← digest (property entries "digest")
  let verification ← windowBetween (property entries "verifiedAt") (property entries "expiresAt")
    UNSUPPORTED
  let revoked ← readBoolean (property entries "revoked")
  return { id, tenantId, subjectId, kind, issuer, digest, verification, revoked }

/-! ## The registry -/

/-- A checked registry: its versions do not overlap. -/
structure PolicyRegistry (N : Type) [Numbers N] where
  policies : List (Policy N)
  evidence : List EvidenceRecord
  source : Value N
  versions : uniqueVersions (policies.map Policy.toConfigured) = .ok ()

variable (N) in
/-- `JSON.stringify([evidence.tenantId, evidence.id])`. -/
def EvidenceRecord.key (evidence : EvidenceRecord) : Str :=
  stringify (.array [.string evidence.tenantId, .string evidence.id] : Value N)

def validatePolicyRegistry (registry : Value N) : Except Thrown (PolicyRegistry N) := do
  let entries ← object (some registry) ["schema", "policies", "evidence"]
    ["schema", "policies", "evidence"]
  match property entries "schema" with
  | some (.string schema) =>
      if schema = lit "ct.chlom.protocol.policy-registry.v1" then
        let policyValues ← list (property entries "policies") 100 0
        let policies ← policyValues.mapM validatePolicy
        match versions : uniqueVersions (policies.map Policy.toConfigured) with
        | .error thrown => .error thrown
        | .ok () =>
            let evidenceValues ← list (property entries "evidence") 300 0
            let evidence ← readUnique validateEvidence (EvidenceRecord.key N) UNSUPPORTED
              evidenceValues
            return { policies, evidence, source := registry, versions }
      else invalid
  | _ => invalid

/-- How a registry was read from the properties of an object. -/
structure PolicyRegistry.ReadFrom (registry : PolicyRegistry N) (entries : Entries N)
    (policies evidence : List (Value N)) : Prop where
  shape : object (some (.object entries)) ["schema", "policies", "evidence"]
    ["schema", "policies", "evidence"] = .ok entries
  schema : property entries "schema" = some (.string (lit "ct.chlom.protocol.policy-registry.v1"))
  policyValues : list (property entries "policies") 100 0 = .ok policies
  policies : policies.mapM validatePolicy = .ok registry.policies
  evidenceValues : list (property entries "evidence") 300 0 = .ok evidence
  evidence : readUnique validateEvidence (EvidenceRecord.key N) UNSUPPORTED evidence =
    .ok registry.evidence
  source : registry.source = .object entries

theorem validatePolicyRegistry_eq_ok {value : Value N} {registry : PolicyRegistry N} :
    validatePolicyRegistry value = .ok registry ↔ ∃ entries policies evidence,
      value = .object entries ∧ registry.ReadFrom entries policies evidence := by
  constructor
  · intro ran
    obtain ⟨entries, shape, rest⟩ := bind_eq_ok.mp ran
    obtain ⟨same, _⟩ := object_eq_ok.mp shape
    cases same
    split at rest
    · rename_i schema found
      split_ifs at rest with known
      · subst known
        obtain ⟨policyValues, policyList, rest⟩ := bind_eq_ok.mp rest
        obtain ⟨policies, policiesRead, rest⟩ := bind_eq_ok.mp rest
        split at rest
        · cases rest
        · obtain ⟨evidenceValues, evidenceList, rest⟩ := bind_eq_ok.mp rest
          obtain ⟨evidence, evidenceRead, rest⟩ := bind_eq_ok.mp rest
          cases rest
          exact ⟨entries, policyValues, evidenceValues, rfl, shape, found, policyList, policiesRead,
            evidenceList, evidenceRead, rfl⟩
      · cases rest
    · cases rest
  · rintro ⟨entries, policyValues, evidenceValues, rfl, read⟩
    obtain ⟨policies, evidence, source, versions⟩ := registry
    obtain ⟨shape, schema, policyList, policiesRead, evidenceList, evidenceRead, rfl⟩ := read
    refine bind_eq_ok.mpr ⟨entries, shape, ?_⟩
    rw [schema]
    dsimp only
    rw [if_pos rfl]
    refine bind_eq_ok.mpr ⟨policyValues, policyList, bind_eq_ok.mpr ⟨policies, policiesRead, ?_⟩⟩
    split
    · rename_i refused
      rw [versions] at refused
      cases refused
    · exact bind_eq_ok.mpr ⟨evidenceValues, evidenceList, bind_eq_ok.mpr ⟨evidence, evidenceRead, rfl⟩⟩

/-! ## The evaluation -/

/-- A checked request, with the value that it was read from. -/
structure PolicyInput (N : Type) where
  tenantId : Str
  subjectId : Str
  jurisdiction : Str
  action : Str
  evidenceIds : List Str
  source : Value N

def validatePolicyInput (input : Value N) : Except Thrown (PolicyInput N) := do
  let entries ← object (some input)
    ["tenantId", "subjectId", "jurisdiction", "action", "evidenceIds"]
    ["tenantId", "subjectId", "jurisdiction", "action", "evidenceIds"]
  let tenantId ← label (property entries "tenantId") false
  let subjectId ← label (property entries "subjectId") false
  let jurisdiction ← label (property entries "jurisdiction") false
  let action ← label (property entries "action") false
  let evidenceIds ← labels (property entries "evidenceIds") false 0
  return { tenantId, subjectId, jurisdiction, action, evidenceIds, source := input }

/-- The properties that every evaluation starts from. -/
def policyBase (evaluatedAt : Str) : Entries N :=
  [(lit "schema", .string (lit "ct.chlom.protocol.policy-evaluation.v1")),
    (lit "evaluatedAt", .string evaluatedAt), (lit "legalDetermination", .boolean false),
    (lit "enforcementPerformed", .boolean false), (lit "humanReviewRequired", .boolean true),
    (lit "policySource", .string (lit "server_configured_registry"))]

/-- The scope of the policy covers the request. -/
def Policy.covers (policy : Policy N) (input : PolicyInput N) : Bool :=
  scopeMatches policy.scope input.tenantId input.jurisdiction input.action

/-- The evidence is named by the request, is of its account and is in force. -/
def EvidenceRecord.supports (item : EvidenceRecord) (input : PolicyInput N) (now : Int) : Bool :=
  input.evidenceIds.contains item.id && item.tenantId = input.tenantId &&
    item.subjectId = input.subjectId && !item.revoked && item.verification.active now

/-- The requirements of a policy that no item of the evidence meets. -/
def Policy.missing (policy : Policy N) (evidence : List EvidenceRecord) : List (Requirement N) :=
  policy.requiredEvidence.filter fun requirement =>
    !evidence.any fun item => item.kind = requirement.kind && item.issuer = requirement.issuer

/-- What an evaluation says of one policy. -/
structure PolicyResult (N : Type) [Numbers N] where
  policy : Policy N
  missingEvidence : List (Requirement N)

/-- The policies whose scope covers a request. -/
def PolicyRegistry.inScope (registry : PolicyRegistry N) (input : PolicyInput N) :
    List (Policy N) :=
  registry.policies.filter fun policy => policy.covers input

/-- The evidence that supports a request. -/
def PolicyRegistry.inForce (registry : PolicyRegistry N) (input : PolicyInput N) (now : Int) :
    List EvidenceRecord :=
  registry.evidence.filter fun item => item.supports input now

def PolicyRegistry.results (registry : PolicyRegistry N) (input : PolicyInput N) (now : Int) :
    List (PolicyResult N) :=
  ((registry.inScope input).filter fun policy => policy.window.active now).map fun policy =>
    { policy, missingEvidence := policy.missing (registry.inForce input now) }

def policyStatus (inScope : List (Policy N)) (results : List (PolicyResult N)) : Str :=
  if results.isEmpty = true then
    if inScope.isEmpty = true then lit "no_matching_policy" else lit "no_active_policy"
  else if (results.any fun result => result.policy.effect = .deny) = true then
    lit "denied_by_configured_policy"
  else if (results.any fun result => !result.missingEvidence.isEmpty) = true then
    lit "evidence_required"
  else lit "requirements_satisfied"

def eligibleForReview (results : List (PolicyResult N)) : Bool :=
  !results.isEmpty && !(results.any fun result => result.policy.effect = .deny) &&
    !(results.any fun result => !result.missingEvidence.isEmpty)

variable (P : Platform)

def PolicyResult.toValue (result : PolicyResult N) : Value N :=
  .object [(lit "id", .string result.policy.id), (lit "version", .number result.policy.version),
    (lit "effectiveAt", .string result.policy.window.start.text),
    (lit "expiresAt", .string result.policy.window.stop.text),
    (lit "policyDigest", .string (sha256 P result.policy.source)),
    (lit "effect", .string result.policy.effect.text),
    (lit "missingEvidence", .array (result.missingEvidence.map Requirement.source))]

/-- The evaluation of a request under a checked registry. -/
def policyResult (input : PolicyInput N) (registry : PolicyRegistry N) (now : Int) : Entries N :=
  let inScope := registry.inScope input
  let results := registry.results input now
  let result := spread (policyBase (isoText now))
    [(lit "status", .string (policyStatus inScope results)),
      (lit "eligibleForReview", .boolean (eligibleForReview results)),
      (lit "policies", .array (results.map (PolicyResult.toValue P))),
      (lit "inputDigest", .string (sha256 P input.source)),
      (lit "registryDigest", .string (sha256 P registry.source))]
  spread result [(lit "evaluationDigest", .string (sha256 P (.object result)))]

def evaluatePolicy (input registry : Value N) (now : N) : Except Thrown (Entries N) := do
  let input ← validatePolicyInput input
  let time ← evaluationTime now
  if registry.truthy = false then
    return spread (policyBase (isoText time))
      [(lit "status", .string (lit "unconfigured")), (lit "eligibleForReview", .boolean false),
        (lit "policies", .array [])]
  else
    let registry ← validatePolicyRegistry registry
    return policyResult P input registry time

theorem evaluatePolicy_of_accepted {registry : Value N} {checked : PolicyRegistry N}
    (accepted : validatePolicyRegistry registry = .ok checked) (input : Value N) (now : N) :
    evaluatePolicy P input registry now = (do
      let input ← validatePolicyInput input
      let time ← evaluationTime now
      return policyResult P input checked time) := by
  obtain ⟨entries, _, _, rfl, _⟩ := validatePolicyRegistry_eq_ok.mp accepted
  have present : (Value.object entries).truthy ≠ false := by simp [Value.truthy]
  rw [evaluatePolicy]
  simp only [if_neg present, accepted]
  rfl

end Chlom.Protocol
