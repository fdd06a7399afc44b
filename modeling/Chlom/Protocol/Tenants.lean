import Chlom.Protocol.RegistryOrder

/-!
# Tenants do not influence each other

Every search and every filter of an evaluation passes over the records of other tenants,
so two registries with the same records of a tenant give its requests one result.
-/

namespace Chlom.Protocol

open Js Results Evidence Selection

variable {N : Type}

/-! ## Tenants of records -/

/-- The tenant that a record or a scope names. -/
def tenantOf (value : Value N) : Any N :=
  match value with
  | .object entries => property entries "tenantId"
  | _ => none

/-- The scope of a configured record. -/
def scopeOf (value : Value N) : Any N :=
  match value with
  | .object entries => property entries "scope"
  | _ => none

/-- The value is the name of the tenant. -/
def isTenant (tenantId : Str) (value : Any N) : Bool :=
  match value with
  | some (.string name) => name = tenantId
  | _ => false

/-- The record is of the tenant. -/
def ofTenant (tenantId : Str) (value : Value N) : Bool := isTenant tenantId (tenantOf value)

/-- The configured record is scoped to the tenant. -/
def scopedTo (tenantId : Str) (value : Value N) : Bool :=
  isTenant tenantId ((scopeOf value).bind tenantOf)

theorem isTenant_string (tenantId name : Str) :
    isTenant tenantId (some (.string name) : Any N) = decide (name = tenantId) := rfl

theorem label_ok {value : Any N} {wildcard : Bool} {s : Str} (read : label value wildcard = .ok s) :
    value = some (.string s) := by
  unfold label at read
  split at read
  · split_ifs at read
    · cases read
      rfl
    · cases read
      rfl
    · cases read
  · cases read

theorem scope_ok {value : Any N} {read : Scope} (ran : scope value = .ok read) :
    value.bind tenantOf = some (.string read.tenantId) := by
  obtain ⟨entries, shape, rest⟩ := bind_eq_ok.mp ran
  obtain ⟨tenantId, tenant, rest⟩ := bind_eq_ok.mp rest
  obtain ⟨jurisdictions, _, rest⟩ := bind_eq_ok.mp rest
  obtain ⟨actions, _, rest⟩ := bind_eq_ok.mp rest
  cases rest
  rw [(object_eq_ok.mp shape).1]
  exact label_ok tenant

variable [Numbers N]

theorem validateGate_scope {value : Value N} {gate : Gate N} (ran : validateGate value = .ok gate) :
    (scopeOf value).bind tenantOf = some (.string gate.scope.tenantId) := by
  obtain ⟨entries, shape, rest⟩ := bind_eq_ok.mp ran
  obtain ⟨version, _, rest⟩ := bind_eq_ok.mp rest
  obtain ⟨read, scopeRead, rest⟩ := bind_eq_ok.mp rest
  obtain ⟨resource, _, rest⟩ := bind_eq_ok.mp rest
  obtain ⟨unit, _, rest⟩ := bind_eq_ok.mp rest
  obtain ⟨approvalReference, _, rest⟩ := bind_eq_ok.mp rest
  obtain ⟨unitsPerResource, _, rest⟩ := bind_eq_ok.mp rest
  obtain ⟨same, _⟩ := object_eq_ok.mp shape
  cases same
  split_ifs at rest
  · obtain ⟨maxResourceUnits, _, rest⟩ := bind_eq_ok.mp rest
    split_ifs at rest
    · cases rest
      exact scope_ok scopeRead
    · cases rest
  · cases rest

omit [Numbers N] in
theorem validateSnapshot_tenant {value : Value N} {snapshot : Snapshot N}
    (ran : validateSnapshot value = .ok snapshot) :
    tenantOf value = some (.string snapshot.tenantId) := by
  obtain ⟨entries, shape, rest⟩ := bind_eq_ok.mp ran
  obtain ⟨id, _, rest⟩ := bind_eq_ok.mp rest
  obtain ⟨tenantId, tenant, rest⟩ := bind_eq_ok.mp rest
  obtain ⟨subjectId, _, rest⟩ := bind_eq_ok.mp rest
  obtain ⟨unit, _, rest⟩ := bind_eq_ok.mp rest
  obtain ⟨sourceReference, _, rest⟩ := bind_eq_ok.mp rest
  obtain ⟨availableUnits, _, rest⟩ := bind_eq_ok.mp rest
  obtain ⟨allowedGates, _, rest⟩ := bind_eq_ok.mp rest
  obtain ⟨observation, _, rest⟩ := bind_eq_ok.mp rest
  obtain ⟨same, _⟩ := object_eq_ok.mp shape
  cases same
  cases rest
  exact label_ok tenant

theorem validatePolicy_scope {value : Value N} {policy : Policy N}
    (ran : validatePolicy value = .ok policy) :
    (scopeOf value).bind tenantOf = some (.string policy.scope.tenantId) := by
  obtain ⟨entries, shape, rest⟩ := bind_eq_ok.mp ran
  obtain ⟨version, _, rest⟩ := bind_eq_ok.mp rest
  obtain ⟨read, scopeRead, rest⟩ := bind_eq_ok.mp rest
  obtain ⟨approvalReference, _, rest⟩ := bind_eq_ok.mp rest
  obtain ⟨sourceReference, _, rest⟩ := bind_eq_ok.mp rest
  obtain ⟨effect, _, rest⟩ := bind_eq_ok.mp rest
  obtain ⟨requirements, _, rest⟩ := bind_eq_ok.mp rest
  obtain ⟨requiredEvidence, _, rest⟩ := bind_eq_ok.mp rest
  obtain ⟨same, _⟩ := object_eq_ok.mp shape
  cases same
  cases rest
  exact scope_ok scopeRead

omit [Numbers N] in
theorem validateEvidence_tenant {value : Value N} {item : EvidenceRecord}
    (ran : validateEvidence value = .ok item) : tenantOf value = some (.string item.tenantId) := by
  obtain ⟨entries, shape, rest⟩ := bind_eq_ok.mp ran
  obtain ⟨id, _, rest⟩ := bind_eq_ok.mp rest
  obtain ⟨tenantId, tenant, rest⟩ := bind_eq_ok.mp rest
  obtain ⟨subjectId, _, rest⟩ := bind_eq_ok.mp rest
  obtain ⟨kind, _, rest⟩ := bind_eq_ok.mp rest
  obtain ⟨issuer, _, rest⟩ := bind_eq_ok.mp rest
  obtain ⟨digest, _, rest⟩ := bind_eq_ok.mp rest
  obtain ⟨verification, _, rest⟩ := bind_eq_ok.mp rest
  obtain ⟨revoked, _, rest⟩ := bind_eq_ok.mp rest
  obtain ⟨same, _⟩ := object_eq_ok.mp shape
  cases same
  cases rest
  exact label_ok tenant

omit [Numbers N] in
theorem validateUtilityInput_tenant {value : Value N} {input : UtilityInput N}
    (ran : validateUtilityInput value = .ok input) : tenantOf value = some (.string input.tenantId) := by
  obtain ⟨entries, shape, rest⟩ := bind_eq_ok.mp ran
  obtain ⟨tenantId, tenant, rest⟩ := bind_eq_ok.mp rest
  obtain ⟨subjectId, _, rest⟩ := bind_eq_ok.mp rest
  obtain ⟨jurisdiction, _, rest⟩ := bind_eq_ok.mp rest
  obtain ⟨action, _, rest⟩ := bind_eq_ok.mp rest
  obtain ⟨gateId, _, rest⟩ := bind_eq_ok.mp rest
  obtain ⟨resource, _, rest⟩ := bind_eq_ok.mp rest
  obtain ⟨quantity, _, rest⟩ := bind_eq_ok.mp rest
  obtain ⟨same, _⟩ := object_eq_ok.mp shape
  cases same
  split_ifs at rest
  · cases rest
    exact label_ok tenant
  · cases rest

omit [Numbers N] in
theorem validatePolicyInput_tenant {value : Value N} {input : PolicyInput N}
    (ran : validatePolicyInput value = .ok input) : tenantOf value = some (.string input.tenantId) := by
  obtain ⟨entries, shape, rest⟩ := bind_eq_ok.mp ran
  obtain ⟨tenantId, tenant, rest⟩ := bind_eq_ok.mp rest
  obtain ⟨subjectId, _, rest⟩ := bind_eq_ok.mp rest
  obtain ⟨jurisdiction, _, rest⟩ := bind_eq_ok.mp rest
  obtain ⟨action, _, rest⟩ := bind_eq_ok.mp rest
  obtain ⟨evidenceIds, _, rest⟩ := bind_eq_ok.mp rest
  obtain ⟨same, _⟩ := object_eq_ok.mp shape
  cases same
  cases rest
  exact label_ok tenant

/-! ## What an evaluation sees of a registry -/

omit [Numbers N] in
/-- Checked lists that were read from lists with the same records of a tenant have the same
checked records of it. -/
theorem filter_eq_of_reads {α : Type} {read : Value N → Except Thrown α} {p : Value N → Bool}
    {q : α → Bool} (agree : ∀ value result, read value = .ok result → p value = q result)
    {items others : List (Value N)} {results otherResults : List α}
    (ran : items.mapM read = .ok results) (otherRan : others.mapM read = .ok otherResults)
    (same : items.filter p = others.filter p) : results.filter q = otherResults.filter q := by
  have kept := mapM_filter agree ran
  rw [same, mapM_filter agree otherRan] at kept
  exact (Except.ok.inj kept).symm

theorem UtilityRegistry.find_gate (registry : UtilityRegistry N) (input : UtilityInput N) (now : Int) :
    (registry.gates.find? fun gate => gate.admits input now) =
      (registry.gates.filter fun gate => decide (gate.scope.tenantId = input.tenantId)).find?
        fun gate => gate.admits input now := by
  refine (find?_filter_of_imp (fun gate admitted => ?_) registry.gates).symm
  simp only [Gate.admits, scopeMatches, Bool.and_eq_true] at admitted
  exact admitted.1.2.1.1

theorem UtilityRegistry.find_snapshot (registry : UtilityRegistry N) (input : UtilityInput N)
    (gate : Gate N) :
    (registry.snapshots.find? fun snapshot => snapshot.covers input gate) =
      (registry.snapshots.filter fun snapshot => decide (snapshot.tenantId = input.tenantId)).find?
        fun snapshot => snapshot.covers input gate := by
  refine (find?_filter_of_imp (fun snapshot covers => ?_) registry.snapshots).symm
  simp only [Snapshot.covers, Bool.and_eq_true] at covers
  exact covers.1.1

theorem PolicyRegistry.inScope_eq (registry : PolicyRegistry N) (input : PolicyInput N) :
    registry.inScope input =
      (registry.policies.filter fun policy => decide (policy.scope.tenantId = input.tenantId)).filter
        fun policy => policy.covers input := by
  refine (filter_filter_of_imp (fun policy covers => ?_) registry.policies).symm
  simp only [Policy.covers, scopeMatches, Bool.and_eq_true] at covers
  exact covers.1.1

theorem PolicyRegistry.inForce_eq (registry : PolicyRegistry N) (input : PolicyInput N) (now : Int) :
    registry.inForce input now =
      (registry.evidence.filter fun item => decide (item.tenantId = input.tenantId)).filter
        fun item => item.supports input now := by
  refine (filter_filter_of_imp (fun item supports => ?_) registry.evidence).symm
  simp only [EvidenceRecord.supports, Bool.and_eq_true] at supports
  exact supports.1.1.1.2

/-! ## Isolation -/

/-- The two registries have the same records of the tenant in the same order. -/
structure SameUtility (tenantId : Str) (entries others : Entries N) : Prop where
  gates : (arrayOf entries "gates").filter (scopedTo tenantId) =
    (arrayOf others "gates").filter (scopedTo tenantId)
  snapshots : (arrayOf entries "snapshots").filter (ofTenant tenantId) =
    (arrayOf others "snapshots").filter (ofTenant tenantId)

structure SamePolicies (tenantId : Str) (entries others : Entries N) : Prop where
  policies : (arrayOf entries "policies").filter (scopedTo tenantId) =
    (arrayOf others "policies").filter (scopedTo tenantId)
  evidence : (arrayOf entries "evidence").filter (ofTenant tenantId) =
    (arrayOf others "evidence").filter (ofTenant tenantId)

omit [Numbers N] in
theorem arrayOf_eq {entries : Entries N} {name : String} {max min : Nat} {items : List (Value N)}
    (read : list (property entries name) max min = .ok items) : arrayOf entries name = items := by
  rw [arrayOf, (list_eq_ok.mp read).1]

/-- Evaluations of a request of a tenant under registries with the same gates and snapshots of
it agree. -/
theorem utilityResult_isolated (P : Platform) {tenantId : Str} {entries others : Entries N}
    (same : SameUtility tenantId entries others) {registry other : UtilityRegistry N}
    (accepted : validateUtilityRegistry (.object entries) = .ok registry)
    (otherAccepted : validateUtilityRegistry (.object others) = .ok other) {input : UtilityInput N}
    (asks : input.tenantId = tenantId) (now : Int) :
    without registryDigests (utilityResult P input registry now) =
      without registryDigests (utilityResult P input other now) := by
  subst asks
  obtain ⟨_, gates, snapshots, equal, read⟩ := validateUtilityRegistry_eq_ok.mp accepted
  cases equal
  obtain ⟨_, otherGates, otherSnapshots, equal, otherRead⟩ :=
    validateUtilityRegistry_eq_ok.mp otherAccepted
  cases equal
  have sameGates := same.gates
  have sameSnapshots := same.snapshots
  rw [arrayOf_eq read.gateValues, arrayOf_eq otherRead.gateValues] at sameGates
  rw [arrayOf_eq read.snapshotValues, arrayOf_eq otherRead.snapshotValues] at sameSnapshots
  have gatesEqual := filter_eq_of_reads
    (q := fun gate : Gate N => decide (gate.scope.tenantId = input.tenantId))
    (fun value gate ran => by rw [scopedTo, validateGate_scope ran, isTenant_string])
    read.gates otherRead.gates sameGates
  have snapshotsEqual := filter_eq_of_reads
    (q := fun snapshot : Snapshot N => decide (snapshot.tenantId = input.tenantId))
    (fun value snapshot ran => by rw [ofTenant, validateSnapshot_tenant ran, isTenant_string])
    ((readUnique_eq_ok ..).mp read.snapshots).1 ((readUnique_eq_ok ..).mp otherRead.snapshots).1
    sameSnapshots
  refine utilityResult_congr P ?_ fun gate => ?_
  · rw [registry.find_gate, other.find_gate, gatesEqual]
  · rw [registry.find_snapshot, other.find_snapshot, snapshotsEqual]

/-- Evaluations of a request of a tenant under registries with the same policies and evidence
of it agree. -/
theorem policyResult_isolated (P : Platform) {tenantId : Str} {entries others : Entries N}
    (same : SamePolicies tenantId entries others) {registry other : PolicyRegistry N}
    (accepted : validatePolicyRegistry (.object entries) = .ok registry)
    (otherAccepted : validatePolicyRegistry (.object others) = .ok other) {input : PolicyInput N}
    (asks : input.tenantId = tenantId) (now : Int) :
    without registryDigests (policyResult P input registry now) =
      without registryDigests (policyResult P input other now) := by
  subst asks
  obtain ⟨_, policies, evidence, equal, read⟩ := validatePolicyRegistry_eq_ok.mp accepted
  cases equal
  obtain ⟨_, otherPolicies, otherEvidence, equal, otherRead⟩ :=
    validatePolicyRegistry_eq_ok.mp otherAccepted
  cases equal
  have samePolicies := same.policies
  have sameEvidence := same.evidence
  rw [arrayOf_eq read.policyValues, arrayOf_eq otherRead.policyValues] at samePolicies
  rw [arrayOf_eq read.evidenceValues, arrayOf_eq otherRead.evidenceValues] at sameEvidence
  have policiesEqual := filter_eq_of_reads
    (q := fun policy : Policy N => decide (policy.scope.tenantId = input.tenantId))
    (fun value policy ran => by rw [scopedTo, validatePolicy_scope ran, isTenant_string])
    read.policies otherRead.policies samePolicies
  have evidenceEqual := filter_eq_of_reads
    (q := fun item : EvidenceRecord => decide (item.tenantId = input.tenantId))
    (fun value item ran => by rw [ofTenant, validateEvidence_tenant ran, isTenant_string])
    ((readUnique_eq_ok ..).mp read.evidence).1 ((readUnique_eq_ok ..).mp otherRead.evidence).1
    sameEvidence
  refine policyResult_congr P ?_ ?_
  · rw [registry.inScope_eq, other.inScope_eq, policiesEqual]
  · rw [registry.inForce_eq, other.inForce_eq, evidenceEqual]

/-- Whatever accepted registries have for other tenants, a request of a tenant has one
result, apart from the digests of the registry. -/
theorem tenants_isolated (P : Platform) (now : N) (tenantId : Str) :
    (∀ (entries others : Entries N) (registry other : UtilityRegistry N),
      validateUtilityRegistry (.object entries) = .ok registry →
      validateUtilityRegistry (.object others) = .ok other →
      SameUtility tenantId entries others →
      ∀ input : Value N, tenantOf input = some (.string tenantId) →
        (evaluateUtility P input (.object entries) now).map (without registryDigests) =
          (evaluateUtility P input (.object others) now).map (without registryDigests)) ∧
    (∀ (entries others : Entries N) (registry other : PolicyRegistry N),
      validatePolicyRegistry (.object entries) = .ok registry →
      validatePolicyRegistry (.object others) = .ok other →
      SamePolicies tenantId entries others →
      ∀ input : Value N, tenantOf input = some (.string tenantId) →
        (evaluatePolicy P input (.object entries) now).map (without registryDigests) =
          (evaluatePolicy P input (.object others) now).map (without registryDigests)) := by
  constructor
  · intro entries others registry other accepted otherAccepted same input asks
    rw [evaluateUtility_of_accepted P accepted, evaluateUtility_of_accepted P otherAccepted]
    refine map_congr_of_reads fun request time read => ?_
    have tenant := validateUtilityInput_tenant read
    rw [asks] at tenant
    cases tenant
    exact utilityResult_isolated P same accepted otherAccepted rfl time
  · intro entries others registry other accepted otherAccepted same input asks
    rw [evaluatePolicy_of_accepted P accepted, evaluatePolicy_of_accepted P otherAccepted]
    refine map_congr_of_reads fun request time read => ?_
    have tenant := validatePolicyInput_tenant read
    rw [asks] at tenant
    cases tenant
    exact policyResult_isolated P same accepted otherAccepted rfl time

/-- A gate of another tenant under the same id. -/
def foreignGate : Value SafeInteger :=
  sampleGate "tenant-b" "render-access" .one "2026-09-20T00:00:00.000Z"
    "2026-09-21T00:00:00.000Z"

def sampleInput : Value SafeInteger :=
  .object [(lit "tenantId", .string (lit "tenant-a")), (lit "subjectId", .string (lit "subject-a")),
    (lit "jurisdiction", .string (lit "US-VA")), (lit "action", .string (lit "publish")),
    (lit "gateId", .string (lit "render-access")), (lit "resource", .string (lit "render-page")),
    (lit "resourceUnits", .string (lit "3"))]

def samplePolicyInput : Value SafeInteger :=
  .object [(lit "tenantId", .string (lit "tenant-a")), (lit "subjectId", .string (lit "subject-a")),
    (lit "jurisdiction", .string (lit "US-VA")), (lit "action", .string (lit "publish")),
    (lit "evidenceIds", .array [.string (lit "review-1")])]

/-- Records of other tenants in front or behind do not show. -/
theorem sameUtility_samples : SameUtility (lit "tenant-a")
    (sampleUtilityRegistry sampleGates sampleSnapshots)
    (sampleUtilityRegistry (foreignGate :: sampleGates)
      (sampleSnapshot "tenant-b" "subject-a" :: sampleSnapshots)) where
  gates := by
    have foreign : scopedTo (lit "tenant-a") foreignGate = false := by decide +kernel
    simp [arrayOf, sampleUtilityRegistry, foreign]
  snapshots := by
    have foreign : ofTenant (lit "tenant-a") (sampleSnapshot "tenant-b" "subject-a") = false := by
      decide +kernel
    simp [arrayOf, sampleUtilityRegistry, foreign]

theorem samePolicies_samples : SamePolicies (lit "tenant-a")
    (samplePolicyRegistry samplePolicies [])
    (samplePolicyRegistry (samplePolicies ++ [samplePolicy "tenant-b" "release-review" "deny"])
      [sampleEvidenceRecord "tenant-b" "subject-a"]) where
  policies := by
    have foreign : scopedTo (lit "tenant-a") (samplePolicy "tenant-b" "release-review" "deny") =
        false := by
      decide +kernel
    simp [arrayOf, samplePolicyRegistry, foreign]
  evidence := by
    have foreign : ofTenant (lit "tenant-a") (sampleEvidenceRecord "tenant-b" "subject-a") =
        false := by
      decide +kernel
    simp [arrayOf, samplePolicyRegistry, foreign]

theorem tenants_isolated_sample :
    (evaluateUtility samplePlatform sampleInput
        (.object (sampleUtilityRegistry sampleGates sampleSnapshots)) sampleNow).map
        (without registryDigests) =
      (evaluateUtility samplePlatform sampleInput
        (.object (sampleUtilityRegistry (foreignGate :: sampleGates)
          (sampleSnapshot "tenant-b" "subject-a" :: sampleSnapshots))) sampleNow).map
        (without registryDigests) ∧
      (evaluatePolicy samplePlatform samplePolicyInput
        (.object (samplePolicyRegistry samplePolicies [])) sampleNow).map
        (without registryDigests) =
      (evaluatePolicy samplePlatform samplePolicyInput
        (.object (samplePolicyRegistry
          (samplePolicies ++ [samplePolicy "tenant-b" "release-review" "deny"])
          [sampleEvidenceRecord "tenant-b" "subject-a"])) sampleNow).map
        (without registryDigests) := by
  have isolated := tenants_isolated samplePlatform sampleNow (lit "tenant-a")
  have accepts : ∀ v : Value SafeInteger, (validateUtilityRegistry v).toOption.isSome = true →
      ∃ registry, validateUtilityRegistry v = .ok registry := by
    intro v
    cases validateUtilityRegistry v with
    | error thrown => nofun
    | ok registry => exact fun _ => ⟨registry, rfl⟩
  have acceptsPolicies : ∀ v : Value SafeInteger,
      (validatePolicyRegistry v).toOption.isSome = true →
        ∃ registry, validatePolicyRegistry v = .ok registry := by
    intro v
    cases validatePolicyRegistry v with
    | error thrown => nofun
    | ok registry => exact fun _ => ⟨registry, rfl⟩
  constructor
  · obtain ⟨registry, accepted⟩ := accepts
      (.object (sampleUtilityRegistry sampleGates sampleSnapshots)) (by decide +kernel)
    obtain ⟨other, otherAccepted⟩ := accepts (.object (sampleUtilityRegistry
      (foreignGate :: sampleGates) (sampleSnapshot "tenant-b" "subject-a" :: sampleSnapshots)))
      (by decide +kernel)
    exact isolated.1 _ _ registry other accepted otherAccepted sameUtility_samples sampleInput rfl
  · obtain ⟨registry, accepted⟩ := acceptsPolicies
      (.object (samplePolicyRegistry samplePolicies [])) (by decide +kernel)
    obtain ⟨other, otherAccepted⟩ := acceptsPolicies (.object (samplePolicyRegistry
      (samplePolicies ++ [samplePolicy "tenant-b" "release-review" "deny"])
      [sampleEvidenceRecord "tenant-b" "subject-a"])) (by decide +kernel)
    exact isolated.2 _ _ registry other accepted otherAccepted samePolicies_samples
      samplePolicyInput rfl

end Chlom.Protocol
