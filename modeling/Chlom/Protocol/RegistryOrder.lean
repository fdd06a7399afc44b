import Chlom.Evidence.Envelope
import Chlom.Protocol.Policy
import Chlom.Protocol.Utility
import Mathlib.Data.Multiset.Defs

/-!
# The order of a registry does not matter

Reordering the arrays of an accepted registry leaves it accepted.  At most one version of
an id of a tenant is active at a moment and no account has two snapshots, so an evaluation
finds the same gate and the same snapshot, and it collects the same policies.
-/

namespace Chlom.Protocol

open Js Results Evidence Selection

variable {N : Type}

/-! ## Reordered arrays -/

/-- The objects agree, but arrays under some names may be reordered. -/
def Rearranged (names : List String) : Entries N → Entries N → Prop :=
  List.Forall₂ fun entry other => entry.1 = other.1 ∧ (entry.2 = other.2 ∨
    entry.1 ∈ names.map lit ∧ ∃ items reordered, entry.2 = .array items ∧
      other.2 = .array reordered ∧ items.Perm reordered)

namespace Rearranged

variable {names : List String} {entries others : Entries N}

theorem keys (same : Rearranged names entries others) :
    entries.map Prod.fst = others.map Prod.fst := by
  induction same with
  | nil => rfl
  | cons head _ ih => rw [List.map_cons, List.map_cons, head.1, ih]

theorem property_or (same : Rearranged names entries others) (name : String) :
    property entries name = property others name ∨
      name ∈ names ∧ ∃ items reordered, property entries name = some (.array items) ∧
        property others name = some (.array reordered) ∧ items.Perm reordered := by
  induction same with
  | nil => exact .inl rfl
  | @cons entry other rest tail head _ ih =>
      obtain ⟨key, value⟩ := entry
      obtain ⟨otherKey, otherValue⟩ := other
      obtain ⟨rfl, values⟩ := head
      by_cases found : key = lit name
      · subst found
        simp only [property_cons_self]
        rcases values with equal | ⟨named, items, reordered, first, second, permuted⟩
        · exact .inl (congrArg some equal)
        · obtain ⟨listed, member, same⟩ := List.mem_map.mp named
          exact .inr ⟨lit_inj.mp same ▸ member, items, reordered, congrArg some first,
            congrArg some second, permuted⟩
      · have differs : (lit name == key) = false := by simpa using Ne.symm found
        simpa only [property, List.lookup_cons, differs] using ih

/-- A property that is no reordered array is the same. -/
theorem property_eq (same : Rearranged names entries others) {name : String}
    (other : name ∉ names) : property entries name = property others name := by
  rcases same.property_or name with equal | ⟨named, _⟩
  · exact equal
  · exact absurd named other

theorem list_ok (same : Rearranged names entries others) {name : String} {max min : Nat}
    {items : List (Value N)} (read : list (property entries name) max min = .ok items) :
    ∃ reordered, list (property others name) max min = .ok reordered ∧ items.Perm reordered := by
  rcases same.property_or name with equal | ⟨_, found, reordered, first, second, permuted⟩
  · exact ⟨items, equal ▸ read, .refl items⟩
  · obtain ⟨value, least, most⟩ := list_eq_ok.mp read
    rw [first] at value
    cases value
    exact ⟨reordered, list_eq_ok.mpr ⟨second, permuted.length_eq ▸ least, permuted.length_eq ▸ most⟩,
      permuted⟩

theorem object_ok (same : Rearranged names entries others) {allowed required : List String}
    (read : object (some (.object entries)) allowed required = .ok entries) :
    object (some (.object others)) allowed required = .ok others := by
  obtain ⟨_, known, present⟩ := object_eq_ok.mp read
  refine object_eq_ok.mpr ⟨rfl, fun other member => ?_, fun key needed => ?_⟩
  · have listed : other.1 ∈ entries.map Prod.fst := same.keys ▸ List.mem_map_of_mem member
    obtain ⟨entry, inside, equal⟩ := List.mem_map.mp listed
    exact equal ▸ known entry inside
  · have there := present key needed
    rcases same.property_or key with equal | ⟨_, _, reordered, _, second, _⟩
    · exact equal ▸ there
    · rw [second]
      rfl

end Rearranged

variable [Numbers N]

omit [Numbers N] in
theorem readUnique_perm {α : Type} {read : Value N → Except Thrown α} {key : α → Str} {message : Str}
    {items others : List (Value N)} (same : items.Perm others) {results : List α}
    (ran : readUnique read key message items = .ok results) :
    ∃ reordered, readUnique read key message others = .ok reordered ∧ results.Perm reordered := by
  obtain ⟨all, distinct⟩ := (readUnique_eq_ok ..).mp ran
  obtain ⟨reordered, ranOthers, permuted⟩ := mapM_perm same all
  exact ⟨reordered, (readUnique_eq_ok ..).mpr
    ⟨ranOthers, (permuted.map key).nodup_iff.mp distinct⟩, permuted⟩

/-! ## Utility registries -/

theorem validateUtilityRegistry_rearranged {entries others : Entries N}
    (same : Rearranged ["gates", "snapshots"] entries others) {registry : UtilityRegistry N}
    (accepted : validateUtilityRegistry (.object entries) = .ok registry) :
    ∃ reordered : UtilityRegistry N, validateUtilityRegistry (.object others) = .ok reordered ∧
      registry.gates.Perm reordered.gates ∧ registry.snapshots.Perm reordered.snapshots := by
  obtain ⟨_, gateValues, snapshotValues, equal, read⟩ := validateUtilityRegistry_eq_ok.mp accepted
  cases equal
  obtain ⟨otherGates, gateList, gatesPermuted⟩ := same.list_ok read.gateValues
  obtain ⟨otherSnapshots, snapshotList, snapshotsPermuted⟩ := same.list_ok read.snapshotValues
  obtain ⟨gates, gatesRead, gatesPerm⟩ := mapM_perm gatesPermuted read.gates
  obtain ⟨snapshots, snapshotsRead, snapshotsPerm⟩ := readUnique_perm snapshotsPermuted read.snapshots
  refine ⟨{
    gates, snapshots, source := .object others
    versions := uniqueVersions_perm (gatesPerm.map _) registry.versions
    accounts := ((readUnique_eq_ok ..).mp snapshotsRead).2 }, ?_, gatesPerm, snapshotsPerm⟩
  refine validateUtilityRegistry_eq_ok.mpr ⟨others, otherGates, otherSnapshots, rfl,
    same.object_ok read.shape, ?_, gateList, gatesRead, snapshotList, snapshotsRead, rfl⟩
  rw [← same.property_eq (by decide)]
  exact read.schema

/-- At every moment at most one gate of an account is active. -/
theorem UtilityRegistry.atMostOne_active (registry : UtilityRegistry N) (account : Str × Str)
    (now : Int) :
    AtMostOne (fun gate : Gate N => decide (gate.account = account) && gate.window.active now)
      registry.gates := by
  apply uniqueVersions_atMostOne registry.versions
  intro gate matched
  simpa using matched

theorem UtilityRegistry.atMostOne_admits (registry : UtilityRegistry N) (input : UtilityInput N)
    (now : Int) : AtMostOne (fun gate => gate.admits input now) registry.gates := by
  have selects : ∀ gate : Gate N, gate.admits input now = true →
      gate.account = (input.tenantId, input.gateId) ∧ gate.window.active now = true := by
    intro gate admitted
    simp only [Gate.admits, scopeMatches, Bool.and_eq_true, decide_eq_true_eq] at admitted
    exact ⟨Prod.ext admitted.1.2.1.1 admitted.1.1.1, admitted.2⟩
  exact uniqueVersions_atMostOne registry.versions selects

/-- At most one snapshot is of the account that a gate charges. -/
theorem UtilityRegistry.atMostOne_covers (registry : UtilityRegistry N) (input : UtilityInput N)
    (gate : Gate N) : AtMostOne (fun snapshot => snapshot.covers input gate) registry.snapshots := by
  refine (List.pairwise_map.mp registry.accounts).imp fun {first second} differs both => ?_
  simp only [Snapshot.covers, Bool.and_eq_true, decide_eq_true_eq] at both
  obtain ⟨⟨⟨tenant, subject⟩, unit⟩, ⟨⟨otherTenant, otherSubject⟩, otherUnit⟩⟩ := both
  apply differs
  rw [Snapshot.accountKey, Snapshot.accountKey, tenant, subject, unit, otherTenant, otherSubject,
    otherUnit]

/-- The properties of a result that depend on the text of the registry. -/
def registryDigests : List Str := [lit "registryDigest", lit "evaluationDigest"]

/-- Two registries in which the searches of an evaluation find the same give one result. -/
theorem utilityResult_congr (P : Platform) {input : UtilityInput N} {registry other : UtilityRegistry N}
    {now : Int}
    (gates : (registry.gates.find? fun gate => gate.admits input now) =
      other.gates.find? fun gate => gate.admits input now)
    (snapshots : ∀ gate : Gate N, (registry.snapshots.find? fun snapshot => snapshot.covers input gate) =
      other.snapshots.find? fun snapshot => snapshot.covers input gate) :
    without registryDigests (utilityResult P input registry now) =
      without registryDigests (utilityResult P input other now) := by
  have registryOut : lit "registryDigest" ∈ registryDigests := List.mem_cons_self
  have evaluationOut : lit "evaluationDigest" ∈ registryDigests :=
    List.mem_cons_of_mem _ List.mem_cons_self
  rw [utilityResult, utilityResult, gates]
  cases other.gates.find? fun gate => gate.admits input now with
  | none => rfl
  | some gate =>
      simp only [snapshots gate, spread, List.foldl_cons, List.foldl_nil, without_assign evaluationOut,
        without_assign registryOut]

theorem utilityResult_perm (P : Platform) (input : UtilityInput N) {registry other : UtilityRegistry N}
    (gates : registry.gates.Perm other.gates) (snapshots : registry.snapshots.Perm other.snapshots)
    (now : Int) :
    without registryDigests (utilityResult P input registry now) =
      without registryDigests (utilityResult P input other now) :=
  utilityResult_congr P (find?_perm (registry.atMostOne_admits input now) gates) fun gate =>
    find?_perm (registry.atMostOne_covers input gate) snapshots

/-! ## Policy registries -/

theorem validatePolicyRegistry_rearranged {entries others : Entries N}
    (same : Rearranged ["policies", "evidence"] entries others) {registry : PolicyRegistry N}
    (accepted : validatePolicyRegistry (.object entries) = .ok registry) :
    ∃ reordered : PolicyRegistry N, validatePolicyRegistry (.object others) = .ok reordered ∧
      registry.policies.Perm reordered.policies ∧ registry.evidence.Perm reordered.evidence := by
  obtain ⟨_, policyValues, evidenceValues, equal, read⟩ := validatePolicyRegistry_eq_ok.mp accepted
  cases equal
  obtain ⟨otherPolicies, policyList, policiesPermuted⟩ := same.list_ok read.policyValues
  obtain ⟨otherEvidence, evidenceList, evidencePermuted⟩ := same.list_ok read.evidenceValues
  obtain ⟨policies, policiesRead, policiesPerm⟩ := mapM_perm policiesPermuted read.policies
  obtain ⟨evidence, evidenceRead, evidencePerm⟩ := readUnique_perm evidencePermuted read.evidence
  refine ⟨{
    policies, evidence, source := .object others
    versions := uniqueVersions_perm (policiesPerm.map _) registry.versions }, ?_, policiesPerm,
    evidencePerm⟩
  refine validatePolicyRegistry_eq_ok.mpr ⟨others, otherPolicies, otherEvidence, rfl,
    same.object_ok read.shape, ?_, policyList, policiesRead, evidenceList, evidenceRead, rfl⟩
  rw [← same.property_eq (by decide)]
  exact read.schema

/-- At every moment at most one version of a policy is active. -/
theorem PolicyRegistry.atMostOne_active (registry : PolicyRegistry N) (account : Str × Str)
    (now : Int) :
    AtMostOne (fun policy : Policy N => decide (policy.account = account) && policy.window.active now)
      registry.policies := by
  apply uniqueVersions_atMostOne registry.versions
  intro policy matched
  simpa using matched

/-- The items of the array under a name. -/
def arrayOf (entries : Entries N) (name : String) : List (Value N) :=
  match property entries name with
  | some (.array items) => items
  | _ => []

/-- A result without what depends on the text of the registry, its policies in no order. -/
def unordered (result : Entries N) : Entries N × Multiset (Value N) :=
  (without (lit "policies" :: registryDigests) result, arrayOf result "policies")

theorem Policy.missing_perm (policy : Policy N) {evidence others : List EvidenceRecord}
    (same : evidence.Perm others) : policy.missing evidence = policy.missing others := by
  unfold Policy.missing
  apply List.filter_congr
  intro requirement _
  rw [same.any_eq]

theorem policyStatus_perm {first second : List (Policy N)} {results others : List (PolicyResult N)}
    (same : first.Perm second) (sameResults : results.Perm others) :
    policyStatus first results = policyStatus second others := by
  unfold policyStatus
  rw [same.isEmpty_eq, sameResults.isEmpty_eq, sameResults.any_eq, sameResults.any_eq]

theorem eligibleForReview_perm {results others : List (PolicyResult N)}
    (same : results.Perm others) : eligibleForReview results = eligibleForReview others := by
  unfold eligibleForReview
  rw [same.isEmpty_eq, same.any_eq, same.any_eq]

theorem PolicyRegistry.results_perm {registry other : PolicyRegistry N}
    (policies : registry.policies.Perm other.policies) (evidence : registry.evidence.Perm other.evidence)
    (input : PolicyInput N) (now : Int) :
    (registry.results input now).Perm (other.results input now) := by
  have inForce : (registry.inForce input now).Perm (other.inForce input now) := evidence.filter _
  have same : ∀ policy : Policy N, policy.missing (registry.inForce input now) =
      policy.missing (other.inForce input now) := fun policy => policy.missing_perm inForce
  simp only [PolicyRegistry.results, same]
  exact ((policies.filter _).filter _).map _

theorem arrayOf_policyResult (P : Platform) (input : PolicyInput N) (registry : PolicyRegistry N)
    (now : Int) :
    arrayOf (policyResult P input registry now) "policies" =
      (registry.results input now).map (PolicyResult.toValue P) := by
  unfold arrayOf policyResult
  simp only [spread, List.foldl_cons, List.foldl_nil]
  rw [property_assign_of_ne (by decide), property_assign_of_ne (by decide),
    property_assign_of_ne (by decide), property_assign_self]

/-- Two registries in which the filters of an evaluation keep the same give one result. -/
theorem policyResult_congr (P : Platform) {input : PolicyInput N} {registry other : PolicyRegistry N}
    {now : Int} (inScope : registry.inScope input = other.inScope input)
    (inForce : registry.inForce input now = other.inForce input now) :
    without registryDigests (policyResult P input registry now) =
      without registryDigests (policyResult P input other now) := by
  have registryOut : lit "registryDigest" ∈ registryDigests := List.mem_cons_self
  have evaluationOut : lit "evaluationDigest" ∈ registryDigests :=
    List.mem_cons_of_mem _ List.mem_cons_self
  have results : registry.results input now = other.results input now := by
    rw [PolicyRegistry.results, PolicyRegistry.results, inScope, inForce]
  rw [policyResult, policyResult, inScope, results]
  simp only [spread, List.foldl_cons, List.foldl_nil, without_assign evaluationOut,
    without_assign registryOut]

/-- Two registries that give the same policies in some order give one result up to that
order. -/
theorem policyResult_perm (P : Platform) (input : PolicyInput N) {registry other : PolicyRegistry N}
    (policies : registry.policies.Perm other.policies) (evidence : registry.evidence.Perm other.evidence)
    (now : Int) :
    unordered (policyResult P input registry now) = unordered (policyResult P input other now) := by
  have results := PolicyRegistry.results_perm policies evidence input now
  have inScope : (registry.inScope input).Perm (other.inScope input) := policies.filter _
  refine Prod.ext ?_ ?_
  · have registryOut : lit "registryDigest" ∈ lit "policies" :: registryDigests := by
      simp [registryDigests]
    have evaluationOut : lit "evaluationDigest" ∈ lit "policies" :: registryDigests := by
      simp [registryDigests]
    have inputStays : lit "inputDigest" ∉ lit "policies" :: registryDigests := by
      simp [registryDigests]
    have policiesOut : lit "policies" ∈ lit "policies" :: registryDigests := List.mem_cons_self
    dsimp only [unordered, policyResult]
    simp only [spread, List.foldl_cons, List.foldl_nil]
    rw [without_assign evaluationOut, without_assign registryOut, without_assign_of_notMem inputStays,
      without_assign policiesOut, without_assign evaluationOut, without_assign registryOut,
      without_assign_of_notMem inputStays, without_assign policiesOut,
      policyStatus_perm inScope results, eligibleForReview_perm results]
  · dsimp only [unordered]
    rw [arrayOf_policyResult, arrayOf_policyResult]
    exact Multiset.coe_eq_coe.mpr (results.map _)

/-! ## Evaluations -/

/-- Whatever order the arrays of accepted registries stand in, at every moment at most one
version of an account is active and an evaluation has one result, apart from the digests
of the registry and the order of the policies. -/
theorem registry_order_irrelevant (P : Platform) (now : N) :
    (∀ (entries others : Entries N) (registry : UtilityRegistry N),
      validateUtilityRegistry (.object entries) = .ok registry →
      Rearranged ["gates", "snapshots"] entries others →
        (∀ account moment, AtMostOne
          (fun gate : Gate N => decide (gate.account = account) && gate.window.active moment)
          registry.gates) ∧
        ∀ input, (evaluateUtility P input (.object entries) now).map (without registryDigests) =
          (evaluateUtility P input (.object others) now).map (without registryDigests)) ∧
    (∀ (entries others : Entries N) (registry : PolicyRegistry N),
      validatePolicyRegistry (.object entries) = .ok registry →
      Rearranged ["policies", "evidence"] entries others →
        (∀ account moment, AtMostOne
          (fun policy : Policy N => decide (policy.account = account) && policy.window.active moment)
          registry.policies) ∧
        ∀ input, (evaluatePolicy P input (.object entries) now).map unordered =
          (evaluatePolicy P input (.object others) now).map unordered) := by
  constructor
  · intro entries others registry accepted same
    obtain ⟨reordered, otherAccepted, gates, snapshots⟩ :=
      validateUtilityRegistry_rearranged same accepted
    refine ⟨registry.atMostOne_active, fun input => ?_⟩
    rw [evaluateUtility_of_accepted P accepted, evaluateUtility_of_accepted P otherAccepted]
    exact map_congr_of_reads fun request time _ => utilityResult_perm P request gates snapshots time
  · intro entries others registry accepted same
    obtain ⟨reordered, otherAccepted, policies, evidence⟩ :=
      validatePolicyRegistry_rearranged same accepted
    refine ⟨registry.atMostOne_active, fun input => ?_⟩
    rw [evaluatePolicy_of_accepted P accepted, evaluatePolicy_of_accepted P otherAccepted]
    exact map_congr_of_reads fun request time _ => policyResult_perm P request policies evidence time

/-! ## Sample registries -/

/-- A gate of a tenant that is active between two moments. -/
def sampleGate (tenantId id : String) (version : SafeInteger) (effectiveAt expiresAt : String) :
    Value SafeInteger :=
  .object [(lit "id", .string (lit id)), (lit "version", .number version),
    (lit "effectiveAt", .string (lit effectiveAt)), (lit "expiresAt", .string (lit expiresAt)),
    (lit "scope", .object [(lit "tenantId", .string (lit tenantId)),
      (lit "jurisdictions", .array [.string (lit "US-VA")]),
      (lit "actions", .array [.string (lit "publish")])]),
    (lit "resource", .string (lit "render-page")), (lit "unit", .string (lit "render-unit")),
    (lit "unitsPerResource", .string (lit "2")), (lit "maxResourceUnits", .string (lit "20")),
    (lit "approvalReference", .string (lit "approval:2"))]

def sampleSnapshot (tenantId subjectId : String) : Value SafeInteger :=
  .object [(lit "id", .string (lit "snapshot-1")), (lit "tenantId", .string (lit tenantId)),
    (lit "subjectId", .string (lit subjectId)), (lit "unit", .string (lit "render-unit")),
    (lit "availableUnits", .string (lit "10")),
    (lit "observedAt", .string (lit "2026-09-20T00:00:00.000Z")),
    (lit "expiresAt", .string (lit "2026-09-21T00:00:00.000Z")),
    (lit "allowedGates", .array [.string (lit "render-access")]),
    (lit "sourceReference", .string (lit "ledger-snapshot:1"))]

def sampleUtilityRegistry (gates snapshots : List (Value SafeInteger)) : Entries SafeInteger :=
  [(lit "schema", .string (lit "ct.chlom.protocol.utility-registry.v1")),
    (lit "gates", .array gates), (lit "snapshots", .array snapshots)]

def samplePolicy (tenantId id effect : String) : Value SafeInteger :=
  .object [(lit "id", .string (lit id)), (lit "version", .number .one),
    (lit "effectiveAt", .string (lit "2026-09-20T00:00:00.000Z")),
    (lit "expiresAt", .string (lit "2026-09-21T00:00:00.000Z")),
    (lit "scope", .object [(lit "tenantId", .string (lit tenantId)),
      (lit "jurisdictions", .array [.string (lit "US-VA")]),
      (lit "actions", .array [.string (lit "publish")])]),
    (lit "effect", .string (lit effect)),
    (lit "requiredEvidence", .array [.object [(lit "kind", .string (lit "rights-review")),
      (lit "issuer", .string (lit "review-office"))]]),
    (lit "approvalReference", .string (lit "approval:1")),
    (lit "sourceReference", .string (lit "policy-source:1"))]

def sampleEvidenceRecord (tenantId subjectId : String) : Value SafeInteger :=
  .object [(lit "id", .string (lit "review-1")), (lit "tenantId", .string (lit tenantId)),
    (lit "subjectId", .string (lit subjectId)), (lit "kind", .string (lit "rights-review")),
    (lit "issuer", .string (lit "review-office")),
    (lit "digest", .string (List.replicate 64 (unit 'a'))),
    (lit "verifiedAt", .string (lit "2026-09-20T00:00:00.000Z")),
    (lit "expiresAt", .string (lit "2026-09-21T00:00:00.000Z")), (lit "revoked", .boolean false)]

def samplePolicyRegistry (policies evidence : List (Value SafeInteger)) : Entries SafeInteger :=
  [(lit "schema", .string (lit "ct.chlom.protocol.policy-registry.v1")),
    (lit "policies", .array policies), (lit "evidence", .array evidence)]

/-- Noon on the day of the samples. -/
def sampleNow : SafeInteger := ⟨1789905600000, by decide⟩

/-- Two versions of one gate, the second of which retires the first at noon. -/
def sampleGates : List (Value SafeInteger) :=
  [sampleGate "tenant-a" "render-access" .one "2026-09-20T00:00:00.000Z"
      "2026-09-20T12:00:00.000Z",
    sampleGate "tenant-a" "render-access" ⟨2, by decide⟩ "2026-09-20T12:00:00.000Z"
      "2026-09-21T00:00:00.000Z"]

def sampleSnapshots : List (Value SafeInteger) :=
  [sampleSnapshot "tenant-a" "subject-a", sampleSnapshot "tenant-a" "subject-b"]

def samplePolicies : List (Value SafeInteger) :=
  [samplePolicy "tenant-a" "release-review" "requirements",
    samplePolicy "tenant-a" "release-hold" "deny"]

theorem registry_order_irrelevant_sample :
    (∀ input, (evaluateUtility samplePlatform input
          (.object (sampleUtilityRegistry sampleGates sampleSnapshots)) sampleNow).map
          (without registryDigests) =
        (evaluateUtility samplePlatform input
          (.object (sampleUtilityRegistry sampleGates.reverse sampleSnapshots.reverse))
          sampleNow).map (without registryDigests)) ∧
      ∀ input, (evaluatePolicy samplePlatform input
          (.object (samplePolicyRegistry samplePolicies
            [sampleEvidenceRecord "tenant-a" "subject-a"])) sampleNow).map unordered =
        (evaluatePolicy samplePlatform input
          (.object (samplePolicyRegistry samplePolicies.reverse
            [sampleEvidenceRecord "tenant-a" "subject-a"])) sampleNow).map unordered := by
  have irrelevant := registry_order_irrelevant samplePlatform sampleNow
  have utilityAccepted : (validateUtilityRegistry
      (.object (sampleUtilityRegistry sampleGates sampleSnapshots))).toOption.isSome = true := by
    decide +kernel
  have policyAccepted : (validatePolicyRegistry (.object (samplePolicyRegistry samplePolicies
      [sampleEvidenceRecord "tenant-a" "subject-a"]))).toOption.isSome = true := by
    decide +kernel
  constructor
  · cases accepted : validateUtilityRegistry
        (.object (sampleUtilityRegistry sampleGates sampleSnapshots)) with
    | error thrown => simp [accepted, Except.toOption] at utilityAccepted
    | ok registry =>
        refine (irrelevant.1 _ _ registry accepted ?_).2
        have gates : sampleGates.Perm sampleGates.reverse := (List.reverse_perm _).symm
        have snapshots : sampleSnapshots.Perm sampleSnapshots.reverse := (List.reverse_perm _).symm
        exact .cons ⟨rfl, .inl rfl⟩ (.cons ⟨rfl, .inr ⟨by simp, _, _, rfl, rfl, gates⟩⟩
          (.cons ⟨rfl, .inr ⟨by simp, _, _, rfl, rfl, snapshots⟩⟩ .nil))
  · cases accepted : validatePolicyRegistry (.object (samplePolicyRegistry samplePolicies
        [sampleEvidenceRecord "tenant-a" "subject-a"])) with
    | error thrown => simp [accepted, Except.toOption] at policyAccepted
    | ok registry =>
        refine (irrelevant.2 _ _ registry accepted ?_).2
        have policies : samplePolicies.Perm samplePolicies.reverse := (List.reverse_perm _).symm
        exact .cons ⟨rfl, .inl rfl⟩ (.cons ⟨rfl, .inr ⟨by simp, _, _, rfl, rfl, policies⟩⟩
          (.cons ⟨rfl, .inl rfl⟩ .nil))

end Chlom.Protocol
