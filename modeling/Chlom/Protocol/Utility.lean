import Chlom.Evidence.Canonicalize
import Chlom.Library.Js.Numerals
import Chlom.Protocol.Versions

/-!
# Utility gates

A gate says what a unit of a resource costs; a snapshot says what an account has.  An
evaluation compares a request with the first gate and the first snapshot that match it.
-/

namespace Chlom.Protocol

open Js Results Evidence

variable {N : Type} [Numbers N]

/-! ## Gates and snapshots -/

/-- A checked gate, with the value that it was read from. -/
structure Gate (N : Type) [Numbers N] extends Configured N where
  resource : Str
  unit : Str
  unitsPerResource : Nat
  maxResourceUnits : Nat
  approvalReference : Str
  source : Value N
  costs : 1 ≤ unitsPerResource
  sells : 1 ≤ maxResourceUnits

/-- A checked balance snapshot, with the value that it was read from. -/
structure Snapshot (N : Type) where
  id : Str
  tenantId : Str
  subjectId : Str
  unit : Str
  availableUnits : Nat
  observation : Window
  allowedGates : List Str
  sourceReference : Str
  source : Value N

def validateGate (gate : Value N) : Except Thrown (Gate N) := do
  let entries ← object (some gate)
    ["id", "version", "effectiveAt", "expiresAt", "scope", "resource", "unit", "unitsPerResource",
      "maxResourceUnits", "approvalReference"]
    ["id", "version", "effectiveAt", "expiresAt", "scope", "resource", "unit", "unitsPerResource",
      "maxResourceUnits", "approvalReference"]
  let version ← versioned entries
  let scope ← scope (property entries "scope")
  let resource ← label (property entries "resource") false
  let unit ← label (property entries "unit") false
  let approvalReference ← label (property entries "approvalReference") false
  let unitsPerResource ← integerString (property entries "unitsPerResource")
  if costs : 1 ≤ unitsPerResource then
    let maxResourceUnits ← integerString (property entries "maxResourceUnits")
    if sells : 1 ≤ maxResourceUnits then
      return {
        toVersioned := version, scope, resource, unit, unitsPerResource, maxResourceUnits,
        approvalReference, source := gate, costs, sells }
    else invalid
  else invalid

def validateSnapshot (snapshot : Value N) : Except Thrown (Snapshot N) := do
  let entries ← object (some snapshot)
    ["id", "tenantId", "subjectId", "unit", "availableUnits", "observedAt", "expiresAt",
      "allowedGates", "sourceReference"]
    ["id", "tenantId", "subjectId", "unit", "availableUnits", "observedAt", "expiresAt",
      "allowedGates", "sourceReference"]
  let id ← label (property entries "id") false
  let tenantId ← label (property entries "tenantId") false
  let subjectId ← label (property entries "subjectId") false
  let unit ← label (property entries "unit") false
  let sourceReference ← label (property entries "sourceReference") false
  let availableUnits ← integerString (property entries "availableUnits")
  let allowedGates ← labels (property entries "allowedGates") false 1
  let observation ← windowBetween (property entries "observedAt") (property entries "expiresAt")
    UNSUPPORTED
  return {
    id, tenantId, subjectId, unit, availableUnits, observation, allowedGates, sourceReference,
    source := snapshot }

/-- `JSON.stringify([snapshot.tenantId, snapshot.subjectId, snapshot.unit])`. -/
def Snapshot.accountKey (snapshot : Snapshot N) : Str :=
  stringify (.array [.string snapshot.tenantId, .string snapshot.subjectId, .string snapshot.unit] :
    Value N)

/-! ## The registry -/

/-- A checked registry: its versions do not overlap and no account has two snapshots. -/
structure UtilityRegistry (N : Type) [Numbers N] where
  gates : List (Gate N)
  snapshots : List (Snapshot N)
  source : Value N
  versions : uniqueVersions (gates.map Gate.toConfigured) = .ok ()
  accounts : (snapshots.map Snapshot.accountKey).Nodup

/-- Read the snapshots of a registry, each of an account of its own. -/
def readSnapshots (items : List (Value N)) : Except Thrown (List (Snapshot N)) :=
  readUnique validateSnapshot Snapshot.accountKey
    (lit "Multiple balance snapshots for one account are not permitted.") items

def validateUtilityRegistry (registry : Value N) : Except Thrown (UtilityRegistry N) := do
  let entries ← object (some registry) ["schema", "gates", "snapshots"]
    ["schema", "gates", "snapshots"]
  match property entries "schema" with
  | some (.string schema) =>
      if schema = lit "ct.chlom.protocol.utility-registry.v1" then
        let gateValues ← list (property entries "gates") 100 0
        let gates ← gateValues.mapM validateGate
        match versions : uniqueVersions (gates.map Gate.toConfigured) with
        | .error thrown => .error thrown
        | .ok () =>
            let snapshotValues ← list (property entries "snapshots") 300 0
            match read : readSnapshots snapshotValues with
            | .error thrown => .error thrown
            | .ok snapshots =>
                return {
                  gates, snapshots, source := registry, versions
                  accounts := ((readUnique_eq_ok _ _ _).mp read).2 }
      else invalid
  | _ => invalid

/-- How a registry was read from the properties of an object. -/
structure UtilityRegistry.ReadFrom (registry : UtilityRegistry N) (entries : Entries N)
    (gates snapshots : List (Value N)) : Prop where
  shape : object (some (.object entries)) ["schema", "gates", "snapshots"]
    ["schema", "gates", "snapshots"] = .ok entries
  schema : property entries "schema" =
    some (.string (lit "ct.chlom.protocol.utility-registry.v1"))
  gateValues : list (property entries "gates") 100 0 = .ok gates
  gates : gates.mapM validateGate = .ok registry.gates
  snapshotValues : list (property entries "snapshots") 300 0 = .ok snapshots
  snapshots : readSnapshots snapshots = .ok registry.snapshots
  source : registry.source = .object entries

theorem validateUtilityRegistry_eq_ok {value : Value N} {registry : UtilityRegistry N} :
    validateUtilityRegistry value = .ok registry ↔ ∃ entries gates snapshots,
      value = .object entries ∧ registry.ReadFrom entries gates snapshots := by
  constructor
  · intro ran
    obtain ⟨entries, shape, rest⟩ := bind_eq_ok.mp ran
    obtain ⟨same, _⟩ := object_eq_ok.mp shape
    cases same
    split at rest
    · rename_i schema found
      split_ifs at rest with known
      · subst known
        obtain ⟨gateValues, gateList, rest⟩ := bind_eq_ok.mp rest
        obtain ⟨gates, gatesRead, rest⟩ := bind_eq_ok.mp rest
        split at rest
        · cases rest
        · obtain ⟨snapshotValues, snapshotList, rest⟩ := bind_eq_ok.mp rest
          split at rest
          · cases rest
          · rename_i snapshots snapshotsRead
            cases rest
            exact ⟨entries, gateValues, snapshotValues, rfl, shape, found, gateList, gatesRead,
              snapshotList, snapshotsRead, rfl⟩
      · cases rest
    · cases rest
  · rintro ⟨entries, gateValues, snapshotValues, rfl, read⟩
    obtain ⟨gates, snapshots, source, versions, accounts⟩ := registry
    obtain ⟨shape, schema, gateList, gatesRead, snapshotList, snapshotsRead, rfl⟩ := read
    refine bind_eq_ok.mpr ⟨entries, shape, ?_⟩
    rw [schema]
    dsimp only
    rw [if_pos rfl]
    refine bind_eq_ok.mpr ⟨gateValues, gateList, bind_eq_ok.mpr ⟨gates, gatesRead, ?_⟩⟩
    split
    · rename_i refused
      rw [versions] at refused
      cases refused
    · refine bind_eq_ok.mpr ⟨snapshotValues, snapshotList, ?_⟩
      split
      · rename_i refused
        rw [snapshotsRead] at refused
        cases refused
      · rename_i again
        rw [snapshotsRead] at again
        cases again
        rfl

/-! ## The evaluation -/

/-- A checked request, with the value that it was read from. -/
structure UtilityInput (N : Type) where
  tenantId : Str
  subjectId : Str
  jurisdiction : Str
  action : Str
  gateId : Str
  resource : Str
  quantity : Nat
  source : Value N
  asks : 1 ≤ quantity

def validateUtilityInput (input : Value N) : Except Thrown (UtilityInput N) := do
  let entries ← object (some input)
    ["tenantId", "subjectId", "jurisdiction", "action", "gateId", "resource", "resourceUnits"]
    ["tenantId", "subjectId", "jurisdiction", "action", "gateId", "resource", "resourceUnits"]
  let tenantId ← label (property entries "tenantId") false
  let subjectId ← label (property entries "subjectId") false
  let jurisdiction ← label (property entries "jurisdiction") false
  let action ← label (property entries "action") false
  let gateId ← label (property entries "gateId") false
  let resource ← label (property entries "resource") false
  let quantity ← integerString (property entries "resourceUnits")
  if asks : 1 ≤ quantity then
    return {
      tenantId, subjectId, jurisdiction, action, gateId, resource, quantity, source := input, asks }
  else invalid

/-- The properties that every evaluation starts from. -/
def utilityBase (evaluatedAt : Str) : Entries N :=
  [(lit "schema", .string (lit "ct.chlom.protocol.utility-eligibility.v1")),
    (lit "evaluatedAt", .string evaluatedAt),
    (lit "mode", .string (lit "snapshot_evaluation_only")), (lit "eligible", .boolean false),
    (lit "accessGranted", .boolean false), (lit "reservationCreated", .boolean false),
    (lit "debitPerformed", .boolean false), (lit "tokenIssued", .boolean false),
    (lit "reservationAdapterRequired", .boolean true)]

/-- The gate admits the request at a moment. -/
def Gate.admits (gate : Gate N) (input : UtilityInput N) (now : Int) : Bool :=
  gate.id = input.gateId && gate.resource = input.resource &&
    scopeMatches gate.scope input.tenantId input.jurisdiction input.action && gate.window.active now

/-- The snapshot is of the account that a request through the gate is charged to. -/
def Snapshot.covers (snapshot : Snapshot N) (input : UtilityInput N) (gate : Gate N) : Bool :=
  snapshot.tenantId = input.tenantId && snapshot.subjectId = input.subjectId &&
    snapshot.unit = gate.unit

def utilityStatus (input : UtilityInput N) (gate : Gate N) (snapshot : Option (Snapshot N))
    (now : Int) : Str :=
  if gate.maxResourceUnits < input.quantity then lit "quantity_exceeds_gate_limit"
  else
    match snapshot with
    | none => lit "authoritative_snapshot_missing"
    | some snapshot =>
        if snapshot.observation.active now = false then lit "authoritative_snapshot_stale"
        else if gate.id ∉ snapshot.allowedGates then lit "gate_entitlement_missing"
        else if snapshot.availableUnits < input.quantity * gate.unitsPerResource then
          lit "insufficient_units"
        else lit "eligible_pending_reservation"

variable (P : Platform)

def Gate.toResult (gate : Gate N) (input : UtilityInput N) : Value N :=
  .object [(lit "id", .string gate.id), (lit "version", .number gate.version),
    (lit "unit", .string gate.unit),
    (lit "requiredUnits", .string (natText (input.quantity * gate.unitsPerResource))),
    (lit "digest", .string (sha256 P gate.source))]

def Snapshot.toResult (snapshot : Snapshot N) : Value N :=
  .object [(lit "id", .string snapshot.id),
    (lit "observedAt", .string snapshot.observation.start.text),
    (lit "expiresAt", .string snapshot.observation.stop.text),
    (lit "digest", .string (sha256 P snapshot.source))]

/-- The evaluation of a request under a checked registry. -/
def utilityResult (input : UtilityInput N) (registry : UtilityRegistry N) (now : Int) : Entries N :=
  match registry.gates.find? fun gate => gate.admits input now with
  | none => spread (utilityBase (isoText now)) [(lit "status", .string (lit "no_active_gate"))]
  | some gate =>
      let snapshot := registry.snapshots.find? fun snapshot => snapshot.covers input gate
      let status := utilityStatus input gate snapshot now
      let result := spread (utilityBase (isoText now))
        [(lit "status", .string status),
          (lit "eligible", .boolean (decide (status = lit "eligible_pending_reservation"))),
          (lit "gate", gate.toResult P input),
          (lit "snapshot", (snapshot.map (Snapshot.toResult P)).getD .null),
          (lit "inputDigest", .string (sha256 P input.source)),
          (lit "registryDigest", .string (sha256 P registry.source))]
      spread result [(lit "evaluationDigest", .string (sha256 P (.object result)))]

def evaluateUtility (input registry : Value N) (now : N) : Except Thrown (Entries N) := do
  let input ← validateUtilityInput input
  let time ← evaluationTime now
  if registry.truthy = false then
    return spread (utilityBase (isoText time)) [(lit "status", .string (lit "unconfigured"))]
  else
    let registry ← validateUtilityRegistry registry
    return utilityResult P input registry time

theorem evaluateUtility_of_accepted {registry : Value N} {checked : UtilityRegistry N}
    (accepted : validateUtilityRegistry registry = .ok checked) (input : Value N) (now : N) :
    evaluateUtility P input registry now = (do
      let input ← validateUtilityInput input
      let time ← evaluationTime now
      return utilityResult P input checked time) := by
  obtain ⟨entries, _, _, rfl, _⟩ := validateUtilityRegistry_eq_ok.mp accepted
  have present : (Value.object entries).truthy ≠ false := by simp [Value.truthy]
  rw [evaluateUtility]
  simp only [if_neg present, accepted]
  rfl

end Chlom.Protocol
