import Chlom.Evidence.Canonicalize
import Chlom.Protocol.Proofs

/-!
# Inputs of the proof verifier

A proof is verified only against a circuit of an approved registry.  The registry is checked as
a whole at every request, a circuit carries what was checked, and a request that passed is for
a circuit that is active, with one signal in range for each one that was approved.
-/

namespace Chlom.Protocol

open Js Evidence Results

def BN254_FP : Nat :=
  21888242871839275222246405745257275088696311157297823662689037894645226208583

def BN254_FR : Nat :=
  21888242871839275222246405745257275088548364400416034343698204186575808495617

namespace ZK_LIMITS

def publicSignals : Nat := 16
def circuits : Nat := 16
def inputBytes : Nat := 8192
def verificationsPerMinutePerProcess : Nat := 20

end ZK_LIMITS

variable {N : Type}

/-! ## Field values and points -/

/-- A decimal without leading zeros of at most 77 digits. -/
def isFieldString (s : Str) : Bool :=
  decide (s = lit "0") ||
    (s.all isDigit && 1 ≤ s.length && s.length ≤ 77 && decide (s.head? ≠ some (unit '0')))

def scalar (value : Any N) (modulus : Nat) : Except Thrown Nat :=
  match value with
  | some (.string s) =>
      if isFieldString s = true ∧ digitsValue s < modulus then .ok (digitsValue s)
      else invalidWith
        (lit "ZK field values must be canonical unsigned decimal strings within the field.")
  | _ =>
      invalidWith
        (lit "ZK field values must be canonical unsigned decimal strings within the field.")

/-- `value === text`. -/
def isText (value : Any N) (text : String) : Bool :=
  match value with
  | some (.string s) => s = lit text
  | _ => false

def g1 (value : Any N) : Except Thrown Unit := do
  match ← list value 3 3 with
  | [x, y, z] =>
      let _ ← scalar (some x) BN254_FP
      let _ ← scalar (some y) BN254_FP
      if isText (some z) "1" = false ∨
          (isText (some x) "0" = true ∧ isText (some y) "0" = true) then
        invalidWith (lit "Expected a finite affine G1 point.")
      else .ok ()
  | _ => invalid

def fp2 (value : Any N) : Except Thrown (List (Value N)) := do
  let items ← list value 2 2
  let _ ← items.mapM fun item => scalar (some item) BN254_FP
  return items

def g2 (value : Any N) : Except Thrown Unit := do
  let points ← list value 3 3
  match ← points.mapM fun point => fp2 (some point) with
  | [x, y, [real, imaginary]] =>
      if isText (some real) "1" = false ∨ isText (some imaginary) "0" = false ∨
          (x ++ y).all (fun item => isText (some item) "0") = true then
        invalidWith (lit "Expected a finite affine G2 point.")
      else .ok ()
  | _ => invalid

variable [Numbers N]

def verificationKey (key : Any N) (signalCount : Nat) : Except Thrown Unit := do
  let entries ← object key
    ["protocol", "curve", "nPublic", "vk_alpha_1", "vk_beta_2", "vk_gamma_2", "vk_delta_2",
      "vk_alphabeta_12", "IC"]
    ["protocol", "curve", "nPublic", "vk_alpha_1", "vk_beta_2", "vk_gamma_2", "vk_delta_2", "IC"]
  let counted : Bool := match property entries "nPublic" with
    | some (.number count) => Numbers.safeInteger count = some (signalCount : Int)
    | _ => false
  if isText (property entries "protocol") "groth16" = false ∨
      isText (property entries "curve") "bn128" = false ∨ counted = false then
    invalidWith (lit "Only Groth16 on BN254 with an exact public signal count is supported.")
  else
    g1 (property entries "vk_alpha_1")
    g2 (property entries "vk_beta_2")
    g2 (property entries "vk_gamma_2")
    g2 (property entries "vk_delta_2")
    let points ← list (property entries "IC") (signalCount + 1) (signalCount + 1)
    let _ ← points.mapM fun point => g1 (some point)
    match property entries "vk_alphabeta_12" with
    | none => return ()
    | some pairing =>
        let parts ← list (some pairing) 2 2
        let _ ← parts.mapM fun part => do
          let items ← list (some part) 3 3
          items.mapM fun item => fp2 (some item)
        return ()

/-! ## The registry -/

/-- The order of code units, which `sort()` uses for keys. -/
def unitOrder (sha256 : Sha256) : Platform where
  localeCompare := compare
  sha256
  preorder := {
    eq_swap := Std.OrientedOrd.eq_swap
    isLE_trans := Std.TransOrd.isLE_trans }

def zkDigest (sha256 : Sha256) (value : Value N) : Str := Evidence.sha256 (unitOrder sha256) value

structure Signal where
  name : Str
  min : Nat
  max : Nat
  ordered : min ≤ max

/-- Read the signals of a circuit; each name must be new. -/
def validateSignals (names : List Str) : List (Value N) → Except Thrown (List Signal)
  | [] => .ok []
  | signal :: rest => do
      let entries ← object (some signal) ["name", "min", "max"] ["name", "min", "max"]
      let name ← label (property entries "name") false
      if name ∈ names then invalidWith (lit "Public signal names must be unique.")
      else
        let min ← scalar (property entries "min") BN254_FR
        let max ← scalar (property entries "max") BN254_FR
        if ordered : min ≤ max then
          let signals ← validateSignals (name :: names) rest
          return ⟨name, min, max, ordered⟩ :: signals
        else invalidWith (lit "Public signal range is invalid.")

/-- A checked circuit: its key has the digest that was approved. -/
structure Circuit (N : Type) [Numbers N] (sha256 : Sha256) where
  circuitId : Str
  version : N
  circuitDigest : Str
  verificationKey : Value N
  verificationKeyDigest : Str
  approvalReference : Str
  window : Window
  publicSignals : List Signal
  approved : zkDigest sha256 verificationKey = verificationKeyDigest

def positiveVersion (value : Any N) : Except Thrown N :=
  match value with
  | some (.number version) =>
      if ∃ number ∈ Numbers.safeInteger version, 1 ≤ number then .ok version else invalid
  | _ => invalid

/-- Read the circuits of a registry; each identifier with its version must be new. -/
def validateCircuits (sha256 : Sha256) (keys : List Str) :
    List (Value N) → Except Thrown (List (Circuit N sha256))
  | [] => .ok []
  | circuit :: rest => do
      let entries ← object (some circuit)
        ["circuitId", "version", "circuitDigest", "verificationKey", "verificationKeyDigest",
          "approvalReference", "auditReference", "setupReference", "effectiveAt", "expiresAt",
          "publicSignals"]
        ["circuitId", "version", "circuitDigest", "verificationKey", "verificationKeyDigest",
          "approvalReference", "auditReference", "setupReference", "effectiveAt", "expiresAt",
          "publicSignals"]
      let circuitId ← label (property entries "circuitId") false
      let approvalReference ← label (property entries "approvalReference") false
      let _ ← label (property entries "auditReference") false
      let _ ← label (property entries "setupReference") false
      let version ← positiveVersion (property entries "version")
      let circuitDigest ← digest (property entries "circuitDigest")
      let verificationKeyDigest ← digest (property entries "verificationKeyDigest")
      let window ← windowOf entries
      let key := circuitId ++ lit ":" ++ Numbers.text version
      if key ∈ keys then
        invalidWith (lit "Duplicate ZK circuit versions are not permitted.")
      else
        let signals ← list (property entries "publicSignals") ZK_LIMITS.publicSignals 1
        let publicSignals ← validateSignals [] signals
        verificationKey (property entries "verificationKey") signals.length
        match property entries "verificationKey" with
        | none => invalid
        | some found =>
            if approved : zkDigest sha256 found = verificationKeyDigest then
              let circuits ← validateCircuits sha256 (key :: keys) rest
              return {
                circuitId, version, circuitDigest, verificationKey := found, verificationKeyDigest,
                approvalReference, window, publicSignals, approved } :: circuits
            else invalidWith (lit "Configured verification key digest does not match.")

def validateZkRegistry (sha256 : Sha256) (registry : Value N) :
    Except Thrown (List (Circuit N sha256)) := do
  let entries ← object (some registry) ["schema", "circuits"] ["schema", "circuits"]
  if isText (property entries "schema") "ct.chlom.protocol.zk-registry.v1" = false then invalid
  else
    let circuits ← list (property entries "circuits") ZK_LIMITS.circuits 0
    validateCircuits sha256 [] circuits

/-! ## Requests -/

/-- A request of the supported form; `scalars` are the numbers of its signals. -/
structure ZkInput (N : Type) where
  circuitId : Str
  version : N
  proof : Value N
  publicSignals : Value N
  scalars : List Nat

def validateInput (input : Value N) : Except Thrown (ZkInput N) := do
  let entries ← object (some input) ["circuitId", "version", "proof", "publicSignals"]
    ["circuitId", "version", "proof", "publicSignals"]
  if ZK_LIMITS.inputBytes < (utf8 (stringify input)).length then
    invalidWith (lit "The ZK request exceeds its size limit.")
  else
    let circuitId ← label (property entries "circuitId") false
    let version ← positiveVersion (property entries "version")
    let proof ← object (property entries "proof") ["protocol", "curve", "pi_a", "pi_b", "pi_c"]
      ["protocol", "curve", "pi_a", "pi_b", "pi_c"]
    if isText (property proof "protocol") "groth16" = false ∨
        isText (property proof "curve") "bn128" = false then
      invalidWith (lit "Only Groth16 on BN254 is supported.")
    else
      g1 (property proof "pi_a")
      g2 (property proof "pi_b")
      g1 (property proof "pi_c")
      let signals ← list (property entries "publicSignals") ZK_LIMITS.publicSignals 1
      let scalars ← signals.mapM fun value => scalar (some value) BN254_FR
      return {
        circuitId, version, proof := .object proof, publicSignals := .array signals, scalars }

def unavailable (code message : Str) : ChlomError := ⟨code, message, 503⟩

/-- A verification that was let through: the circuit is active at the time of the evaluation and
every signal lies in its range. -/
structure Job (N : Type) [Numbers N] (sha256 : Sha256) where
  circuit : Circuit N sha256
  input : ZkInput N
  now : Int
  active : circuit.window.active now = true
  counted : input.scalars.length = circuit.publicSignals.length
  inRange : ∀ pair ∈ input.scalars.zip circuit.publicSignals,
    pair.2.min ≤ pair.1 ∧ pair.1 ≤ pair.2.max

/-- What `verifyZkProof` checks before it starts a worker. -/
def acceptProof (sha256 : Sha256) (input registry : Value N) (now : N) :
    Except Thrown (Job N sha256) := do
  let input ← validateInput input
  let time ← evaluationTime now
  if registry.truthy = false then
    .error (.chlom (unavailable (lit "CHLOM_ZK_UNCONFIGURED")
      (lit "No approved ZK circuit registry is configured.")))
  else
    let circuits ← validateZkRegistry sha256 registry
    let found := circuits.find? fun circuit => circuit.circuitId = input.circuitId &&
      Numbers.safeInteger circuit.version = Numbers.safeInteger input.version
    match found with
    | none =>
        .error (.chlom (unavailable (lit "CHLOM_ZK_CIRCUIT_UNAVAILABLE")
          (lit "The requested circuit version is not active.")))
    | some circuit =>
        if active : circuit.window.active time = true then
          if counted : input.scalars.length = circuit.publicSignals.length then
            if inRange : ∀ pair ∈ input.scalars.zip circuit.publicSignals,
                pair.2.min ≤ pair.1 ∧ pair.1 ≤ pair.2.max then
              return ⟨circuit, input, time, active, counted, inRange⟩
            else invalidWith (lit "A public signal is outside its approved range.")
          else invalidWith (lit "The public signal count does not match the approved circuit.")
        else
          .error (.chlom (unavailable (lit "CHLOM_ZK_CIRCUIT_UNAVAILABLE")
            (lit "The requested circuit version is not active.")))

/-- A verification is of a circuit that the registry has under the identifier and version of the
request, at the time of the evaluation. -/
structure Approved (sha256 : Sha256) (input registry : Value N) (now : N) (job : Job N sha256) :
    Prop where
  read : validateInput input = .ok job.input
  evaluated : evaluationTime now = .ok job.now
  registered : ∃ circuits, validateZkRegistry sha256 registry = .ok circuits ∧
    job.circuit ∈ circuits
  named : job.circuit.circuitId = job.input.circuitId ∧
    Numbers.safeInteger job.circuit.version = Numbers.safeInteger job.input.version

theorem approved_of_ok {sha256 : Sha256} {input registry : Value N} {now : N}
    {job : Job N sha256} (accepted : acceptProof sha256 input registry now = .ok job) :
    Approved sha256 input registry now job := by
  unfold acceptProof at accepted
  obtain ⟨parsed, read, accepted⟩ := bind_eq_ok.mp accepted
  obtain ⟨time, evaluated, accepted⟩ := bind_eq_ok.mp accepted
  split at accepted
  · cases accepted
  · obtain ⟨circuits, checked, accepted⟩ := bind_eq_ok.mp accepted
    dsimp only at accepted
    split at accepted
    · cases accepted
    · rename_i circuit found
      have named := List.find?_some found
      split at accepted
      · split at accepted
        · split at accepted
          · cases accepted
            exact ⟨read, evaluated, ⟨circuits, checked, List.mem_of_find?_eq_some found⟩,
              by simpa using named⟩
          · cases accepted
        · cases accepted
      · cases accepted

end Chlom.Protocol
