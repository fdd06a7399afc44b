import Chlom.Library.Js.JsonOrder
import Chlom.Library.Results
import Chlom.Primitives
import Chlom.Protocol.Validation
import Mathlib.Data.List.Lex

/-!
# Salted commitments to private evidence

Private evidence is hashed locally from its canonical text.  A commitment hashes the
digests of the evidence and of its context with a salt of 32 bytes.
-/

namespace Chlom.Protocol

open Js

def SCHEMA : Str := lit "ct.chlom.protocol.salted-commitment.v1"
def DOMAIN : Str := lit "CHLOM:salted-evidence-commitment:v1"
def LIMIT : Nat := 64 * 1024

variable {N : Type} [Numbers N]

/-! ## Canonical texts -/

/-- The order of keys by their code units, which `sort()` uses. -/
abbrev UnitsLe (first second : Str) : Prop := first ≤ second

def nestingLimit (depth : Nat) : Except Thrown Unit :=
  if 20 < depth then invalidWith (lit "Private evidence exceeds the nesting limit.") else .ok ()

mutual

/-- The sort reads the keys only, so each key carries the attempt to write its value; the
attempts are made in sorted order. -/
def canonical (depth : Nat) : Value N → Except Thrown Str
  | .null => do
      nestingLimit depth
      return stringify (.null : Value N)
  | .string s => do
      nestingLimit depth
      return stringify (.string s : Value N)
  | .boolean b => do
      nestingLimit depth
      return stringify (.boolean b : Value N)
  | .number n => do
      nestingLimit depth
      if Numbers.isFinite n = true then
        return stringify (.number n)
      else invalidWith (lit "Private evidence must contain only JSON values.")
  | .array items => do
      nestingLimit depth
      if LIMIT < items.length then
        invalidWith (lit "Private evidence arrays must be dense JSON arrays.")
      else
        let texts ← canonicalItems (depth + 1) items
        return lit "[" ++ commaJoin texts ++ lit "]"
  | .object entries => do
      nestingLimit depth
      let texts ← (sortByKey UnitsLe (canonicalEntries (depth + 1) entries)).mapM
        fun (key, attempt) => do
          let text ← attempt
          return quote key ++ lit ":" ++ text
      return lit "\x7b" ++ commaJoin texts ++ lit "\x7d"

def canonicalItems (depth : Nat) : List (Value N) → Except Thrown (List Str)
  | [] => .ok []
  | item :: rest => do
      let text ← canonical depth item
      let texts ← canonicalItems depth rest
      return text :: texts

def canonicalEntries (depth : Nat) : Entries N → List (Str × Except Thrown Str)
  | [] => []
  | (key, value) :: rest => (key, canonical depth value) :: canonicalEntries depth rest

end

/-! ## Salts -/

/-- A text of 32 bytes as the code writes them. -/
structure Salt where
  text : Str
  bytes : List UInt8
  length : bytes.length = 32
  encoded : base64url bytes = text

def saltBytes (value : Any N) : Except Thrown Salt :=
  match value with
  | some (.string text) =>
      if text.length = 43 ∧ text.all (fun c => base64Alphabet.contains c) = true then
        if checked : (base64urlBytes text).length = 32 ∧ base64url (base64urlBytes text) = text then
          .ok ⟨text, base64urlBytes text, checked.1, checked.2⟩
        else invalid
      else invalidWith (lit "The salt must encode 32 random bytes as base64url.")
  | _ => invalidWith (lit "The salt must encode 32 random bytes as base64url.")

/-! ## Hashes and commitments -/

/-- The digest of a byte string, which is taken from the platform. -/
abbrev Sha256 := List UInt8 → Id32

def hashPrivateEvidenceLocally (sha256 : Sha256) (evidence : Value N) : Except Thrown Str := do
  let encoded ← canonical 0 evidence
  if LIMIT < (utf8 encoded).length then
    invalidWith (lit "Private evidence exceeds the local hashing limit.")
  else return hexText (sha256 (utf8 encoded)).toList

structure PublicCommitment where
  schema : Str
  algorithm : Str
  contextDigest : Str
  commitment : Str
  deriving DecidableEq

structure PrivateOpening where
  evidenceDigest : Str
  salt : Str
  deriving DecidableEq

structure DigestCommitment where
  publicCommitment : PublicCommitment
  privateOpening : PrivateOpening
  zeroKnowledgeProof : Bool
  onChain : Bool
  deriving DecidableEq

/-- The bytes that a commitment hashes. -/
def commitmentBytes (contextDigest evidenceDigest : Str) (salt : List UInt8) : List UInt8 :=
  utf8 DOMAIN ++ [0] ++ hexBytes contextDigest ++ salt ++ hexBytes evidenceDigest

/-- The commitment to checked digests under a salt. -/
def commitmentOf (sha256 : Sha256) (contextDigest evidenceDigest : Str) (salt : Salt) :
    DigestCommitment where
  publicCommitment := {
    schema := SCHEMA
    algorithm := lit "SHA-256"
    contextDigest
    commitment := hexText (sha256 (commitmentBytes contextDigest evidenceDigest salt.bytes)).toList }
  privateOpening := { evidenceDigest, salt := salt.text }
  zeroKnowledgeProof := false
  onChain := false

/-- The salt of an input, fresh where the input has none. -/
def saltOf (random : Id32) (entries : Entries N) : Any N :=
  match property entries "salt" with
  | none => some (.string (base64url random.toList))
  | some value => some value

/-- `random` are the 32 bytes of the random source. -/
def createDigestCommitment (sha256 : Sha256) (random : Id32) (input : Any N) :
    Except Thrown DigestCommitment := do
  let entries ← object input ["evidenceDigest", "contextDigest", "salt"]
    ["evidenceDigest", "contextDigest"]
  let evidenceDigest ← digest (property entries "evidenceDigest")
  let contextDigest ← digest (property entries "contextDigest")
  let salt ← saltBytes (saltOf random entries)
  return commitmentOf sha256 contextDigest evidenceDigest salt

def createLocalCommitment (sha256 : Sha256) (random : Id32) (evidence context : Value N) :
    Except Thrown DigestCommitment := do
  let evidenceDigest ← hashPrivateEvidenceLocally sha256 evidence
  let contextDigest ← hashPrivateEvidenceLocally sha256 context
  createDigestCommitment sha256 random (some (.object
    [(lit "evidenceDigest", .string evidenceDigest), (lit "contextDigest", .string contextDigest)] :
    Value N))

/-- A public commitment as a JSON object. -/
def PublicCommitment.toValue (claim : PublicCommitment) : Value N :=
  .object [(lit "schema", .string claim.schema), (lit "algorithm", .string claim.algorithm),
    (lit "contextDigest", .string claim.contextDigest), (lit "commitment", .string claim.commitment)]

/-- A private opening as a JSON object. -/
def PrivateOpening.toValue (opening : PrivateOpening) : Value N :=
  .object [(lit "evidenceDigest", .string opening.evidenceDigest), (lit "salt", .string opening.salt)]

structure CommitmentVerification where
  schema : Str
  valid : Bool
  verificationType : Str
  zeroKnowledgeProof : Bool
  ownershipVerified : Bool
  evidenceTruthVerified : Bool
  onChain : Bool
  deriving DecidableEq

def verificationOf (valid : Bool) : CommitmentVerification where
  schema := lit "ct.chlom.protocol.commitment-verification.v1"
  valid
  verificationType := lit "salted_hash_opening"
  zeroKnowledgeProof := false
  ownershipVerified := false
  evidenceTruthVerified := false
  onChain := false

/-- `timingSafeEqual`, which throws on buffers of different lengths. -/
def timingSafeEqual (first second : List UInt8) : Except Thrown Bool :=
  if first.length = second.length then .ok (decide (first = second)) else .error .rangeError

def verifyDigestCommitment (sha256 : Sha256) (random : Id32) (input : Any N) :
    Except Thrown CommitmentVerification := do
  let entries ← object input ["publicCommitment", "privateOpening"]
    ["publicCommitment", "privateOpening"]
  let claim ← object (property entries "publicCommitment")
    ["schema", "algorithm", "contextDigest", "commitment"]
    ["schema", "algorithm", "contextDigest", "commitment"]
  let opening ← object (property entries "privateOpening") ["evidenceDigest", "salt"]
    ["evidenceDigest", "salt"]
  match property claim "schema", property claim "algorithm" with
  | some (.string schema), some (.string algorithm) =>
      if schema ≠ SCHEMA ∨ algorithm ≠ lit "SHA-256" then invalid
      else
        let commitment ← digest (property claim "commitment")
        let actual ← createDigestCommitment sha256 random (some (.object
          (opening ++ (property claim "contextDigest").toList.map (Prod.mk (lit "contextDigest")))))
        let valid ← timingSafeEqual (hexBytes actual.publicCommitment.commitment)
          (hexBytes commitment)
        return verificationOf valid
  | _, _ => invalid

end Chlom.Protocol
