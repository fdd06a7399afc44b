import Chlom.Evidence.Canonicalize

/-!
# Evidence envelopes

An envelope carries the digests of its request, of its payload and of itself.  They are
the same for all orders of keys as long as the comparison by locale tells the keys
apart; canonically equivalent keys have two texts.
-/

namespace Chlom.Evidence

open Js

variable {N : Type} [Numbers N] (P : Platform)

def CHLOM_EVIDENCE_SCHEMA : Str := lit "ct.chlom.chain-evidence.v1"

/-- What a call takes from the random source, the clock and the environment. -/
structure Call where
  randomUUID : Str
  now : Str
  governanceState : Option Str
  chainWriteEnabled : Option Str

structure Authority where
  riskClass : Str
  mode : Str
  governanceState : Str
  chainWriteEnabled : Bool
  deriving DecidableEq

def Authority.toValue (authority : Authority) : Value N :=
  .object [(lit "riskClass", .string authority.riskClass), (lit "mode", .string authority.mode),
    (lit "governanceState", .string authority.governanceState),
    (lit "chainWriteEnabled", .boolean authority.chainWriteEnabled)]

structure DailProjection where
  eventType : Str
  idempotencyKey : Str
  evidenceDigest : Str
  deriving DecidableEq

structure Envelope (N : Type) where
  schema : Str
  eventId : Str
  observedAt : Str
  source : Value N
  authority : Authority
  requestDigest : Str
  payloadDigest : Str
  evidenceDigest : Str
  payload : Value N
  dailProjection : DailProjection

/-- `${source.name}`. -/
def templateText (value : Option (Value N)) : Str :=
  value.elim (lit "undefined") Value.toText

/-- `process.env.CHLOM_GOVERNANCE_STATE || 'hold'`. -/
def governanceState (configured : Option Str) : Str :=
  match configured with
  | none | some [] => lit "hold"
  | some state => state

def createEvidenceEnvelope (call : Call) (source : Entries N) (request payload : Value N)
    (write : Bool) : Envelope N :=
  let requestDigest := sha256 P request
  let payloadDigest := sha256 P payload
  let authority : Authority := {
    riskClass := if write then lit "D2" else lit "D1"
    mode := if write then lit "governed_broadcast" else lit "read_only"
    governanceState := governanceState call.governanceState
    chainWriteEnabled := call.chainWriteEnabled = some (lit "true") }
  let evidenceDigest := sha256 P (.object [
    (lit "schema", .string CHLOM_EVIDENCE_SCHEMA),
    (lit "eventId", .string call.randomUUID),
    (lit "observedAt", .string call.now),
    (lit "source", .object source),
    (lit "authority", authority.toValue),
    (lit "requestDigest", .string requestDigest),
    (lit "payloadDigest", .string payloadDigest)] : Value N)
  { schema := CHLOM_EVIDENCE_SCHEMA
    eventId := call.randomUUID
    observedAt := call.now
    source := .object source
    authority
    requestDigest
    payloadDigest
    evidenceDigest
    payload
    dailProjection := {
      eventType := lit "chlom.chain." ++ templateText (property source "kind") ++ lit "." ++
        templateText (property source "operation")
      idempotencyKey := evidenceDigest
      evidenceDigest } }

/-! ## The digests of an envelope -/

/-- The three digests of an envelope. -/
def Envelope.digests (envelope : Envelope N) : Str × Str × Str :=
  (envelope.requestDigest, envelope.payloadDigest, envelope.evidenceDigest)

/-- The digest of an envelope reads nothing of its source but the text. -/
theorem createEvidenceEnvelope_digests_congr (call : Call) (write : Bool)
    {source otherSource : Entries N} {request otherRequest payload otherPayload : Value N}
    (sources : canonicalize P (.object otherSource) = canonicalize P (.object source))
    (requests : sha256 P otherRequest = sha256 P request)
    (payloads : sha256 P otherPayload = sha256 P payload) :
    (createEvidenceEnvelope P call otherSource otherRequest otherPayload write).digests =
      (createEvidenceEnvelope P call source request payload write).digests := by
  have entries : ∀ source : Entries N, ∀ before after : Entries N,
      canonicalizeEntries P (before ++ (lit "source", .object source) :: after) =
        canonicalizeEntries P before ++
          (lit "source", canonicalize P (.object source)) :: canonicalizeEntries P after := by
    intro source before after
    simp only [canonicalizeEntries_eq_map, List.map_append, List.map_cons]
  have digest : ∀ before after : Entries N,
      sha256 P (.object (before ++ (lit "source", .object otherSource) :: after)) =
        sha256 P (.object (before ++ (lit "source", .object source) :: after)) := by
    intro before after
    rw [sha256, sha256, canonicalize, canonicalize, entries, entries, sources]
  simp only [Envelope.digests, createEvidenceEnvelope, requests, payloads, Prod.mk.injEq, true_and]
  exact digest [_, _, _] [_, _, _]

/-- The texts and digests of a value are the same for every order of its keys exactly when
none of its objects has two keys, not array indices, that compare as equal; the digests of
an envelope of such values do not depend on the order of their keys either. -/
theorem canonicalize_orderFree_iff :
    (∀ value : Value N, value.WellFormed →
      (OrderFree P value ↔ value.TieFree P.LocaleLe)) ∧
    ∀ (call : Call) (write : Bool) (source otherSource : Entries N)
      (request otherRequest payload otherPayload : Value N),
      (Value.object source).WellFormed → (Value.object source).TieFree P.LocaleLe →
      request.WellFormed → request.TieFree P.LocaleLe →
      payload.WellFormed → payload.TieFree P.LocaleLe →
      (Value.object otherSource).WellFormed → otherRequest.WellFormed → otherPayload.WellFormed →
      (Value.object source).Reordered (· = ·) (.object otherSource) →
      request.Reordered (· = ·) otherRequest → payload.Reordered (· = ·) otherPayload →
      (createEvidenceEnvelope P call otherSource otherRequest otherPayload write).digests =
        (createEvidenceEnvelope P call source request payload write).digests := by
  constructor
  · intro value wellFormed
    exact ⟨tieFree_of_orderFree P wellFormed, orderFree_of_tieFree P wellFormed⟩
  · intro call write source otherSource request otherRequest payload otherPayload sourceFormed
      sourceFree requestFormed requestFree payloadFormed payloadFree otherSourceFormed
      otherRequestFormed otherPayloadFormed sources requests payloads
    apply createEvidenceEnvelope_digests_congr
    · exact (orderFree_of_tieFree P sourceFormed sourceFree _ otherSourceFormed sources).1
    · exact (orderFree_of_tieFree P requestFormed requestFree _ otherRequestFormed requests).2
    · exact (orderFree_of_tieFree P payloadFormed payloadFree _ otherPayloadFormed payloads).2

/-! ## Canonically equivalent keys -/

/-- The letter e with an acute accent as two characters where it is one. -/
def decompose (s : Str) : Str := s.flatMap fun c => if c = 0xE9 then [0x65, 0x301] else [c]

/-- A platform that compares strings by their decomposed characters. -/
def samplePlatform : Platform where
  localeCompare left right := compare (decompose left) (decompose right)
  sha256 bytes := Vector.ofFn fun i => bytes.getD i 0
  preorder := {
    eq_swap := Std.OrientedOrd.eq_swap
    isLE_trans := Std.TransOrd.isLE_trans }

/-- An object with two boolean properties. -/
def flags (first second : Str × Bool) : Value SafeInteger :=
  .object [(first.1, .boolean first.2), (second.1, .boolean second.2)]

theorem flags_wellFormed {first second : Str × Bool} (distinct : first.1 ≠ second.1)
    (plain : arrayIndex second.1 = none) : (flags first second).WellFormed :=
  wellFormed_pair distinct plain (.boolean _) (.boolean _)

theorem flags_tieFree {first second : Str × Bool}
    (apart : ∀ one ∈ [first.1, second.1], ∀ two ∈ [first.1, second.1],
      ¬ Tied samplePlatform.LocaleLe one two) :
    (flags first second).TieFree samplePlatform.LocaleLe := by
  refine .object apart ?_
  intro entry member
  rcases List.mem_pair.mp member with rfl | rfl
  · exact .boolean _
  · exact .boolean _

theorem flags_reordered (first second : Str × Bool) :
    (flags first second).Reordered (· = ·) (flags second first) := by
  have reflexive : ∀ v : Value SafeInteger, v.Reordered (· = ·) v := .refl fun _ => rfl
  exact .object (.swap _ _ _) rfl
    (fun pair member => (mem_zip_self member).1 ▸ reflexive pair.1.2) (.refl _)

def sampleCall : Call where
  randomUUID := lit "00000000-0000-4000-8000-000000000000"
  now := lit "2026-09-20T12:00:00.000Z"
  governanceState := none
  chainWriteEnabled := none

theorem canonicalize_orderFree_iff_flags :
    (OrderFree samplePlatform (flags (lit "b", true) (lit "a", false)) ↔
      (flags (lit "b", true) (lit "a", false)).TieFree samplePlatform.LocaleLe) ∧
    (createEvidenceEnvelope samplePlatform sampleCall [] (flags (lit "a", false) (lit "b", true))
        .null false).digests =
      (createEvidenceEnvelope samplePlatform sampleCall [] (flags (lit "b", true) (lit "a", false))
        .null false).digests := by
  have formed : (flags (lit "b", true) (lit "a", false)).WellFormed :=
    flags_wellFormed (by decide) (by decide +kernel)
  have otherFormed : (flags (lit "a", false) (lit "b", true)).WellFormed :=
    flags_wellFormed (by decide) (by decide +kernel)
  have free : (flags (lit "b", true) (lit "a", false)).TieFree samplePlatform.LocaleLe :=
    flags_tieFree (by decide)
  have emptyFormed : (Value.object [] : Value SafeInteger).WellFormed := .object .nil .nil nofun
  have emptyFree : (Value.object [] : Value SafeInteger).TieFree samplePlatform.LocaleLe :=
    .object nofun nofun
  obtain ⟨values, envelopes⟩ :=
    canonicalize_orderFree_iff (N := SafeInteger) samplePlatform
  exact ⟨values _ formed, envelopes sampleCall false [] [] _ _ .null .null emptyFormed emptyFree formed free
    .null .null emptyFormed otherFormed .null (.object .nil rfl nofun .nil) (flags_reordered _ _)
    .null⟩

/-- The order of two canonically equivalent keys shows in the text and in the digest. -/
theorem equivalent_keys_differ :
    ∃ first second : Str × Bool,
      (flags first second).WellFormed ∧ (flags second first).WellFormed ∧
      (flags first second).Reordered (· = ·) (flags second first) ∧
      canonicalize samplePlatform (flags first second) ≠
        canonicalize samplePlatform (flags second first) ∧
      sha256 samplePlatform (flags first second) ≠ sha256 samplePlatform (flags second first) :=
  ⟨([0xE9], true), ([0x65, 0x301], false), flags_wellFormed (by decide) (by decide +kernel),
    flags_wellFormed (by decide) (by decide +kernel), flags_reordered _ _, by decide +kernel,
    by decide⟩

end Chlom.Evidence
