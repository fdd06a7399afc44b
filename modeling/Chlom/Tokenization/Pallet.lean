import Chlom.Frame
import Chlom.Library.StorageMap
import Chlom.Primitives

/-!
# The tokenization pallet: classes, adapters, objects and provider events

A tokenized object belongs to a token class.  What providers report of the object
is recorded as events, and the latest event other than a failure observation
decides which event may come next.
-/

namespace Chlom.Tokenization

open Chlom.Frame

inductive TokenEventType where
  | candidateRegistered | testnetMintConfirmed | productionMintConfirmed | transferConfirmed
  | suspended | revoked | burnConfirmed | providerFailure
  deriving DecidableEq, Repr

/-- A provider confirmed a new token. -/
def TokenEventType.Mint (eventType : TokenEventType) : Prop :=
  eventType = .testnetMintConfirmed ∨ eventType = .productionMintConfirmed

instance (eventType : TokenEventType) : Decidable eventType.Mint :=
  inferInstanceAs (Decidable (_ ∨ _))

structure TokenClass where
  kind : TokenClassKind
  transferable : Bool
  rightsSemanticsHash : Id32
  legalApprovedPublic : Bool
  issuanceState : ExternalIssuanceState
  recordHash : Id32
  deriving DecidableEq

structure ChainAdapter where
  networkId : Id32
  implementationHash : Id32
  testnetAllowed : Bool
  productionCertified : Bool
  providerReadbackRequired : Bool
  recordHash : Id32
  deriving DecidableEq

/-- What a caller supplies of a tokenized object. -/
structure ObjectDetails where
  tokenClassId : Id32
  sourceObjectType : Id32
  sourceObjectId : Id32
  sourceVersionHash : Id32
  canonicalAssetId : Option Id32
  dlaId : Option Id32
  entitlementId : Option Id32
  initialHolderSubjectId : Id32
  metadataHash : Id32
  recordHash : Id32
  deriving DecidableEq

structure TokenizedObject extends ObjectDetails where
  rightsSemanticsHash : Id32
  externalChainTransaction : Bool
  rawPrivateEvidenceEmbedded : Bool
  deriving DecidableEq

/-- What a caller supplies of a provider event. -/
structure ProviderEvent where
  tokenizedObjectId : Id32
  eventType : TokenEventType
  fromSubjectId : Option Id32
  toSubjectId : Option Id32
  chainAdapterId : Option Id32
  contractRefHash : Option Id32
  tokenIdHash : Option Id32
  providerReceiptHash : Option Id32
  rightsEffectHash : Id32
  recordHash : Id32
  deriving DecidableEq

structure TokenEventRecord extends ProviderEvent where
  providerReadbackVerified : Bool
  deriving DecidableEq

inductive Event where
  | tokenClassRecorded (tokenClassId : Id32) (kind : TokenClassKind)
      (issuanceState : ExternalIssuanceState) (recordHash : Id32)
  | chainAdapterRecorded (chainAdapterId networkId : Id32)
      (testnetAllowed productionCertified : Bool) (recordHash : Id32)
  | tokenizedObjectRegistered (tokenizedObjectId tokenClassId initialHolderSubjectId : Id32)
      (recordHash : Id32)
  | tokenEventRecorded (tokenEventId tokenizedObjectId : Id32) (eventType : TokenEventType)
      (providerReadbackVerified : Bool) (recordHash : Id32)
  deriving DecidableEq

inductive Error where
  | invalidIdentifier | recordAlreadyExists | tokenClassMissing | tokenizedObjectMissing
  | chainAdapterMissing | testnetAdapterNotCertified | productionMintNotCertified
  | transferForbidden | providerReceiptRequired | priorProviderMintRequired
  | invalidEventTransition | tokenBindingMismatch | tokenHolderMismatch | tokenClassInactive
  deriving DecidableEq, Repr

/-- The pallet's storage together with the events deposited so far. -/
structure Storage where
  tokenClasses : StorageMap Id32 TokenClass
  chainAdapters : StorageMap Id32 ChainAdapter
  tokenizedObjects : StorageMap Id32 TokenizedObject
  tokenEvents : StorageMap Id32 TokenEventRecord
  latestTokenEvent : StorageMap Id32 Id32
  events : List Event

def Storage.empty : Storage where
  tokenClasses := .empty
  chainAdapters := .empty
  tokenizedObjects := .empty
  tokenEvents := .empty
  latestTokenEvent := .empty
  events := []

section Calls

variable {AccountId BlockNumber : Type}

/-- The body of a tokenization call. -/
abbrev Body (α : Type) :=
  Dispatch Storage (DispatchError Error) α

def depositEvent (event : Event) : Body Unit :=
  .write fun s => { s with events := s.events ++ [event] }

/-- The kinds of class whose tokens never move. -/
def TokenClass.Bound (value : TokenClass) : Prop :=
  value.kind = .nonTransferableCredential ∨ value.kind = .entitlement ∨
    value.kind = .provenanceCertificate

instance (value : TokenClass) : Decidable value.Bound :=
  inferInstanceAs (Decidable (_ ∨ _))

/-- The origin is the one configured for tokens, as in every call below. -/
def recordTokenClass (env : Env AccountId BlockNumber) (origin : RawOrigin AccountId)
    (tokenClassId : Id32) (value : TokenClass) : Body Unit := do
  ensureOrigin env origin
  ensure (tokenClassId ≠ ZERO_ID ∧ value.rightsSemanticsHash ≠ ZERO_ID ∧
    value.recordHash ≠ ZERO_ID) Error.invalidIdentifier
  ensure (← Dispatch.read fun s => s.tokenClasses.get tokenClassId).isNone
    Error.recordAlreadyExists
  Dispatch.onlyIf value.Bound (ensure (¬ value.transferable) Error.transferForbidden)
  Dispatch.write fun s => { s with tokenClasses := s.tokenClasses.insert tokenClassId value }
  depositEvent (.tokenClassRecorded tokenClassId value.kind value.issuanceState value.recordHash)

def recordChainAdapter (env : Env AccountId BlockNumber) (origin : RawOrigin AccountId)
    (chainAdapterId : Id32) (value : ChainAdapter) : Body Unit := do
  ensureOrigin env origin
  ensure (chainAdapterId ≠ ZERO_ID ∧ value.networkId ≠ ZERO_ID ∧
    value.implementationHash ≠ ZERO_ID ∧ value.recordHash ≠ ZERO_ID) Error.invalidIdentifier
  ensure (← Dispatch.read fun s => s.chainAdapters.get chainAdapterId).isNone
    Error.recordAlreadyExists
  Dispatch.write fun s => { s with
    chainAdapters := s.chainAdapters.insert chainAdapterId value }
  depositEvent (.chainAdapterRecorded chainAdapterId value.networkId value.testnetAllowed
    value.productionCertified value.recordHash)

def registerTokenizedObject (env : Env AccountId BlockNumber) (origin : RawOrigin AccountId)
    (tokenizedObjectId : Id32) (details : ObjectDetails) : Body Unit := do
  ensureOrigin env origin
  ensure (tokenizedObjectId ≠ ZERO_ID ∧ details.tokenClassId ≠ ZERO_ID ∧
    details.sourceObjectType ≠ ZERO_ID ∧ details.sourceObjectId ≠ ZERO_ID ∧
    details.sourceVersionHash ≠ ZERO_ID ∧ details.initialHolderSubjectId ≠ ZERO_ID ∧
    details.metadataHash ≠ ZERO_ID ∧ details.recordHash ≠ ZERO_ID) Error.invalidIdentifier
  ensure (← Dispatch.read fun s => s.tokenizedObjects.get tokenizedObjectId).isNone
    Error.recordAlreadyExists
  let class' ← okOr (← Dispatch.read fun s => s.tokenClasses.get details.tokenClassId)
    Error.tokenClassMissing
  Dispatch.write fun s => { s with
    tokenizedObjects := s.tokenizedObjects.insert tokenizedObjectId
      { details with
        rightsSemanticsHash := class'.rightsSemanticsHash
        externalChainTransaction := false
        rawPrivateEvidenceEmbedded := false } }
  depositEvent (.tokenizedObjectRegistered tokenizedObjectId details.tokenClassId
    details.initialHolderSubjectId details.recordHash)

/-! ### Provider events -/

/-- A value is given and is not the zero identifier. -/
def Supplied (value : Option Id32) : Prop :=
  value.any (fun found => found ≠ ZERO_ID) = true

instance (value : Option Id32) : Decidable (Supplied value) :=
  inferInstanceAs (Decidable (_ = true))

/-- The object is revoked or burned. -/
def Ended (prior : TokenEventRecord) : Prop :=
  prior.eventType = .revoked ∨ prior.eventType = .burnConfirmed

/-- The token was minted and is held by someone. -/
def Held (prior : TokenEventRecord) : Prop :=
  prior.eventType = .testnetMintConfirmed ∨ prior.eventType = .productionMintConfirmed ∨
    prior.eventType = .transferConfirmed

instance (prior : TokenEventRecord) : Decidable (Ended prior) :=
  inferInstanceAs (Decidable (_ ∨ _))

instance (prior : TokenEventRecord) : Decidable (Held prior) :=
  inferInstanceAs (Decidable (_ ∨ _))

def ensureReceipt (details : ProviderEvent) : Body Unit :=
  ensure (Supplied details.providerReceiptHash) Error.providerReceiptRequired

def validateMint (prior : Option TokenEventRecord) (object : TokenizedObject)
    (details : ProviderEvent) : Body Unit := do
  ensure (∀ value, prior = some value → value.eventType = .candidateRegistered)
    Error.invalidEventTransition
  ensure (details.fromSubjectId.isNone ∧
    details.toSubjectId = some object.initialHolderSubjectId) Error.tokenHolderMismatch
  ensure (Supplied details.contractRefHash ∧ Supplied details.tokenIdHash)
    Error.tokenBindingMismatch

def validateProviderBinding (prior : Option TokenEventRecord) (details : ProviderEvent) :
    Body Unit := do
  let prior ← okOr prior Error.priorProviderMintRequired
  ensure (Held prior) Error.priorProviderMintRequired
  ensure (details.chainAdapterId.isSome ∧ details.chainAdapterId = prior.chainAdapterId ∧
    Supplied details.contractRefHash ∧ details.contractRefHash = prior.contractRefHash ∧
    Supplied details.tokenIdHash ∧ details.tokenIdHash = prior.tokenIdHash)
    Error.tokenBindingMismatch
  ensure (Supplied details.fromSubjectId ∧ details.fromSubjectId = prior.toSubjectId)
    Error.tokenHolderMismatch

/-- The adapter that a mint names. -/
def mintAdapter (details : ProviderEvent) : Body ChainAdapter := do
  let adapterId ← okOr details.chainAdapterId Error.chainAdapterMissing
  okOr (← Dispatch.read fun s => s.chainAdapters.get adapterId) Error.chainAdapterMissing

/-- The check of an event against the latest one.  The answer says whether a
provider verified the event. -/
def validateEvent (prior : Option TokenEventRecord) (object : TokenizedObject)
    (class' : TokenClass) (details : ProviderEvent) : Body Bool :=
  match details.eventType with
  | .candidateRegistered => do
      ensure prior.isNone Error.invalidEventTransition
      pure false
  | .suspended | .revoked => do
      ensure (∀ value, prior = some value → ¬ Ended value) Error.invalidEventTransition
      pure false
  | .providerFailure => do
      ensureReceipt details
      pure false
  | .testnetMintConfirmed => do
      ensure (class'.issuanceState = .testnetEligible ∨
        class'.issuanceState = .productionEligible) Error.tokenClassInactive
      validateMint prior object details
      let adapter ← mintAdapter details
      ensure adapter.testnetAllowed Error.testnetAdapterNotCertified
      ensureReceipt details
      pure true
  | .productionMintConfirmed => do
      validateMint prior object details
      let adapter ← mintAdapter details
      ensure (adapter.productionCertified ∧ class'.legalApprovedPublic ∧
        class'.issuanceState = .productionEligible) Error.productionMintNotCertified
      ensureReceipt details
      pure true
  | .transferConfirmed => do
      ensure class'.transferable Error.transferForbidden
      ensure (¬ (class'.issuanceState = .suspended ∨ class'.issuanceState = .retired))
        Error.tokenClassInactive
      validateProviderBinding prior details
      ensure (Supplied details.toSubjectId ∧ details.fromSubjectId ≠ details.toSubjectId)
        Error.tokenHolderMismatch
      ensureReceipt details
      pure true
  | .burnConfirmed => do
      validateProviderBinding prior details
      ensure details.toSubjectId.isNone Error.tokenHolderMismatch
      ensureReceipt details
      pure true

def recordProviderEvent (env : Env AccountId BlockNumber) (origin : RawOrigin AccountId)
    (tokenEventId : Id32) (details : ProviderEvent) : Body Unit := do
  ensureOrigin env origin
  ensure (tokenEventId ≠ ZERO_ID ∧ details.tokenizedObjectId ≠ ZERO_ID ∧
    details.rightsEffectHash ≠ ZERO_ID ∧ details.recordHash ≠ ZERO_ID) Error.invalidIdentifier
  ensure (← Dispatch.read fun s => s.tokenEvents.get tokenEventId).isNone
    Error.recordAlreadyExists
  let object ← okOr (← Dispatch.read fun s => s.tokenizedObjects.get details.tokenizedObjectId)
    Error.tokenizedObjectMissing
  let class' ← okOr (← Dispatch.read fun s => s.tokenClasses.get object.tokenClassId)
    Error.tokenClassMissing
  let prior ← Dispatch.read fun s =>
    (s.latestTokenEvent.get details.tokenizedObjectId).bind s.tokenEvents.get
  let providerVerified ← validateEvent prior object class' details
  Dispatch.write fun s => { s with
    tokenEvents := s.tokenEvents.insert tokenEventId
      { details with providerReadbackVerified := providerVerified } }
  -- failure observations stay in the history without becoming the latest event
  Dispatch.onlyIf (details.eventType ≠ .providerFailure) (Dispatch.write fun s => { s with
    latestTokenEvent := s.latestTokenEvent.insert details.tokenizedObjectId tokenEventId })
  depositEvent (.tokenEventRecorded tokenEventId details.tokenizedObjectId details.eventType
    providerVerified details.recordHash)

inductive Call where
  | recordTokenClass (tokenClassId : Id32) (value : TokenClass)
  | recordChainAdapter (chainAdapterId : Id32) (value : ChainAdapter)
  | registerTokenizedObject (tokenizedObjectId : Id32) (details : ObjectDetails)
  | recordProviderEvent (tokenEventId : Id32) (details : ProviderEvent)

/-- The body of each call of the pallet. -/
def pallet : Pallet AccountId BlockNumber Storage Error Call :=
  fun env origin call => match call with
    | .recordTokenClass tokenClassId value => recordTokenClass env origin tokenClassId value
    | .recordChainAdapter chainAdapterId value =>
        recordChainAdapter env origin chainAdapterId value
    | .registerTokenizedObject tokenizedObjectId details =>
        registerTokenizedObject env origin tokenizedObjectId details
    | .recordProviderEvent tokenEventId details =>
        recordProviderEvent env origin tokenEventId details

/-- The chain after a list of inputs from empty storage at a genesis block. -/
abbrev run [LinearOrder BlockNumber] (genesis : BlockNumber)
    (inputs : List (Input AccountId BlockNumber Call)) : World BlockNumber Storage :=
  Frame.run pallet ⟨genesis, .empty⟩ inputs

end Calls

end Chlom.Tokenization
