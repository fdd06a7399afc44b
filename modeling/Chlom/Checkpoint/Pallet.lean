import Chlom.Frame
import Chlom.Library.Checked
import Chlom.Library.StorageMap
import Chlom.Primitives

/-!
# The checkpoint pallet: checkpoints of an event sequence and their anchors

A checkpoint commits to a range of sequence numbers after the range of the
previous one.  An anchor intent names a checkpoint and copies its root, and an
anchor receipt reports that an intent's root was seen on its target network.  The
arguments of a call are an identifier and the fields that the caller supplies.
-/

namespace Chlom.Checkpoint

open Chlom.Frame

structure CheckpointRecord where
  startSequenceId : U64
  endSequenceId : U64
  eventCount : U32
  firstEventHash : Id32
  lastEventHash : Id32
  previousCheckpointRoot : Option Id32
  merkleRoot : Id32
  signatureHash : Id32
  signatureVerified : Bool
  rawPrivateEvidenceIncluded : Bool
  recordHash : Id32
  deriving DecidableEq

/-- What a caller supplies of an anchor intent. -/
structure AnchorIntentDetails where
  checkpointId : Id32
  targetFamily : Id32
  targetNetwork : Id32
  productionGated : Bool
  rawPrivateEvidenceIncluded : Bool
  recordHash : Id32
  deriving DecidableEq

structure AnchorIntent extends AnchorIntentDetails where
  root : Id32
  deriving DecidableEq

/-- What a caller supplies of an anchor receipt. -/
structure AnchorReceiptDetails where
  intentId : Id32
  providerId : Id32
  networkId : Id32
  transactionRefHash : Id32
  blockRefHash : Id32
  providerReceiptHash : Id32
  providerReadbackVerified : Bool
  recordHash : Id32
  deriving DecidableEq

structure AnchorReceipt extends AnchorReceiptDetails where
  root : Id32
  deriving DecidableEq

inductive Event where
  | checkpointRecorded (checkpointId : Id32) (startSequenceId endSequenceId : U64)
      (eventCount : U32) (merkleRoot : Id32) (signatureVerified : Bool)
  | anchorIntentRecorded (intentId checkpointId root : Id32) (productionGated : Bool)
  | anchorReceiptRecorded (receiptId intentId root : Id32) (providerReadbackVerified : Bool)
  deriving DecidableEq

inductive Error where
  | invalidIdentifier | invalidRange | recordAlreadyExists | priorCheckpointMissing
  | priorCheckpointMismatch | checkpointMissing | intentMissing | rootMismatch
  | privateEvidenceForbidden | signatureRequired | providerReadbackRequired | networkMismatch
  deriving DecidableEq, Repr

/-- The pallet's storage together with the events deposited so far. -/
structure Storage where
  checkpoints : StorageMap Id32 CheckpointRecord
  checkpointHead : Option Id32
  anchorIntents : StorageMap Id32 AnchorIntent
  anchorReceipts : StorageMap Id32 AnchorReceipt
  events : List Event

def Storage.empty : Storage where
  checkpoints := .empty
  checkpointHead := none
  anchorIntents := .empty
  anchorReceipts := .empty
  events := []

section Calls

variable {AccountId BlockNumber : Type}

/-- The body of a checkpoint call. -/
abbrev Body (α : Type) :=
  Dispatch Storage (DispatchError Error) α

def depositEvent (event : Event) : Body Unit :=
  .write fun s => { s with events := s.events ++ [event] }

/-- The check of a checkpoint against the previous one. -/
def ensureFollows (value : CheckpointRecord) : Body Unit := do
  match ← Dispatch.read fun s => s.checkpointHead with
  | none => ensure value.previousCheckpointRoot.isNone Error.priorCheckpointMismatch
  | some priorId => do
      let prior ← okOr (← Dispatch.read fun s => s.checkpoints.get priorId)
        Error.priorCheckpointMissing
      ensure (prior.endSequenceId < value.startSequenceId) Error.invalidRange
      ensure (value.previousCheckpointRoot = some prior.merkleRoot)
        Error.priorCheckpointMismatch

/-- The origin is the one configured for checkpoints. -/
def recordCheckpoint (env : Env AccountId BlockNumber) (origin : RawOrigin AccountId)
    (checkpointId : Id32) (value : CheckpointRecord) : Body Unit := do
  ensureOrigin env origin
  ensure (checkpointId ≠ ZERO_ID ∧ value.firstEventHash ≠ ZERO_ID ∧
    value.lastEventHash ≠ ZERO_ID ∧ value.merkleRoot ≠ ZERO_ID ∧
    value.signatureHash ≠ ZERO_ID ∧ value.recordHash ≠ ZERO_ID) Error.invalidIdentifier
  ensure (0 < value.startSequenceId ∧ value.startSequenceId ≤ value.endSequenceId ∧
    0 < value.eventCount) Error.invalidRange
  -- the sequence may have gaps, but the events of a checkpoint fit in its inclusive span
  let span ← okOr ((Checked.sub value.endSequenceId value.startSequenceId).bind fun difference =>
    Checked.add difference 1) Error.invalidRange
  ensure (value.eventCount.setWidth 64 ≤ span) Error.invalidRange
  ensure (if value.eventCount = 1 then
      value.startSequenceId = value.endSequenceId ∧ value.firstEventHash = value.lastEventHash
    else value.firstEventHash ≠ value.lastEventHash) Error.invalidRange
  ensure (← Dispatch.read fun s => s.checkpoints.get checkpointId).isNone
    Error.recordAlreadyExists
  ensure value.signatureVerified Error.signatureRequired
  ensure (¬ value.rawPrivateEvidenceIncluded) Error.privateEvidenceForbidden
  ensureFollows value
  Dispatch.write fun s => { s with checkpoints := s.checkpoints.insert checkpointId value }
  Dispatch.write fun s => { s with checkpointHead := some checkpointId }
  depositEvent (.checkpointRecorded checkpointId value.startSequenceId value.endSequenceId
    value.eventCount value.merkleRoot value.signatureVerified)

/-- The origin is the one configured for anchors. -/
def recordAnchorIntent (env : Env AccountId BlockNumber) (origin : RawOrigin AccountId)
    (intentId : Id32) (details : AnchorIntentDetails) : Body Unit := do
  ensureOrigin env origin
  ensure (intentId ≠ ZERO_ID ∧ details.checkpointId ≠ ZERO_ID ∧
    details.targetFamily ≠ ZERO_ID ∧ details.targetNetwork ≠ ZERO_ID ∧
    details.recordHash ≠ ZERO_ID) Error.invalidIdentifier
  ensure (← Dispatch.read fun s => s.anchorIntents.get intentId).isNone
    Error.recordAlreadyExists
  ensure (¬ details.rawPrivateEvidenceIncluded) Error.privateEvidenceForbidden
  let checkpoint ← okOr (← Dispatch.read fun s => s.checkpoints.get details.checkpointId)
    Error.checkpointMissing
  Dispatch.write fun s => { s with
    anchorIntents := s.anchorIntents.insert intentId
      { details with root := checkpoint.merkleRoot } }
  depositEvent (.anchorIntentRecorded intentId details.checkpointId checkpoint.merkleRoot
    details.productionGated)

/-- The origin is the one configured for anchors. -/
def recordAnchorReceipt (env : Env AccountId BlockNumber) (origin : RawOrigin AccountId)
    (receiptId : Id32) (details : AnchorReceiptDetails) : Body Unit := do
  ensureOrigin env origin
  ensure (receiptId ≠ ZERO_ID ∧ details.intentId ≠ ZERO_ID ∧ details.providerId ≠ ZERO_ID ∧
    details.networkId ≠ ZERO_ID ∧ details.transactionRefHash ≠ ZERO_ID ∧
    details.blockRefHash ≠ ZERO_ID ∧ details.providerReceiptHash ≠ ZERO_ID ∧
    details.recordHash ≠ ZERO_ID) Error.invalidIdentifier
  ensure (← Dispatch.read fun s => s.anchorReceipts.get receiptId).isNone
    Error.recordAlreadyExists
  ensure details.providerReadbackVerified Error.providerReadbackRequired
  let intent ← okOr (← Dispatch.read fun s => s.anchorIntents.get details.intentId)
    Error.intentMissing
  ensure (details.networkId = intent.targetNetwork) Error.networkMismatch
  Dispatch.write fun s => { s with
    anchorReceipts := s.anchorReceipts.insert receiptId { details with root := intent.root } }
  depositEvent (.anchorReceiptRecorded receiptId details.intentId intent.root
    details.providerReadbackVerified)

inductive Call where
  | recordCheckpoint (checkpointId : Id32) (value : CheckpointRecord)
  | recordAnchorIntent (intentId : Id32) (details : AnchorIntentDetails)
  | recordAnchorReceipt (receiptId : Id32) (details : AnchorReceiptDetails)

/-- The body of each call of the pallet.  A submission's verdict is the one of
the origin configured for its call. -/
def pallet : Pallet AccountId BlockNumber Storage Error Call :=
  fun env origin call => match call with
    | .recordCheckpoint checkpointId value => recordCheckpoint env origin checkpointId value
    | .recordAnchorIntent intentId details => recordAnchorIntent env origin intentId details
    | .recordAnchorReceipt receiptId details => recordAnchorReceipt env origin receiptId details

/-- The chain after a list of inputs from empty storage at a genesis block. -/
abbrev run [LinearOrder BlockNumber] (genesis : BlockNumber)
    (inputs : List (Input AccountId BlockNumber Call)) : World BlockNumber Storage :=
  Frame.run pallet ⟨genesis, .empty⟩ inputs

end Calls

end Chlom.Checkpoint
