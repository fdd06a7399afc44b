import Chlom.Frame
import Chlom.Library.Checked
import Chlom.Library.StorageMap
import Chlom.Library.VersionTable
import Chlom.Primitives

/-!
# The utility pallet: nontransferable service-resource accounting

Accounts hold units of a resource.  A privileged origin allocates units and
approves or revokes dated service versions; an account reserves units at the
price of the active version and later consumes or releases each reservation.
Every accepted operation appends a receipt to one global hash chain.
-/

namespace Chlom.Utility

open Chlom.Frame

structure ResourceBalance where
  allocated : U128
  available : U128
  reserved : U128
  consumed : U128
  deriving DecidableEq, Repr

def ResourceBalance.zero : ResourceBalance := ⟨0, 0, 0, 0⟩

structure ServiceVersion (BlockNumber : Type) where
  resourceId : Id32
  unitsPerAction : U128
  effectiveFrom : BlockNumber
  effectiveUntil : BlockNumber
  approvalHash : Id32
  recordedAt : BlockNumber
  deriving DecidableEq

instance {BlockNumber : Type} : DatedTerms (ServiceVersion BlockNumber) BlockNumber where
  effectiveFrom := ServiceVersion.effectiveFrom
  effectiveUntil := ServiceVersion.effectiveUntil
  recordedAt := ServiceVersion.recordedAt

structure ServiceRevocation (BlockNumber : Type) where
  approvalHash : Id32
  reasonHash : Id32
  revokedAt : BlockNumber
  deriving DecidableEq

structure Reservation (AccountId : Type) where
  owner : AccountId
  resourceId : Id32
  serviceId : Id32
  serviceVersion : U32
  quantity : U128
  units : U128
  deriving DecidableEq

inductive OperationKind where
  | allocate | reserve | consume | release
  deriving DecidableEq, Repr

structure ResourceReceipt (AccountId BlockNumber : Type) where
  sequence : U64
  requestHash : Id32
  kind : OperationKind
  account : AccountId
  resourceId : Id32
  reservationId : Option Id32
  units : U128
  approvalHash : Option Id32
  balanceAfter : ResourceBalance
  recordedAt : BlockNumber
  previousHash : Id32
  receiptHash : Id32
  deriving DecidableEq

/-- The pallet's constant, and the host's BLAKE2-256. -/
structure Config where
  maxServiceVersions : U32
  blake2_256 : List UInt8 → Id32

inductive Event (AccountId : Type) where
  | serviceApproved (serviceId : Id32) (version : U32) (resourceId : Id32) (unitsPerAction : U128)
  | serviceRevoked (serviceId : Id32) (version : U32) (reasonHash : Id32)
  | resourceOperation (operationId : Id32) (sequence : U64) (account : AccountId)
      (kind : OperationKind) (resourceId : Id32) (units : U128) (receiptHash : Id32)
  deriving DecidableEq

inductive Error where
  | invalidIdentifier | zeroUnits | invalidInterval | versionOutOfSequence | versionConflict
  | versionLimit | effectiveTimeRegression | serviceMissing | serviceInactive | alreadyRevoked
  | arithmeticFailure | insufficientUnits | operationConflict | reservationMissing
  | notReservationOwner | reservationClosed
  deriving DecidableEq, Repr

/-- The pallet's storage together with the events deposited so far. -/
structure Storage (T : Config) (AccountId BlockNumber : Type) where
  balances : StorageMap (AccountId × Id32) ResourceBalance
  services : StorageMap (Id32 × U32) (ServiceVersion BlockNumber)
  serviceIndex : StorageMap Id32 (BoundedVec U32 T.maxServiceVersions.toNat)
  serviceRevocations : StorageMap (Id32 × U32) (ServiceRevocation BlockNumber)
  reservations : StorageMap (AccountId × Id32) (Reservation AccountId)
  reservationClosures : StorageMap (AccountId × Id32) Id32
  receipts : StorageMap (AccountId × Id32) (ResourceReceipt AccountId BlockNumber)
  receiptIndex : StorageMap U64 (AccountId × Id32)
  receiptCount : U64
  receiptHead : Id32
  events : List (Event AccountId)

def Storage.empty (T : Config) (AccountId BlockNumber : Type) :
    Storage T AccountId BlockNumber where
  balances := .empty
  services := .empty
  serviceIndex := .empty
  serviceRevocations := .empty
  reservations := .empty
  reservationClosures := .empty
  receipts := .empty
  receiptIndex := .empty
  receiptCount := 0
  receiptHead := ZERO_ID
  events := []

/-! ## SCALE encodings of the hashed values -/

section Encodings

variable {AccountId BlockNumber : Type}

def OperationKind.tag : OperationKind → UInt8
  | .allocate => 0
  | .reserve => 1
  | .consume => 2
  | .release => 3

instance : Encode OperationKind :=
  .ofInjective OperationKind.tag (by
    intro first second equal
    cases first <;> cases second <;> first | rfl | exact absurd equal (by decide))

instance : Encode ResourceBalance :=
  .ofInjective (fun b => (b.allocated, b.available, b.reserved, b.consumed)) (by
    rintro ⟨⟩ ⟨⟩ equal
    simpa using equal)

instance [Encode AccountId] [Encode BlockNumber] :
    Encode (ResourceReceipt AccountId BlockNumber) :=
  .ofInjective
    (fun r => (r.sequence, r.requestHash, r.kind, r.account, r.resourceId, r.reservationId,
      r.units, r.approvalHash, r.balanceAfter, r.recordedAt, r.previousHash, r.receiptHash)) (by
    rintro ⟨⟩ ⟨⟩ equal
    simpa using equal)

end Encodings

section Calls

variable {T : Config} {AccountId BlockNumber : Type}

/-- The balance of an account on a resource, zero until the first write. -/
def Storage.balance (s : Storage T AccountId BlockNumber) (account : AccountId)
    (resourceId : Id32) : ResourceBalance :=
  s.balances.getD (account, resourceId) .zero

/-- The approved versions of one service. -/
def Storage.serviceTable (s : Storage T AccountId BlockNumber) (serviceId : Id32) :
    VersionTable 32 (ServiceVersion BlockNumber) BlockNumber where
  index := (s.serviceIndex.getD serviceId .empty).toList
  terms version := s.services.get (serviceId, version)
  revokedAt version :=
    (s.serviceRevocations.get (serviceId, version)).map ServiceRevocation.revokedAt

/-- The version of a service in force at a block: the scan of its index from
the newest version. -/
def activeService [LinearOrder BlockNumber] (s : Storage T AccountId BlockNumber)
    (serviceId : Id32) (block : BlockNumber) : Option (U32 × ServiceVersion BlockNumber) :=
  (s.serviceTable serviceId).active block

/-- The body of a utility call. -/
abbrev Body (T : Config) (AccountId BlockNumber α : Type) :=
  Dispatch (Storage T AccountId BlockNumber) (DispatchError Error) α

def depositEvent (event : Event AccountId) : Body T AccountId BlockNumber Unit :=
  .write fun s => { s with events := s.events ++ [event] }

/-- The bytes a request hash commits to. -/
def requestPreimage {V : Type} [Encode V] (request : V) : List UInt8 :=
  asciiBytes "CHLOM:resource-request:v1" ++ Encode.encode request

/-- The domain-separated hash of a request tuple. -/
def requestHash (T : Config) {V : Type} [Encode V] (request : V) : Id32 :=
  T.blake2_256 (requestPreimage request)

/-- The bytes a receipt hash commits to: operation id and receipt, with the
receipt's own hash zeroed. -/
def receiptPreimage [Encode AccountId] [Encode BlockNumber] (operationId : Id32)
    (receipt : ResourceReceipt AccountId BlockNumber) : List UInt8 :=
  asciiBytes "CHLOM:resource-receipt:v1" ++
    Encode.encode (operationId, { receipt with receiptHash := ZERO_ID })

variable [DecidableEq AccountId] [LinearOrder BlockNumber]

def approveService (env : Env AccountId BlockNumber) (origin : RawOrigin AccountId)
    (serviceId : Id32) (version : U32) (resourceId : Id32) (unitsPerAction : U128)
    (effectiveFrom effectiveUntil : BlockNumber) (approvalHash : Id32) :
    Body T AccountId BlockNumber Unit := do
  ensureOrigin env origin
  ensure (serviceId ≠ ZERO_ID ∧ resourceId ≠ ZERO_ID ∧ approvalHash ≠ ZERO_ID)
    Error.invalidIdentifier
  ensure (0 < unitsPerAction) Error.zeroUnits
  match ← Dispatch.read fun s => s.services.get (serviceId, version) with
  | some prior =>
      ensure (prior.resourceId = resourceId ∧ prior.unitsPerAction = unitsPerAction ∧
        prior.effectiveFrom = effectiveFrom ∧ prior.effectiveUntil = effectiveUntil ∧
        prior.approvalHash = approvalHash) Error.versionConflict
  | none => do
      let now := env.blockNumber
      ensure (now ≤ effectiveFrom ∧ effectiveFrom < effectiveUntil) Error.invalidInterval
      let index ← Dispatch.read fun s => s.serviceIndex.getD serviceId .empty
      let previous := index.toList.getLast?.getD 0
      ensure (Checked.add previous 1 = some version) Error.versionOutOfSequence
      Dispatch.onlyIf (previous ≠ 0) do
        let prior ← okOr (← Dispatch.read fun s => s.services.get (serviceId, previous))
          Error.serviceMissing
        ensure (prior.effectiveFrom ≤ effectiveFrom) Error.effectiveTimeRegression
      let index ← okOr (index.tryPush version) Error.versionLimit
      Dispatch.write fun s => { s with
        services := s.services.insert (serviceId, version)
          { resourceId, unitsPerAction, effectiveFrom, effectiveUntil, approvalHash,
            recordedAt := now } }
      Dispatch.write fun s => { s with serviceIndex := s.serviceIndex.insert serviceId index }
      depositEvent (.serviceApproved serviceId version resourceId unitsPerAction)

def revokeService (env : Env AccountId BlockNumber) (origin : RawOrigin AccountId)
    (serviceId : Id32) (version : U32) (approvalHash reasonHash : Id32) :
    Body T AccountId BlockNumber Unit := do
  ensureOrigin env origin
  ensure (approvalHash ≠ ZERO_ID ∧ reasonHash ≠ ZERO_ID) Error.invalidIdentifier
  ensure (← Dispatch.read fun s => s.services.get (serviceId, version)).isSome
    Error.serviceMissing
  match ← Dispatch.read fun s => s.serviceRevocations.get (serviceId, version) with
  | some prior =>
      ensure (prior.approvalHash = approvalHash ∧ prior.reasonHash = reasonHash)
        Error.alreadyRevoked
  | none => do
      Dispatch.write fun s => { s with
        serviceRevocations := s.serviceRevocations.insert (serviceId, version)
          { approvalHash, reasonHash, revokedAt := env.blockNumber } }
      depositEvent (.serviceRevoked serviceId version reasonHash)

/-- Whether the operation was already performed; another request under the same
operation id is refused. -/
def isReplay (account : AccountId) (operationId requestHash : Id32) :
    Body T AccountId BlockNumber Bool := do
  match ← Dispatch.read fun s => s.receipts.get (account, operationId) with
  | none => pure false
  | some prior => do
      ensure (prior.requestHash = requestHash) Error.operationConflict
      pure true

variable [Encode AccountId] [Encode BlockNumber]

def appendReceipt (env : Env AccountId BlockNumber) (operationId requestHash : Id32)
    (kind : OperationKind) (account : AccountId) (resourceId : Id32)
    (reservationId : Option Id32) (units : U128) (approvalHash : Option Id32)
    (balanceAfter : ResourceBalance) : Body T AccountId BlockNumber Unit := do
  let sequence ← okOr (Checked.add (← Dispatch.read (·.receiptCount)) 1) Error.arithmeticFailure
  let previousHash ← Dispatch.read (·.receiptHead)
  let receipt : ResourceReceipt AccountId BlockNumber :=
    { sequence, requestHash, kind, account, resourceId, reservationId, units, approvalHash,
      balanceAfter, recordedAt := env.blockNumber, previousHash, receiptHash := ZERO_ID }
  let receiptHash := T.blake2_256 (receiptPreimage operationId receipt)
  Dispatch.write fun s => { s with
    receipts := s.receipts.insert (account, operationId) { receipt with receiptHash } }
  Dispatch.write fun s => { s with
    receiptIndex := s.receiptIndex.insert sequence (account, operationId) }
  Dispatch.write fun s => { s with receiptHead := receiptHash }
  Dispatch.write fun s => { s with receiptCount := sequence }
  depositEvent (.resourceOperation operationId sequence account kind resourceId units receiptHash)

def allocate (env : Env AccountId BlockNumber) (origin : RawOrigin AccountId)
    (operationId : Id32) (account : AccountId) (resourceId : Id32) (units : U128)
    (approvalHash : Id32) : Body T AccountId BlockNumber Unit := do
  ensureOrigin env origin
  ensure (operationId ≠ ZERO_ID ∧ resourceId ≠ ZERO_ID ∧ approvalHash ≠ ZERO_ID)
    Error.invalidIdentifier
  ensure (0 < units) Error.zeroUnits
  let request := requestHash T (OperationKind.allocate, account, resourceId, units, approvalHash)
  if ← isReplay account operationId request then
    pure ()
  else do
    let balance ← Dispatch.read fun s => s.balance account resourceId
    let allocated ← okOr (Checked.add balance.allocated units) Error.arithmeticFailure
    let available ← okOr (Checked.add balance.available units) Error.arithmeticFailure
    let balance := { balance with allocated, available }
    appendReceipt env operationId request .allocate account resourceId none units
      (some approvalHash) balance
    Dispatch.write fun s => { s with balances := s.balances.insert (account, resourceId) balance }

def reserve (env : Env AccountId BlockNumber) (origin : RawOrigin AccountId)
    (operationId serviceId : Id32) (version : U32) (quantity : U128) :
    Body T AccountId BlockNumber Unit := do
  let account ← ensureSigned origin
  ensure (operationId ≠ ZERO_ID ∧ serviceId ≠ ZERO_ID) Error.invalidIdentifier
  ensure (0 < quantity) Error.zeroUnits
  let request := requestHash T (OperationKind.reserve, account, serviceId, version, quantity)
  if ← isReplay account operationId request then
    pure ()
  else do
    let (activeVersion, service) ←
      okOr (← Dispatch.read fun s => activeService s serviceId env.blockNumber)
        Error.serviceInactive
    ensure (activeVersion = version) Error.serviceInactive
    let units ← okOr (Checked.mul service.unitsPerAction quantity) Error.arithmeticFailure
    let balance ← Dispatch.read fun s => s.balance account service.resourceId
    let available ← okOr (Checked.sub balance.available units) Error.insufficientUnits
    let reserved ← okOr (Checked.add balance.reserved units) Error.arithmeticFailure
    let balance := { balance with available, reserved }
    appendReceipt env operationId request .reserve account service.resourceId (some operationId)
      units (some service.approvalHash) balance
    Dispatch.write fun s => { s with
      balances := s.balances.insert (account, service.resourceId) balance }
    Dispatch.write fun s => { s with
      reservations := s.reservations.insert (account, operationId)
        { owner := account, resourceId := service.resourceId, serviceId,
          serviceVersion := version, quantity, units } }

/-- Consumption requires the terms of the reservation to be in force still;
release asks nothing of the service. -/
def closeReservation (env : Env AccountId BlockNumber) (account : AccountId)
    (operationId reservationId : Id32) (kind : OperationKind) :
    Body T AccountId BlockNumber Unit := do
  ensure (operationId ≠ ZERO_ID ∧ reservationId ≠ ZERO_ID) Error.invalidIdentifier
  let request := requestHash T (kind, account, reservationId)
  if ← isReplay account operationId request then
    pure ()
  else do
    let reservation ← okOr (← Dispatch.read fun s => s.reservations.get (account, reservationId))
      Error.reservationMissing
    ensure (reservation.owner = account) Error.notReservationOwner
    ensure (← Dispatch.read fun s => s.reservationClosures.get (account, reservationId)).isNone
      Error.reservationClosed
    Dispatch.onlyIf (kind = .consume) do
      let service ← okOr (← Dispatch.read fun s =>
        s.services.get (reservation.serviceId, reservation.serviceVersion)) Error.serviceMissing
      let revocation ← Dispatch.read fun s =>
        s.serviceRevocations.get (reservation.serviceId, reservation.serviceVersion)
      ensure (service.effectiveFrom ≤ env.blockNumber ∧ env.blockNumber < service.effectiveUntil ∧
        revocation.isNone) Error.serviceInactive
    let balance ← Dispatch.read fun s => s.balance account reservation.resourceId
    let reserved ← okOr (Checked.sub balance.reserved reservation.units) Error.arithmeticFailure
    let balance := { balance with reserved }
    let balance ←
      if kind = .consume then do
        let consumed ← okOr (Checked.add balance.consumed reservation.units)
          Error.arithmeticFailure
        pure { balance with consumed }
      else do
        let available ← okOr (Checked.add balance.available reservation.units)
          Error.arithmeticFailure
        pure { balance with available }
    appendReceipt env operationId request kind account reservation.resourceId
      (some reservationId) reservation.units none balance
    Dispatch.write fun s => { s with
      balances := s.balances.insert (account, reservation.resourceId) balance }
    Dispatch.write fun s => { s with
      reservationClosures := s.reservationClosures.insert (account, reservationId) operationId }

def consume (env : Env AccountId BlockNumber) (origin : RawOrigin AccountId)
    (operationId reservationId : Id32) : Body T AccountId BlockNumber Unit := do
  let account ← ensureSigned origin
  closeReservation env account operationId reservationId .consume

def release (env : Env AccountId BlockNumber) (origin : RawOrigin AccountId)
    (operationId reservationId : Id32) : Body T AccountId BlockNumber Unit := do
  let account ← ensureSigned origin
  closeReservation env account operationId reservationId .release

inductive Call (AccountId BlockNumber : Type) where
  | approveService (serviceId : Id32) (version : U32) (resourceId : Id32) (unitsPerAction : U128)
      (effectiveFrom effectiveUntil : BlockNumber) (approvalHash : Id32)
  | revokeService (serviceId : Id32) (version : U32) (approvalHash reasonHash : Id32)
  | allocate (operationId : Id32) (account : AccountId) (resourceId : Id32) (units : U128)
      (approvalHash : Id32)
  | reserve (operationId serviceId : Id32) (version : U32) (quantity : U128)
  | consume (operationId reservationId : Id32)
  | release (operationId reservationId : Id32)

/-- The body of each call of the pallet. -/
def pallet (T : Config) : Pallet AccountId BlockNumber (Storage T AccountId BlockNumber) Error
    (Call AccountId BlockNumber) :=
  fun env origin call => match call with
    | .approveService serviceId version resourceId unitsPerAction effectiveFrom effectiveUntil
        approvalHash =>
        approveService env origin serviceId version resourceId unitsPerAction effectiveFrom
          effectiveUntil approvalHash
    | .revokeService serviceId version approvalHash reasonHash =>
        revokeService env origin serviceId version approvalHash reasonHash
    | .allocate operationId account resourceId units approvalHash =>
        allocate env origin operationId account resourceId units approvalHash
    | .reserve operationId serviceId version quantity =>
        reserve env origin operationId serviceId version quantity
    | .consume operationId reservationId => consume env origin operationId reservationId
    | .release operationId reservationId => release env origin operationId reservationId

/-- The chain after a list of inputs from empty storage at a genesis block. -/
abbrev run (T : Config) (genesis : BlockNumber)
    (inputs : List (Input AccountId BlockNumber (Call AccountId BlockNumber))) :
    World BlockNumber (Storage T AccountId BlockNumber) :=
  Frame.run (pallet T) ⟨genesis, .empty T AccountId BlockNumber⟩ inputs

end Calls

/-! ## A sample chain

A small chain over the runtime's account and block types, on which the results
about runs can be tried.  Its hash is the table of the BLAKE2-256 digests that
the sample calls ask for. -/

namespace Sample

/-- A digest read as a big-endian number. -/
def digest (number : Nat) : Id32 where
  toArray := ((List.range 32).map fun position =>
    UInt8.ofNat (number >>> (8 * (31 - position)))).toArray
  size_toArray := by simp

def alice : Id32 := Id32.repeated 1
def bob : Id32 := Id32.repeated 2
def service : Id32 := Id32.repeated 3
def resource : Id32 := Id32.repeated 4
def approval : Id32 := Id32.repeated 5

def approveCall : Call Id32 U32 := .approveService service 1 resource 2 1 100 approval
def allocateCall (account : Id32) : Call Id32 U32 :=
  .allocate (Id32.repeated 11) account resource 10 approval
def reserveCall : Call Id32 U32 := .reserve (Id32.repeated 12) service 1 3
def revokeCall : Call Id32 U32 := .revokeService service 1 approval approval

/-- A call submitted while only the root origin is privileged. -/
def submit (origin : RawOrigin Id32) (call : Call Id32 U32) : Input Id32 U32 (Call Id32 U32) :=
  .submit (· = .root) origin call

def allocateHash : Id32 :=
  digest 0xf487efdc8f55b85728f65bc8b8ab40ed9d596cf095050bec3b81c1a8a592a9a9
def reserveHash : Id32 :=
  digest 0xf6637008795d0ddd5343cd3e344b9ba636646610e0f1b78d0ff369dbdd04be29
def consumeHash : Id32 :=
  digest 0x7bca81a0ccb0288d3008cf82f3b8e1689bdb800006f78cf98ba44cb070b894db
def bobAllocateHash : Id32 :=
  digest 0xfce8b060846bc0e778587d080b1c5303fe970c1fe2a2a310cd08213350710c68
def allocateReceiptHash : Id32 :=
  digest 0x659dae857127faf353def15fe61504f123d9821e6dfff1b1bbc9d7ba0e7c0dac
def reserveReceiptHash : Id32 :=
  digest 0xee847226972320a7cd27e58dbb82d55eec53b2e09ab0812b376038c93bb6012c
def bobReceiptHash : Id32 :=
  digest 0xa9161a4f874cf5a637ad29bde7eb2e8bc579bd476c5cc117cdec9adc7990b25e
def laterReceiptHash : Id32 :=
  digest 0xf4bbb44e63a6304b75f49dd14ad6ec0682ce8eadbc548b6d5a5416f8e818ecb1

/-- The inputs before the sample reservation. -/
def inputs : List (Input Id32 U32 (Call Id32 U32)) :=
  [submit .root approveCall, submit .root (allocateCall alice)]

/-- A single allocation. -/
def allocation : List (Input Id32 U32 (Call Id32 U32)) :=
  [submit .root (allocateCall alice)]

/-- A reservation after the allocation. -/
def reserving : List (Input Id32 U32 (Call Id32 U32)) :=
  inputs ++ [submit (.signed alice) reserveCall]

/-- The same after a call that fails, with a call that repeats the allocation and before more
blocks. -/
def disturbedReserving : List (Input Id32 U32 (Call Id32 U32)) :=
  submit (.signed bob) reserveCall :: (inputs ++
    [submit .root (allocateCall alice), submit (.signed alice) reserveCall, .advance 9])

/-- The same allocation after one to another account. -/
def secondAllocation : List (Input Id32 U32 (Call Id32 U32)) :=
  [submit .root (allocateCall bob), submit .root (allocateCall alice)]

/-- The sample reservation. -/
def reservation : Reservation Id32 where
  owner := alice
  resourceId := resource
  serviceId := service
  serviceVersion := 1
  quantity := 3
  units := 6

/-- The receipt of a sample allocation. -/
def allocateReceipt (account requestHash : Id32) (sequence : U64)
    (previousHash receiptHash : Id32) : ResourceReceipt Id32 U32 where
  sequence := sequence
  requestHash := requestHash
  kind := .allocate
  account := account
  resourceId := resource
  reservationId := none
  units := 10
  approvalHash := some approval
  balanceAfter := ⟨10, 10, 0, 0⟩
  recordedAt := 1
  previousHash := previousHash
  receiptHash := receiptHash

/-- The receipt of the sample reservation. -/
def reserveReceipt : ResourceReceipt Id32 U32 where
  sequence := 2
  requestHash := reserveHash
  kind := .reserve
  account := alice
  resourceId := resource
  reservationId := some (Id32.repeated 12)
  units := 6
  approvalHash := some approval
  balanceAfter := ⟨10, 4, 6, 0⟩
  recordedAt := 1
  previousHash := allocateReceiptHash
  receiptHash := reserveReceiptHash

/-- The digests of everything the sample chain hashes. -/
def digests : List (List UInt8 × Id32) :=
  [(requestPreimage (OperationKind.allocate, alice, resource, (10 : U128), approval),
      allocateHash),
    (requestPreimage (OperationKind.reserve, alice, service, (1 : U32), (3 : U128)), reserveHash),
    (requestPreimage (OperationKind.consume, alice, Id32.repeated 12), consumeHash),
    (requestPreimage (OperationKind.allocate, bob, resource, (10 : U128), approval),
      bobAllocateHash),
    (receiptPreimage (Id32.repeated 11)
      (allocateReceipt alice allocateHash 1 ZERO_ID allocateReceiptHash), allocateReceiptHash),
    (receiptPreimage (Id32.repeated 12) reserveReceipt, reserveReceiptHash),
    (receiptPreimage (Id32.repeated 11)
      (allocateReceipt bob bobAllocateHash 1 ZERO_ID bobReceiptHash), bobReceiptHash),
    (receiptPreimage (Id32.repeated 11)
      (allocateReceipt alice allocateHash 2 bobReceiptHash laterReceiptHash), laterReceiptHash)]

def config : Config where
  maxServiceVersions := 64
  blake2_256 bytes := (digests.lookup bytes).getD ZERO_ID

end Sample

end Chlom.Utility
