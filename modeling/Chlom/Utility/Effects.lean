import Chlom.Utility.Pallet

/-!
# What a successful utility call does

Every accepted allocation, reservation, consumption or release posts one
receipt together with one balance, and at most one reservation or closure.  The
relation `Effect` lists everything a successful call can do to the storage,
guards included; the invariants of the pallet are derived from it alone.
-/

namespace Chlom.Utility

open Chlom.Frame

variable {T : Config} {AccountId BlockNumber : Type}

/-! ## Requests -/

/-- What an operation asks for, apart from its account and identifier. -/
inductive Request where
  | allocate (resourceId : Id32) (units : U128) (approvalHash : Id32)
  | reserve (serviceId : Id32) (version : U32) (quantity : U128)
  | close (kind : OperationKind) (reservationId : Id32)
  deriving DecidableEq

/-- An operation as the pallet files it: under an account and an identifier. -/
structure Operation (AccountId : Type) where
  account : AccountId
  operationId : Id32
  request : Request
  deriving DecidableEq

def Request.kind : Request → OperationKind
  | .allocate .. => .allocate
  | .reserve .. => .reserve
  | .close kind _ => kind

/-- The operation a call performs; service administration performs none. -/
def Call.operation (origin : RawOrigin AccountId) :
    Call AccountId BlockNumber → Option (Operation AccountId)
  | .approveService .. => none
  | .revokeService .. => none
  | .allocate operationId account resourceId units approvalHash =>
      some ⟨account, operationId, .allocate resourceId units approvalHash⟩
  | .reserve operationId serviceId version quantity =>
      origin.signer.map fun account => ⟨account, operationId, .reserve serviceId version quantity⟩
  | .consume operationId reservationId =>
      origin.signer.map fun account => ⟨account, operationId, .close .consume reservationId⟩
  | .release operationId reservationId =>
      origin.signer.map fun account => ⟨account, operationId, .close .release reservationId⟩

/-- The tuple a request hash commits to, encoded. -/
def Operation.encoded [Encode AccountId] (operation : Operation AccountId) : List UInt8 :=
  match operation.request with
  | .allocate resourceId units approvalHash =>
      Encode.encode (OperationKind.allocate, operation.account, resourceId, units, approvalHash)
  | .reserve serviceId version quantity =>
      Encode.encode (OperationKind.reserve, operation.account, serviceId, version, quantity)
  | .close kind reservationId => Encode.encode (kind, operation.account, reservationId)

/-- The bytes hashed to identify the request of an operation. -/
def Operation.preimage [Encode AccountId] (operation : Operation AccountId) : List UInt8 :=
  asciiBytes "CHLOM:resource-request:v1" ++ operation.encoded

def Operation.requestHash (T : Config) [Encode AccountId] (operation : Operation AccountId) :
    Id32 :=
  T.blake2_256 operation.preimage

/-! ## Postings -/

/-- What one accepted operation writes to the receipt log and the balances. -/
structure Posting (AccountId : Type) where
  operationId : Id32
  requestHash : Id32
  kind : OperationKind
  account : AccountId
  resourceId : Id32
  reservationId : Option Id32
  units : U128
  approvalHash : Option Id32
  balanceAfter : ResourceBalance

/-- How an operation moves units between the four parts of a balance. -/
def Moves (units : Nat) (before after : ResourceBalance) : OperationKind → Prop
  | .allocate =>
      after.allocated.toNat = before.allocated.toNat + units ∧
        after.available.toNat = before.available.toNat + units ∧
        after.reserved.toNat = before.reserved.toNat ∧
        after.consumed.toNat = before.consumed.toNat
  | .reserve =>
      after.allocated.toNat = before.allocated.toNat ∧
        before.available.toNat = after.available.toNat + units ∧
        after.reserved.toNat = before.reserved.toNat + units ∧
        after.consumed.toNat = before.consumed.toNat
  | .consume =>
      after.allocated.toNat = before.allocated.toNat ∧
        after.available.toNat = before.available.toNat ∧
        before.reserved.toNat = after.reserved.toNat + units ∧
        after.consumed.toNat = before.consumed.toNat + units
  | .release =>
      after.allocated.toNat = before.allocated.toNat ∧
        after.available.toNat = before.available.toNat + units ∧
        before.reserved.toNat = after.reserved.toNat + units ∧
        after.consumed.toNat = before.consumed.toNat

section Posting

variable [DecidableEq AccountId] [Encode AccountId] [Encode BlockNumber]

/-- The receipt of a posting, carrying its own hash. -/
def Posting.receipt (T : Config) (env : Env AccountId BlockNumber)
    (s : Storage T AccountId BlockNumber) (sequence : U64) (p : Posting AccountId) :
    ResourceReceipt AccountId BlockNumber :=
  let receipt : ResourceReceipt AccountId BlockNumber :=
    { sequence, requestHash := p.requestHash, kind := p.kind, account := p.account,
      resourceId := p.resourceId, reservationId := p.reservationId, units := p.units,
      approvalHash := p.approvalHash, balanceAfter := p.balanceAfter,
      recordedAt := env.blockNumber, previousHash := s.receiptHead, receiptHash := ZERO_ID }
  { receipt with receiptHash := T.blake2_256 (receiptPreimage p.operationId receipt) }

/-- File a receipt as the last one of the log. -/
def Storage.recordReceipt (s : Storage T AccountId BlockNumber) (operationId : Id32)
    (receipt : ResourceReceipt AccountId BlockNumber) : Storage T AccountId BlockNumber :=
  { s with
    receipts := s.receipts.insert (receipt.account, operationId) receipt
    receiptIndex := s.receiptIndex.insert receipt.sequence (receipt.account, operationId)
    receiptHead := receipt.receiptHash
    receiptCount := receipt.sequence
    events := s.events ++ [.resourceOperation operationId receipt.sequence receipt.account
      receipt.kind receipt.resourceId receipt.units receipt.receiptHash] }

/-- File the receipt of a posting and write the balance it records. -/
def Storage.post (s : Storage T AccountId BlockNumber) (env : Env AccountId BlockNumber)
    (sequence : U64) (p : Posting AccountId) : Storage T AccountId BlockNumber :=
  { s.recordReceipt p.operationId (p.receipt T env s sequence) with
    balances := s.balances.insert (p.account, p.resourceId) p.balanceAfter }

/-- Store a new reservation. -/
def Storage.addReservation (s : Storage T AccountId BlockNumber) (key : AccountId × Id32)
    (reservation : Reservation AccountId) : Storage T AccountId BlockNumber :=
  { s with reservations := s.reservations.insert key reservation }

/-- Store the operation that closed a reservation. -/
def Storage.addClosure (s : Storage T AccountId BlockNumber) (key : AccountId × Id32)
    (operationId : Id32) : Storage T AccountId BlockNumber :=
  { s with reservationClosures := s.reservationClosures.insert key operationId }

/-- What holds whenever an operation is accepted anew. -/
structure Posted (s : Storage T AccountId BlockNumber) (origin : RawOrigin AccountId)
    (call : Call AccountId BlockNumber) (sequence : U64) (p : Posting AccountId)
    (request : Request) : Prop where
  operation : call.operation origin = some ⟨p.account, p.operationId, request⟩
  requestHash : p.requestHash = Operation.requestHash T ⟨p.account, p.operationId, request⟩
  kind : p.kind = request.kind
  nonzero : p.operationId ≠ ZERO_ID
  fresh : s.receipts.get (p.account, p.operationId) = none
  sequence : sequence.toNat = s.receiptCount.toNat + 1
  moves : Moves p.units.toNat (s.balance p.account p.resourceId) p.balanceAfter p.kind

variable [LinearOrder BlockNumber]

/-- Everything a successful call can do. -/
inductive Effect (env : Env AccountId BlockNumber) (s : Storage T AccountId BlockNumber)
    (origin : RawOrigin AccountId) :
    Call AccountId BlockNumber → Storage T AccountId BlockNumber → Prop
  | retry {call : Call AccountId BlockNumber} (administrative : call.operation origin = none) :
      Effect env s origin call s
  | replay {call : Call AccountId BlockNumber} (operation : Operation AccountId)
      (prior : ResourceReceipt AccountId BlockNumber)
      (performed : call.operation origin = some operation)
      (stored : s.receipts.get (operation.account, operation.operationId) = some prior)
      (matching : prior.requestHash = operation.requestHash T) :
      Effect env s origin call s
  | approve (serviceId : Id32) (version : U32) (service : ServiceVersion BlockNumber)
      (index : BoundedVec U32 T.maxServiceVersions.toNat)
      (fresh : s.services.get (serviceId, version) = none)
      (dated : service.recordedAt = env.blockNumber)
      (notPast : env.blockNumber ≤ service.effectiveFrom)
      (interval : service.effectiveFrom < service.effectiveUntil)
      (next : version.toNat =
        ((s.serviceTable serviceId).index.getLast?.getD 0).toNat + 1)
      (forward : (s.serviceTable serviceId).index.getLast?.getD 0 ≠ 0 →
        ∃ prior, s.services.get
            (serviceId, (s.serviceTable serviceId).index.getLast?.getD 0) = some prior ∧
          prior.effectiveFrom ≤ service.effectiveFrom)
      (pushed : index.toList = (s.serviceTable serviceId).index ++ [version]) :
      Effect env s origin
        (.approveService serviceId version service.resourceId service.unitsPerAction
          service.effectiveFrom service.effectiveUntil service.approvalHash)
        { s with
          services := s.services.insert (serviceId, version) service
          serviceIndex := s.serviceIndex.insert serviceId index
          events := s.events ++ [.serviceApproved serviceId version service.resourceId
            service.unitsPerAction] }
  | revoke (serviceId : Id32) (version : U32) (revocation : ServiceRevocation BlockNumber)
      (dated : revocation.revokedAt = env.blockNumber)
      (fresh : s.serviceRevocations.get (serviceId, version) = none) :
      Effect env s origin
        (.revokeService serviceId version revocation.approvalHash revocation.reasonHash)
        { s with
          serviceRevocations := s.serviceRevocations.insert (serviceId, version) revocation
          events := s.events ++ [.serviceRevoked serviceId version revocation.reasonHash] }
  | allocate {call : Call AccountId BlockNumber} (sequence : U64) (p : Posting AccountId)
      (resourceId : Id32) (units : U128) (approvalHash : Id32)
      (posted : Posted s origin call sequence p (.allocate resourceId units approvalHash)) :
      Effect env s origin call (s.post env sequence p)
  | reserve {call : Call AccountId BlockNumber} (sequence : U64) (p : Posting AccountId)
      (reservation : Reservation AccountId) (service : ServiceVersion BlockNumber)
      (posted : Posted s origin call sequence p
        (.reserve reservation.serviceId reservation.serviceVersion reservation.quantity))
      (link : p.reservationId = some p.operationId)
      (owner : reservation.owner = p.account)
      (resource : reservation.resourceId = p.resourceId)
      (units : reservation.units = p.units)
      (active : activeService s reservation.serviceId env.blockNumber =
        some (reservation.serviceVersion, service))
      (priced : reservation.units.toNat = service.unitsPerAction.toNat * reservation.quantity.toNat)
      (located : reservation.resourceId = service.resourceId) :
      Effect env s origin call
        ((s.post env sequence p).addReservation (p.account, p.operationId) reservation)
  | close {call : Call AccountId BlockNumber} (sequence : U64) (p : Posting AccountId)
      (kind : OperationKind) (reservationId : Id32) (reservation : Reservation AccountId)
      (signed : origin = .signed p.account)
      (closing : kind = .consume ∨ kind = .release)
      (posted : Posted s origin call sequence p (.close kind reservationId))
      (link : p.reservationId = some reservationId)
      (stored : s.reservations.get (p.account, reservationId) = some reservation)
      (owner : reservation.owner = p.account)
      (still_open : s.reservationClosures.get (p.account, reservationId) = none)
      (resource : reservation.resourceId = p.resourceId)
      (units : reservation.units = p.units)
      (inForce : kind = .consume → ∃ service,
        s.services.get (reservation.serviceId, reservation.serviceVersion) = some service ∧
          service.effectiveFrom ≤ env.blockNumber ∧ env.blockNumber < service.effectiveUntil ∧
          s.serviceRevocations.get (reservation.serviceId, reservation.serviceVersion) = none) :
      Effect env s origin call
        ((s.post env sequence p).addClosure (p.account, reservationId) p.operationId)

/-! ## Specifications of the pallet's functions -/

section Specifications

variable {s s' : Storage T AccountId BlockNumber} {env : Env AccountId BlockNumber}
  {origin : RawOrigin AccountId}

section Replay

variable {account : AccountId} {operationId request : Id32}

omit [DecidableEq AccountId] [LinearOrder BlockNumber] [Encode AccountId] [Encode BlockNumber]

theorem isReplay_fresh (fresh : s.receipts.get (account, operationId) = none) :
    isReplay account operationId request s = .ok false s := by
  simp [isReplay, fresh]

theorem isReplay_performed {prior : ResourceReceipt AccountId BlockNumber}
    (stored : s.receipts.get (account, operationId) = some prior)
    (matching : prior.requestHash = request) :
    isReplay account operationId request s = .ok true s := by
  simp only [isReplay, Dispatch.read_bind, stored]
  exact Dispatch.ensure_bind_pos matching

theorem isReplay_conflict {prior : ResourceReceipt AccountId BlockNumber}
    (stored : s.receipts.get (account, operationId) = some prior)
    (different : prior.requestHash ≠ request) :
    isReplay account operationId request s = .error (.module .operationConflict) s := by
  simp only [isReplay, Dispatch.read_bind, stored]
  exact Dispatch.ensure_bind_neg different

variable {body : Body T AccountId BlockNumber Unit}

/-- A retry of a performed operation ends there; a fresh one goes on. -/
theorem replay_or_ok :
    (isReplay account operationId request >>= fun replay =>
      if replay = true then pure () else body) s = .ok () s' ↔
      (∃ prior, s.receipts.get (account, operationId) = some prior ∧
        prior.requestHash = request ∧ s' = s) ∨
      (s.receipts.get (account, operationId) = none ∧ body s = .ok () s') := by
  cases stored : s.receipts.get (account, operationId) with
  | none => simp [Dispatch.bind_of_ok (isReplay_fresh stored)]
  | some prior =>
      by_cases matching : prior.requestHash = request
      · simp [Dispatch.bind_of_ok (isReplay_performed stored matching), matching, eq_comm]
      · simp [Dispatch.bind_of_error (isReplay_conflict stored matching), matching]

/-- The answer to an operation that is filed already does not depend on what
would be done anew. -/
theorem replay_filed {prior : ResourceReceipt AccountId BlockNumber}
    (stored : s.receipts.get (account, operationId) = some prior) :
    (isReplay account operationId request >>= fun replay =>
      if replay = true then pure () else body) s =
      if prior.requestHash = request then .ok () s
      else .error (.module .operationConflict) s := by
  by_cases matching : prior.requestHash = request
  · rw [Dispatch.bind_of_ok (isReplay_performed stored matching), if_pos matching]
    rfl
  · rw [Dispatch.bind_of_error (isReplay_conflict stored matching), if_neg matching]

/-- A fresh operation fails where its body does; a filed one only on another request. -/
theorem replay_or_error {failure : DispatchError Error} :
    (isReplay account operationId request >>= fun replay =>
      if replay = true then pure () else body) s = .error failure s' ↔
      (∃ prior, s.receipts.get (account, operationId) = some prior ∧
        prior.requestHash ≠ request ∧ .module .operationConflict = failure ∧ s = s') ∨
      (s.receipts.get (account, operationId) = none ∧ body s = .error failure s') := by
  cases stored : s.receipts.get (account, operationId) with
  | none => simp [Dispatch.bind_of_ok (isReplay_fresh stored)]
  | some prior =>
      by_cases matching : prior.requestHash = request
      · simp [Dispatch.bind_of_ok (isReplay_performed stored matching), matching]
      · simp [Dispatch.bind_of_error (isReplay_conflict stored matching), matching]

end Replay

omit [LinearOrder BlockNumber] in
theorem appendReceipt_ok {p : Posting AccountId} :
    appendReceipt env p.operationId p.requestHash p.kind p.account p.resourceId p.reservationId
        p.units p.approvalHash p.balanceAfter s = .ok () s' ↔
      ∃ sequence, Checked.add s.receiptCount 1 = some sequence ∧
        s' = s.recordReceipt p.operationId (p.receipt T env s sequence) := by
  simp only [appendReceipt, Dispatch.read_bind, okOr_bind_ok, Dispatch.write_bind, depositEvent,
    Dispatch.write_apply, EStateM.Result.ok.injEq, true_and]
  simp only [Storage.recordReceipt, Posting.receipt, eq_comm]

omit [LinearOrder BlockNumber] in
/-- Appending a receipt and going on from the storage that holds it. -/
theorem appendReceipt_bind_ok (p : Posting AccountId)
    {next : Unit → Body T AccountId BlockNumber Unit} :
    (appendReceipt env p.operationId p.requestHash p.kind p.account p.resourceId p.reservationId
        p.units p.approvalHash p.balanceAfter >>= next) s = .ok () s' ↔
      ∃ sequence : U64, sequence.toNat = s.receiptCount.toNat + 1 ∧
        next () (s.recordReceipt p.operationId (p.receipt T env s sequence)) = .ok () s' := by
  have one (sequence : U64) : Checked.add s.receiptCount 1 = some sequence ↔
      sequence.toNat = s.receiptCount.toNat + 1 := Checked.add_eq_some
  simp only [Dispatch.bind_unit_ok, appendReceipt_ok, one]
  constructor
  · rintro ⟨_, ⟨sequence, follows, rfl⟩, rest⟩
    exact ⟨sequence, follows, rest⟩
  · rintro ⟨sequence, follows, rest⟩
    exact ⟨_, ⟨sequence, follows, rfl⟩, rest⟩

omit [LinearOrder BlockNumber] in
/-- While the receipt counter has room, appending a receipt cannot fail. -/
theorem appendReceipt_bind (p : Posting AccountId)
    {next : Unit → Body T AccountId BlockNumber Unit} {sequence : U64}
    (follows : Checked.add s.receiptCount 1 = some sequence) :
    (appendReceipt env p.operationId p.requestHash p.kind p.account p.resourceId p.reservationId
        p.units p.approvalHash p.balanceAfter >>= next) s =
      next () (s.recordReceipt p.operationId (p.receipt T env s sequence)) :=
  Dispatch.bind_of_ok (appendReceipt_ok.mpr ⟨sequence, follows, rfl⟩)

theorem allocate_effect {operationId : Id32} {account : AccountId} {resourceId : Id32}
    {units : U128} {approvalHash : Id32}
    (done : allocate env origin operationId account resourceId units approvalHash s = .ok () s') :
    Effect env s origin (.allocate operationId account resourceId units approvalHash) s' := by
  simp only [allocate, ensureOrigin_bind_ok, ensure_bind_ok, replay_or_ok] at done
  obtain ⟨_, nonzero, _, ⟨prior, stored, matching, rfl⟩ | ⟨fresh, done⟩⟩ := done
  · exact .replay _ prior rfl stored matching
  simp only [Dispatch.read_bind, okOr_bind_ok, Checked.add_eq_some] at done
  obtain ⟨allocated, allocatedEq, available, availableEq, done⟩ := done
  let balance := { s.balance account resourceId with allocated, available }
  let p : Posting AccountId :=
    { operationId,
      requestHash := Operation.requestHash T
        ⟨account, operationId, .allocate resourceId units approvalHash⟩,
      kind := .allocate, account, resourceId, reservationId := none, units,
      approvalHash := some approvalHash, balanceAfter := balance }
  obtain ⟨sequence, follows, done⟩ := (appendReceipt_bind_ok p).mp done
  obtain rfl := (EStateM.Result.ok.inj done).2
  refine .allocate sequence p resourceId units approvalHash ?_
  exact
    { operation := rfl
      requestHash := rfl
      kind := rfl
      nonzero := nonzero.1
      fresh := fresh
      sequence := follows
      moves := ⟨allocatedEq, availableEq, rfl, rfl⟩ }

theorem reserve_effect {operationId serviceId : Id32} {version : U32} {quantity : U128}
    (done : reserve env origin operationId serviceId version quantity s = .ok () s') :
    Effect env s origin (.reserve operationId serviceId version quantity) s' := by
  simp only [reserve, ensureSigned_bind_ok, ensure_bind_ok, replay_or_ok] at done
  obtain ⟨account, rfl, nonzero, _, ⟨prior, stored, matching, rfl⟩ | ⟨fresh, done⟩⟩ := done
  · exact .replay _ prior rfl stored matching
  simp only [Dispatch.read_bind, okOr_bind_ok, ensure_bind_ok, Checked.add_eq_some,
    Checked.sub_eq_some, Checked.mul_eq_some] at done
  obtain ⟨⟨activeVersion, service⟩, active, rfl, units, priced, available, availableEq,
    reserved, reservedEq, done⟩ := done
  let balance := { s.balance account service.resourceId with available, reserved }
  let p : Posting AccountId :=
    { operationId,
      requestHash := Operation.requestHash T
        ⟨account, operationId, .reserve serviceId activeVersion quantity⟩,
      kind := .reserve, account, resourceId := service.resourceId,
      reservationId := some operationId, units, approvalHash := some service.approvalHash,
      balanceAfter := balance }
  obtain ⟨sequence, follows, done⟩ := (appendReceipt_bind_ok p).mp done
  obtain rfl := (EStateM.Result.ok.inj done).2
  let reservation : Reservation AccountId :=
    { owner := account, resourceId := service.resourceId, serviceId,
      serviceVersion := activeVersion, quantity, units }
  refine .reserve sequence p reservation service ?_ rfl rfl rfl rfl active priced rfl
  exact
    { operation := rfl
      requestHash := rfl
      kind := rfl
      nonzero := nonzero.1
      fresh := fresh
      sequence := follows
      moves := ⟨rfl, availableEq, reservedEq, rfl⟩ }

theorem closeReservation_effect {call : Call AccountId BlockNumber} {account : AccountId}
    {operationId reservationId : Id32} {kind : OperationKind}
    (closing : kind = .consume ∨ kind = .release)
    (operation : call.operation (.signed account) =
      some ⟨account, operationId, .close kind reservationId⟩)
    (done : closeReservation env account operationId reservationId kind s = .ok () s') :
    Effect env s (.signed account) call s' := by
  simp only [closeReservation, ensure_bind_ok, replay_or_ok] at done
  obtain ⟨nonzero, ⟨prior, stored, matching, rfl⟩ | ⟨fresh, done⟩⟩ := done
  · exact .replay _ prior operation stored matching
  simp only [Dispatch.read_bind, okOr_bind_ok, ensure_bind_ok] at done
  obtain ⟨reservation, stored, owner, unclosed, done⟩ := done
  have still_open := Option.isNone_iff_eq_none.mp unclosed
  let posting (balanceAfter : ResourceBalance) : Posting AccountId :=
    { operationId,
      requestHash := Operation.requestHash T ⟨account, operationId, .close kind reservationId⟩,
      kind, account, resourceId := reservation.resourceId, reservationId := some reservationId,
      units := reservation.units, approvalHash := none, balanceAfter }
  have posted (balanceAfter : ResourceBalance) (sequence : U64)
      (follows : sequence.toNat = s.receiptCount.toNat + 1)
      (moves : Moves reservation.units.toNat (s.balance account reservation.resourceId)
        balanceAfter kind) :
      Posted s (.signed account) call sequence (posting balanceAfter)
        (.close kind reservationId) :=
    { operation := operation
      requestHash := rfl
      kind := rfl
      nonzero := nonzero.1
      fresh := fresh
      sequence := follows
      moves := moves }
  cases closing with
  | inl consuming =>
      subst consuming
      simp only [Dispatch.onlyIf, if_true, bind_assoc, Dispatch.read_bind, okOr_bind_ok,
        ensure_bind_ok, pure_bind, Checked.add_eq_some, Checked.sub_eq_some] at done
      obtain ⟨service, serviceStored, ⟨started, running, notRevoked⟩, reserved, reservedEq,
        consumed, consumedEq, done⟩ := done
      obtain ⟨sequence, follows, done⟩ := (appendReceipt_bind_ok (posting _)).mp done
      obtain rfl := (EStateM.Result.ok.inj done).2
      exact .close sequence (posting _) .consume reservationId reservation rfl (.inl rfl)
        (posted _ sequence follows ⟨rfl, rfl, reservedEq, consumedEq⟩) rfl stored owner still_open
        rfl rfl fun _ => ⟨service, serviceStored, started, running,
          Option.isNone_iff_eq_none.mp notRevoked⟩
  | inr releasing =>
      subst releasing
      simp only [Dispatch.onlyIf, reduceCtorEq, if_false, Dispatch.read_bind,
        okOr_bind_ok, pure_bind, Checked.add_eq_some, Checked.sub_eq_some] at done
      obtain ⟨reserved, reservedEq, available, availableEq, done⟩ := done
      obtain ⟨sequence, follows, done⟩ := (appendReceipt_bind_ok (posting _)).mp done
      obtain rfl := (EStateM.Result.ok.inj done).2
      exact .close sequence (posting _) .release reservationId reservation rfl (.inr rfl)
        (posted _ sequence follows ⟨rfl, availableEq, reservedEq, rfl⟩) rfl stored owner still_open
        rfl rfl fun consuming => by cases consuming

theorem approveService_effect {serviceId : Id32} {version : U32} {resourceId : Id32}
    {unitsPerAction : U128} {effectiveFrom effectiveUntil : BlockNumber} {approvalHash : Id32}
    (done : approveService env origin serviceId version resourceId unitsPerAction effectiveFrom
      effectiveUntil approvalHash s = .ok () s') :
    Effect env s origin (.approveService serviceId version resourceId unitsPerAction effectiveFrom
      effectiveUntil approvalHash) s' := by
  simp only [approveService, ensureOrigin_bind_ok, ensure_bind_ok, Dispatch.read_bind] at done
  obtain ⟨_, nonzero, _, done⟩ := done
  cases fresh : s.services.get (serviceId, version) with
  | some prior =>
      simp only [fresh, ensure_ok] at done
      rw [done.2]
      exact .retry rfl
  | none =>
      simp only [fresh, ensure_bind_ok, Dispatch.onlyIf_bind_ok, Dispatch.read_bind, okOr_bind_ok,
        ensure_ok, and_true, Dispatch.write_bind, depositEvent, Dispatch.write_apply,
        Checked.add_eq_some] at done
      obtain ⟨⟨notPast, interval⟩, next, forward, index, push, done⟩ := done
      obtain rfl := (EStateM.Result.ok.inj done).2
      let service : ServiceVersion BlockNumber :=
        { resourceId, unitsPerAction, effectiveFrom, effectiveUntil, approvalHash,
          recordedAt := env.blockNumber }
      have pushed := BoundedVec.tryPush_toList push
      exact .approve serviceId version service index fresh rfl notPast interval next forward pushed

theorem revokeService_effect {serviceId : Id32} {version : U32} {approvalHash reasonHash : Id32}
    (done : revokeService env origin serviceId version approvalHash reasonHash s = .ok () s') :
    Effect env s origin (.revokeService serviceId version approvalHash reasonHash) s' := by
  simp only [revokeService, ensureOrigin_bind_ok, ensure_bind_ok, Dispatch.read_bind] at done
  obtain ⟨_, _, _, done⟩ := done
  cases fresh : s.serviceRevocations.get (serviceId, version) with
  | some prior =>
      simp only [fresh, ensure_ok] at done
      rw [done.2]
      exact .retry rfl
  | none =>
      simp only [fresh, Dispatch.write_bind, depositEvent, Dispatch.write_apply] at done
      obtain rfl := (EStateM.Result.ok.inj done).2
      exact .revoke serviceId version
        { approvalHash, reasonHash, revokedAt := env.blockNumber } rfl fresh

/-- Every successful call has one of the listed effects. -/
theorem pallet_effect {call : Call AccountId BlockNumber}
    (done : pallet T env origin call s = .ok () s') : Effect env s origin call s' := by
  cases call with
  | approveService => exact approveService_effect done
  | revokeService => exact revokeService_effect done
  | allocate => exact allocate_effect done
  | reserve => exact reserve_effect done
  | consume operationId reservationId =>
      simp only [pallet, consume, ensureSigned_bind_ok] at done
      obtain ⟨account, rfl, done⟩ := done
      exact closeReservation_effect (.inl rfl) rfl done
  | release operationId reservationId =>
      simp only [pallet, release, ensureSigned_bind_ok] at done
      obtain ⟨account, rfl, done⟩ := done
      exact closeReservation_effect (.inr rfl) rfl done

end Specifications

/-! ## What happens to the receipt log -/

/-- Two storages with the same receipt storage and the same balances. -/
structure SameLog (s s' : Storage T AccountId BlockNumber) : Prop where
  receipts : s'.receipts = s.receipts
  index : s'.receiptIndex = s.receiptIndex
  count : s'.receiptCount = s.receiptCount
  head : s'.receiptHead = s.receiptHead
  balances : s'.balances = s.balances

/-- A successful call leaves the log alone or posts exactly one receipt. -/
theorem Effect.log_cases {env : Env AccountId BlockNumber}
    {s s' : Storage T AccountId BlockNumber} {origin : RawOrigin AccountId}
    {call : Call AccountId BlockNumber} (effect : Effect env s origin call s') :
    SameLog s s' ∨ ∃ sequence p request, Posted s origin call sequence p request ∧
      SameLog (s.post env sequence p) s' := by
  cases effect with
  | retry => exact .inl ⟨rfl, rfl, rfl, rfl, rfl⟩
  | replay => exact .inl ⟨rfl, rfl, rfl, rfl, rfl⟩
  | approve => exact .inl ⟨rfl, rfl, rfl, rfl, rfl⟩
  | revoke => exact .inl ⟨rfl, rfl, rfl, rfl, rfl⟩
  | allocate sequence p _ _ _ posted =>
      exact .inr ⟨sequence, p, _, posted, ⟨rfl, rfl, rfl, rfl, rfl⟩⟩
  | reserve sequence p _ _ posted =>
      exact .inr ⟨sequence, p, _, posted, ⟨rfl, rfl, rfl, rfl, rfl⟩⟩
  | close sequence p _ _ _ _ _ posted =>
      exact .inr ⟨sequence, p, _, posted, ⟨rfl, rfl, rfl, rfl, rfl⟩⟩

/-! ## What an account can do on its own -/

/-- The calls that any signer may make for itself. -/
def Call.Own : Call AccountId BlockNumber → Prop
  | .reserve .. | .consume .. | .release .. => True
  | _ => False

/-- Nothing changes but entries of one account and the global receipt index, count
and head. -/
structure OwnOnly (account : AccountId) (s s' : Storage T AccountId BlockNumber) : Prop where
  services : s'.services = s.services
  serviceIndex : s'.serviceIndex = s.serviceIndex
  serviceRevocations : s'.serviceRevocations = s.serviceRevocations
  balances : ∀ other resourceId, other ≠ account →
    s'.balances.get (other, resourceId) = s.balances.get (other, resourceId)
  reservations : ∀ other operationId, other ≠ account →
    s'.reservations.get (other, operationId) = s.reservations.get (other, operationId)
  reservationClosures : ∀ other reservationId, other ≠ account →
    s'.reservationClosures.get (other, reservationId) =
      s.reservationClosures.get (other, reservationId)
  receipts : ∀ other operationId, other ≠ account →
    s'.receipts.get (other, operationId) = s.receipts.get (other, operationId)

section OwnOnly

variable {env : Env AccountId BlockNumber} {s s' : Storage T AccountId BlockNumber}
  {account : AccountId} {call : Call AccountId BlockNumber}

omit [DecidableEq AccountId] [Encode AccountId] [Encode BlockNumber] [LinearOrder BlockNumber] in
theorem OwnOnly.refl (account : AccountId) (s : Storage T AccountId BlockNumber) :
    OwnOnly account s s :=
  ⟨rfl, rfl, rfl, fun _ _ _ => rfl, fun _ _ _ => rfl, fun _ _ _ => rfl, fun _ _ _ => rfl⟩

omit [LinearOrder BlockNumber] in
/-- A posting writes a receipt and a balance of its own account. -/
theorem ownOnly_post (sequence : U64) (p : Posting AccountId) :
    OwnOnly p.account s (s.post env sequence p) :=
  { OwnOnly.refl p.account s with
    balances := fun _ _ different =>
      StorageMap.get_insert_of_ne _ _ fun same => different (Prod.mk.inj same).1
    receipts := fun _ _ different =>
      StorageMap.get_insert_of_ne _ _ fun same => different (Prod.mk.inj same).1 }

omit [DecidableEq AccountId] [Encode AccountId] [Encode BlockNumber] [LinearOrder BlockNumber] in
/-- An account performs the operation of its own call. -/
theorem Call.Own.account_eq (own : call.Own) {operation : Operation AccountId}
    (performed : call.operation (.signed account) = some operation) :
    operation.account = account := by
  cases call with
  | approveService | revokeService | allocate => cases own
  | reserve | consume | release =>
      obtain rfl := Option.some.inj performed
      rfl

/-- A call that any signer may make touches only what is the signer's. -/
theorem Effect.ownOnly (own : call.Own) (effect : Effect env s (.signed account) call s') :
    OwnOnly account s s' := by
  cases effect with
  | retry | replay => exact .refl account s
  | approve | revoke => cases own
  | allocate sequence p _ _ _ posted =>
      have owner : p.account = account := own.account_eq posted.operation
      subst owner
      exact ownOnly_post sequence p
  | reserve sequence p reservation _ posted =>
      have owner : p.account = account := own.account_eq posted.operation
      subst owner
      have posting : OwnOnly p.account s (s.post env sequence p) := ownOnly_post sequence p
      exact { posting with
        reservations := fun _ _ different =>
          StorageMap.get_insert_of_ne _ _ fun same => different (Prod.mk.inj same).1 }
  | close sequence p _ reservationId _ _ _ posted =>
      have owner : p.account = account := own.account_eq posted.operation
      subst owner
      have posting : OwnOnly p.account s (s.post env sequence p) := ownOnly_post sequence p
      exact { posting with
        reservationClosures := fun _ _ different =>
          StorageMap.get_insert_of_ne _ _ fun same => different (Prod.mk.inj same).1 }

end OwnOnly

end Posting

end Chlom.Utility
