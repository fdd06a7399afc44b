import Chlom.Utility.Conservation

/-!
# The life of a reservation

A reservation is written once, closed at most once and only by its owner, and
as long as it is open its owner can get the units back: a release consults no
service, and the exact accounts rule out every arithmetic failure.
-/

namespace Chlom.Utility

open Chlom.Frame

variable {T : Config} {AccountId BlockNumber : Type}

/-- Only a signed consume or release call performs a closing operation. -/
theorem operation_close {origin : RawOrigin AccountId} {call : Call AccountId BlockNumber}
    {account : AccountId} {operationId reservationId : Id32} {kind : OperationKind}
    (performed : call.operation origin =
      some ⟨account, operationId, .close kind reservationId⟩) :
    origin = .signed account ∧
      (call = .consume operationId reservationId ∨ call = .release operationId reservationId) := by
  cases call with
  | approveService => cases performed
  | revokeService => cases performed
  | allocate => cases performed
  | reserve => simp [Call.operation] at performed
  | consume => simp_all [Call.operation]
  | release => simp_all [Call.operation]

section Closing

variable [DecidableEq AccountId] [Encode AccountId] [Encode BlockNumber] [LinearOrder BlockNumber]
  {env : Env AccountId BlockNumber} {s s' : Storage T AccountId BlockNumber}
  {origin : RawOrigin AccountId} {call : Call AccountId BlockNumber}

/-- A closure appears only by a consume or release call signed by the account
it is filed under. -/
theorem Effect.closes (effect : Effect env s origin call s') {account : AccountId}
    {reservationId operationId : Id32}
    (still_open : s.reservationClosures.get (account, reservationId) = none)
    (closed : s'.reservationClosures.get (account, reservationId) = some operationId) :
    origin = .signed account ∧
      (call = .consume operationId reservationId ∨ call = .release operationId reservationId) := by
  have unchanged (same : s'.reservationClosures = s.reservationClosures) : False := by
    rw [same, still_open] at closed
    cases closed
  cases effect with
  | retry => exact (unchanged rfl).elim
  | replay => exact (unchanged rfl).elim
  | approve => exact (unchanged rfl).elim
  | revoke => exact (unchanged rfl).elim
  | allocate => exact (unchanged rfl).elim
  | reserve => exact (unchanged rfl).elim
  | close sequence p kind other reservation signed closing posted =>
      rcases StorageMap.get_insert_eq_some.mp closed with ⟨same, rfl⟩ | ⟨_, before⟩
      · obtain ⟨rfl, rfl⟩ := Prod.mk.inj same
        exact operation_close posted.operation
      · exact absurd (still_open.symm.trans before) (Option.some_ne_none _).symm

/-- What a release posts. -/
def releasePosting (T : Config) (account : AccountId) (operationId reservationId : Id32)
    (reservation : Reservation AccountId) (balanceAfter : ResourceBalance) : Posting AccountId where
  operationId := operationId
  requestHash := requestHash T (OperationKind.release, account, reservationId)
  kind := .release
  account := account
  resourceId := reservation.resourceId
  reservationId := some reservationId
  units := reservation.units
  approvalHash := none
  balanceAfter := balanceAfter

/-- The owner of an open reservation can release it at any block, whatever
became of the service. -/
theorem release_open {account : AccountId} {operationId reservationId : Id32}
    {reservation : Reservation AccountId} (records : Records s)
    (conserved : Conserved s account reservation.resourceId)
    (stored : s.reservations.get (account, reservationId) = some reservation)
    (still_open : s.reservationClosures.get (account, reservationId) = none)
    (room : s.receiptCount ≠ BitVec.allOnes 64) (nonzero : operationId ≠ ZERO_ID)
    (fresh : s.receipts.get (account, operationId) = none) (env : Env AccountId BlockNumber) :
    ∃ sequence balanceAfter,
      Moves reservation.units.toNat (s.balance account reservation.resourceId) balanceAfter
          .release ∧
        pallet T env (.signed account) (.release operationId reservationId) s = .ok ()
          ((s.post env sequence (releasePosting T account operationId reservationId reservation
            balanceAfter)).addClosure (account, reservationId) operationId) := by
  obtain ⟨owner, reservationNonzero, _⟩ := records.reserved stored
  obtain ⟨⟨reserved, reservedEq⟩, _, ⟨available, availableEq⟩⟩ :=
    conserved.closable stored still_open
  obtain ⟨sequence, follows⟩ := Checked.exists_add_one (by decide) room
  let balanceAfter := { s.balance account reservation.resourceId with reserved, available }
  refine ⟨sequence, balanceAfter,
    ⟨rfl, Checked.add_eq_some.mp availableEq, Checked.sub_eq_some.mp reservedEq, rfl⟩, ?_⟩
  have guards : operationId ≠ ZERO_ID ∧ reservationId ≠ ZERO_ID := ⟨nonzero, reservationNonzero⟩
  simp only [pallet, release, ensureSigned_bind_ok, closeReservation, ensure_bind_ok, replay_or_ok]
  refine ⟨account, rfl, guards, .inr ⟨fresh, ?_⟩⟩
  simp only [Dispatch.read_bind, okOr_bind_ok, ensure_bind_ok, stored, Option.some.injEq,
    exists_eq_left', still_open, Option.isNone_none, Dispatch.onlyIf, reduceCtorEq, if_false,
    pure_bind, reservedEq, availableEq, true_and]
  exact ⟨owner, appendReceipt_bind
    (releasePosting T account operationId reservationId reservation balanceAfter) follows⟩

/-- The units of one reservation went from reserved back to available, and no
other balance changed. -/
structure Returned (account : AccountId) (reservation : Reservation AccountId)
    (s s' : Storage T AccountId BlockNumber) : Prop where
  available : (s'.balance account reservation.resourceId).available.toNat =
    (s.balance account reservation.resourceId).available.toNat + reservation.units.toNat
  reserved : (s'.balance account reservation.resourceId).reserved.toNat + reservation.units.toNat =
    (s.balance account reservation.resourceId).reserved.toNat
  allocated : (s'.balance account reservation.resourceId).allocated =
    (s.balance account reservation.resourceId).allocated
  consumed : (s'.balance account reservation.resourceId).consumed =
    (s.balance account reservation.resourceId).consumed
  elsewhere : ∀ other resourceId, (other, resourceId) ≠ (account, reservation.resourceId) →
    s'.balance other resourceId = s.balance other resourceId

omit [LinearOrder BlockNumber] in
theorem returned_release {account : AccountId} {operationId reservationId : Id32}
    {reservation : Reservation AccountId} {sequence : U64} {balanceAfter : ResourceBalance}
    (moves : Moves reservation.units.toNat (s.balance account reservation.resourceId) balanceAfter
      .release) :
    Returned account reservation s
      ((s.post env sequence (releasePosting T account operationId reservationId reservation
        balanceAfter)).addClosure (account, reservationId) operationId) := by
  let p := releasePosting T account operationId reservationId reservation balanceAfter
  have balanceEq (other : AccountId) (resourceId : Id32) :=
    post_balance s env sequence p other resourceId
  have own : (s.post env sequence p).balance account reservation.resourceId = balanceAfter := by
    rw [balanceEq]
    exact if_pos ⟨rfl, rfl⟩
  obtain ⟨allocatedEq, availableEq, reservedEq, consumedEq⟩ := moves
  constructor
  · rw [addClosure_balance, own]
    exact availableEq
  · rw [addClosure_balance, own]
    exact reservedEq.symm
  · rw [addClosure_balance, own]
    exact BitVec.eq_of_toNat_eq allocatedEq
  · rw [addClosure_balance, own]
    exact BitVec.eq_of_toNat_eq consumedEq
  · intro other resourceId ne
    rw [addClosure_balance, balanceEq]
    apply if_neg
    rintro ⟨rfl, rfl⟩
    exact ne rfl

/-- A stored reservation never changes; a closure of it never changes either and
names a consumption or release of the same account, resource and units; while
it is open only calls signed by its owner close it, and a release by the owner
succeeds at any block. -/
theorem reservation_lifecycle (T : Config) (genesis : BlockNumber)
    (inputs : List (Input AccountId BlockNumber (Call AccountId BlockNumber)))
    {account : AccountId} {reservationId : Id32} {reservation : Reservation AccountId}
    (stored : (run T genesis inputs).storage.reservations.get (account, reservationId) =
      some reservation) :
    let w := run T genesis inputs
    reservation.owner = account ∧
      (∀ later, (Frame.run (pallet T) w later).storage.reservations.get (account, reservationId) =
        some reservation) ∧
      (∀ operationId,
        w.storage.reservationClosures.get (account, reservationId) = some operationId →
          (∃ receipt, w.storage.receipts.get (account, operationId) = some receipt ∧
            (receipt.kind = .consume ∨ receipt.kind = .release) ∧ receipt.account = account ∧
              receipt.resourceId = reservation.resourceId ∧ receipt.units = reservation.units) ∧
          ∀ later, (Frame.run (pallet T) w later).storage.reservationClosures.get
            (account, reservationId) = some operationId) ∧
      (w.storage.reservationClosures.get (account, reservationId) = none →
        (∀ input operationId, (step (pallet T) w input).1.storage.reservationClosures.get
            (account, reservationId) = some operationId →
          ∃ permits call, input = .submit permits (.signed account) call ∧
            (call = .consume operationId reservationId ∨
              call = .release operationId reservationId)) ∧
        (w.storage.receiptCount ≠ BitVec.allOnes 64 →
          ∀ (env : Env AccountId BlockNumber) (operationId : Id32), operationId ≠ ZERO_ID →
            w.storage.receipts.get (account, operationId) = none →
              ∃ s', pallet T env (.signed account) (.release operationId reservationId) w.storage =
                  .ok () s' ∧
                Returned account reservation w.storage s' ∧
                  s'.reservationClosures.get (account, reservationId) = some operationId)) := by
  intro w
  have records : Records w.storage := records_run T genesis inputs
  have extension (later) := extends_run records later
  refine ⟨(records.reserved stored).1, fun later => (extension later).reservations stored, ?_, ?_⟩
  · intro operationId closed
    obtain ⟨found, receipt, foundEq, filed, kind, owner, resource, units, _⟩ :=
      records.closed closed
    obtain rfl := Option.some.inj (foundEq.symm.trans stored)
    exact ⟨⟨receipt, filed, kind, owner, resource, units⟩,
      fun later => (extension later).closures closed⟩
  · intro still_open
    constructor
    · intro input operationId closed
      rcases step_cases (pallet T) w input with
        ⟨block, _, after⟩ | after | ⟨permits, origin, call, s', rfl, ran, after⟩
      · rw [after] at closed
        rw [closed] at still_open
        cases still_open
      · rw [after] at closed
        rw [closed] at still_open
        cases still_open
      · rw [after] at closed
        obtain ⟨rfl, calls⟩ := (pallet_effect ran).closes still_open closed
        exact ⟨permits, call, rfl, calls⟩
    · intro room env operationId nonzero fresh
      have conserved : Conserved w.storage account reservation.resourceId :=
        conserved_run T genesis inputs account reservation.resourceId
      obtain ⟨sequence, balanceAfter, moves, ran⟩ :=
        release_open records conserved stored still_open room nonzero fresh env
      exact ⟨_, ran, returned_release moves, StorageMap.get_insert_self _ _ _⟩

open Sample in
/-- The sample reservation can be released long after its service ended. -/
theorem reservation_lifecycle_sample :
    ∃ s', pallet config ⟨500, fun _ => false⟩ (.signed alice)
        (.release (Id32.repeated 13) (Id32.repeated 12))
        (run config 1 (inputs ++ [submit (.signed alice) reserveCall])).storage = .ok () s' ∧
      Returned alice reservation
        (run config 1 (inputs ++ [submit (.signed alice) reserveCall])).storage s' := by
  have stored : (run config 1 (inputs ++ [submit (.signed alice) reserveCall])
      ).storage.reservations.get (alice, Id32.repeated 12) = some reservation := by decide +kernel
  obtain ⟨_, _, _, whileOpen⟩ := reservation_lifecycle config 1 _ stored
  obtain ⟨_, releasable⟩ := whileOpen (by decide +kernel)
  obtain ⟨s', ran, returned, _⟩ := releasable (by decide +kernel) ⟨500, fun _ => false⟩
    (Id32.repeated 13) (by decide +kernel) (by decide +kernel)
  exact ⟨s', ran, returned⟩

end Closing

end Chlom.Utility
