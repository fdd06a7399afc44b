import Chlom.Utility.Records

/-!
# Conservation of units

The balance equation of an account is inductive only together with three exact
totals over the stored records: what is reserved is the sum over the open
reservations, what is consumed is the sum over the reservations closed by a
consumption, and what is allocated is the sum over the allocation receipts.
-/

namespace Chlom.Utility

open Chlom.Frame

variable {T : Config} {AccountId BlockNumber : Type}

/-- The kind of the operation that closed a reservation, read off its receipt. -/
def Storage.closingKind (s : Storage T AccountId BlockNumber) (key : AccountId × Id32) :
    Option OperationKind :=
  (s.reservationClosures.get key).bind fun operationId =>
    (s.receipts.get (key.1, operationId)).map ResourceReceipt.kind

section Totals

variable [DecidableEq AccountId]

/-- What a reservation contributes to the open units of an account on a resource. -/
def Storage.openWeight (s : Storage T AccountId BlockNumber) (account : AccountId)
    (resourceId : Id32) (key : AccountId × Id32) (reservation : Reservation AccountId) : Nat :=
  if key.1 = account ∧ reservation.resourceId = resourceId ∧
      s.reservationClosures.get key = none then reservation.units.toNat else 0

/-- What a reservation contributes to the consumed units of an account on a resource. -/
def Storage.consumedWeight (s : Storage T AccountId BlockNumber) (account : AccountId)
    (resourceId : Id32) (key : AccountId × Id32) (reservation : Reservation AccountId) : Nat :=
  if key.1 = account ∧ reservation.resourceId = resourceId ∧
      s.closingKind key = some .consume then reservation.units.toNat else 0

/-- Units of the account's reservations on the resource without a closure. -/
noncomputable def Storage.openUnits (s : Storage T AccountId BlockNumber) (account : AccountId)
    (resourceId : Id32) : Nat :=
  s.reservations.total (s.openWeight account resourceId)

/-- Units of the account's reservations on the resource closed by a consumption. -/
noncomputable def Storage.consumedUnits (s : Storage T AccountId BlockNumber)
    (account : AccountId) (resourceId : Id32) : Nat :=
  s.reservations.total (s.consumedWeight account resourceId)

/-- Units of the account's allocation receipts on the resource. -/
noncomputable def Storage.allocatedUnits (s : Storage T AccountId BlockNumber)
    (account : AccountId) (resourceId : Id32) : Nat :=
  s.receipts.total fun key receipt =>
    if key.1 = account ∧ receipt.resourceId = resourceId ∧ receipt.kind = .allocate then
      receipt.units.toNat else 0

end Totals

/-- The exact accounting of one account on one resource. -/
structure Conserved [DecidableEq AccountId] (s : Storage T AccountId BlockNumber)
    (account : AccountId) (resourceId : Id32) : Prop where
  balanced : (s.balance account resourceId).allocated.toNat =
    (s.balance account resourceId).available.toNat +
      (s.balance account resourceId).reserved.toNat +
        (s.balance account resourceId).consumed.toNat
  reserved : (s.balance account resourceId).reserved.toNat = s.openUnits account resourceId
  consumed : (s.balance account resourceId).consumed.toNat = s.consumedUnits account resourceId
  allocated : (s.balance account resourceId).allocated.toNat = s.allocatedUnits account resourceId

/-! ## How each write moves the totals -/

section Writes

variable [DecidableEq AccountId] {s : Storage T AccountId BlockNumber}

theorem addReservation_openUnits (records : Records s) {key : AccountId × Id32}
    (reservation : Reservation AccountId) (fresh : s.reservations.get key = none)
    (account : AccountId) (resourceId : Id32) :
    (s.addReservation key reservation).openUnits account resourceId =
      s.openUnits account resourceId +
        if key.1 = account ∧ reservation.resourceId = resourceId then
          reservation.units.toNat else 0 := by
  have unclosed := records.closure_fresh fresh
  have inserted := s.reservations.total_insert_fresh (s.openWeight account resourceId)
    reservation fresh
  have weight : s.openWeight account resourceId key reservation =
      if key.1 = account ∧ reservation.resourceId = resourceId then
        reservation.units.toNat else 0 := by
    simp [Storage.openWeight, unclosed]
  rw [weight] at inserted
  exact inserted

theorem addReservation_consumedUnits (records : Records s) {key : AccountId × Id32}
    (reservation : Reservation AccountId) (fresh : s.reservations.get key = none)
    (account : AccountId) (resourceId : Id32) :
    (s.addReservation key reservation).consumedUnits account resourceId =
      s.consumedUnits account resourceId := by
  have unclosed := records.closure_fresh fresh
  have inserted := s.reservations.total_insert_fresh (s.consumedWeight account resourceId)
    reservation fresh
  have weight : s.consumedWeight account resourceId key reservation = 0 := by
    simp [Storage.consumedWeight, Storage.closingKind, unclosed]
  rw [weight] at inserted
  exact inserted

theorem addReservation_balance (s : Storage T AccountId BlockNumber) (key : AccountId × Id32)
    (reservation : Reservation AccountId) (account : AccountId) (resourceId : Id32) :
    (s.addReservation key reservation).balance account resourceId =
      s.balance account resourceId :=
  rfl

theorem addReservation_allocatedUnits (s : Storage T AccountId BlockNumber)
    (key : AccountId × Id32) (reservation : Reservation AccountId) (account : AccountId)
    (resourceId : Id32) :
    (s.addReservation key reservation).allocatedUnits account resourceId =
      s.allocatedUnits account resourceId :=
  rfl

theorem addClosure_balance (s : Storage T AccountId BlockNumber) (key : AccountId × Id32)
    (operationId : Id32) (account : AccountId) (resourceId : Id32) :
    (s.addClosure key operationId).balance account resourceId = s.balance account resourceId :=
  rfl

theorem addClosure_allocatedUnits (s : Storage T AccountId BlockNumber) (key : AccountId × Id32)
    (operationId : Id32) (account : AccountId) (resourceId : Id32) :
    (s.addClosure key operationId).allocatedUnits account resourceId =
      s.allocatedUnits account resourceId :=
  rfl

/-- Closing an open reservation takes its units out of the open total. -/
theorem addClosure_openUnits {key : AccountId × Id32} (operationId : Id32)
    {reservation : Reservation AccountId} (stored : s.reservations.get key = some reservation)
    (still_open : s.reservationClosures.get key = none)
    (account : AccountId) (resourceId : Id32) :
    s.openUnits account resourceId =
      (s.addClosure key operationId).openUnits account resourceId +
        if key.1 = account ∧ reservation.resourceId = resourceId then
          reservation.units.toNat else 0 := by
  have reweighed := s.reservations.total_reweigh (s.openWeight account resourceId)
    ((s.addClosure key operationId).openWeight account resourceId) stored (by
      intro other found ne _
      simp [Storage.openWeight, Storage.addClosure, StorageMap.get_insert_of_ne _ _ ne])
  have closedNow :
      (s.addClosure key operationId).openWeight account resourceId key reservation = 0 := by
    simp [Storage.openWeight, Storage.addClosure]
  have openBefore : s.openWeight account resourceId key reservation =
      if key.1 = account ∧ reservation.resourceId = resourceId then
        reservation.units.toNat else 0 := by
    simp [Storage.openWeight, still_open]
  rw [closedNow, openBefore] at reweighed
  exact reweighed

/-- The closing kinds after one reservation is closed by a stored receipt. -/
theorem addClosure_closingKind {key : AccountId × Id32} {operationId : Id32}
    {receipt : ResourceReceipt AccountId BlockNumber}
    (filed : s.receipts.get (key.1, operationId) = some receipt) (other : AccountId × Id32) :
    (s.addClosure key operationId).closingKind other =
      if other = key then some receipt.kind else s.closingKind other := by
  by_cases same : other = key
  · simp [Storage.closingKind, Storage.addClosure, same, filed]
  · simp [Storage.closingKind, Storage.addClosure, StorageMap.get_insert_of_ne _ _ same, same]

/-- Closing an open reservation adds its units to the consumed total exactly
when the closing receipt is a consumption. -/
theorem addClosure_consumedUnits {key : AccountId × Id32} {operationId : Id32}
    {reservation : Reservation AccountId} {receipt : ResourceReceipt AccountId BlockNumber}
    (stored : s.reservations.get key = some reservation)
    (still_open : s.reservationClosures.get key = none)
    (filed : s.receipts.get (key.1, operationId) = some receipt)
    (account : AccountId) (resourceId : Id32) :
    (s.addClosure key operationId).consumedUnits account resourceId =
      s.consumedUnits account resourceId +
        if key.1 = account ∧ reservation.resourceId = resourceId ∧ receipt.kind = .consume then
          reservation.units.toNat else 0 := by
  have reweighed := s.reservations.total_reweigh
    ((s.addClosure key operationId).consumedWeight account resourceId)
    (s.consumedWeight account resourceId) stored (by
      intro other found ne _
      simp [Storage.consumedWeight, addClosure_closingKind filed, ne])
  have notConsumed : s.consumedWeight account resourceId key reservation = 0 := by
    simp [Storage.consumedWeight, Storage.closingKind, still_open]
  have consumedNow :
      (s.addClosure key operationId).consumedWeight account resourceId key reservation =
        if key.1 = account ∧ reservation.resourceId = resourceId ∧ receipt.kind = .consume then
          reservation.units.toNat else 0 := by
    simp [Storage.consumedWeight, addClosure_closingKind filed]
  rw [notConsumed, consumedNow] at reweighed
  exact reweighed

variable [Encode AccountId] [Encode BlockNumber]

theorem post_openUnits (s : Storage T AccountId BlockNumber) (env : Env AccountId BlockNumber)
    (sequence : U64) (p : Posting AccountId) (account : AccountId) (resourceId : Id32) :
    (s.post env sequence p).openUnits account resourceId = s.openUnits account resourceId :=
  rfl

/-- A fresh receipt closes nothing. -/
theorem post_closingKind (records : Records s) (env : Env AccountId BlockNumber) (sequence : U64)
    (p : Posting AccountId) (fresh : s.receipts.get (p.account, p.operationId) = none)
    (key : AccountId × Id32) : (s.post env sequence p).closingKind key = s.closingKind key := by
  have closures : (s.post env sequence p).reservationClosures = s.reservationClosures := rfl
  cases closure : s.reservationClosures.get key with
  | none => simp [Storage.closingKind, closures, closure]
  | some operationId =>
      obtain ⟨_, receipt, _, filed, _⟩ := records.closed closure
      simp [Storage.closingKind, closures, closure, filed,
        (post_extends env sequence p fresh).receipts filed]

theorem post_consumedUnits (records : Records s) (env : Env AccountId BlockNumber)
    (sequence : U64) (p : Posting AccountId)
    (fresh : s.receipts.get (p.account, p.operationId) = none) (account : AccountId)
    (resourceId : Id32) :
    (s.post env sequence p).consumedUnits account resourceId =
      s.consumedUnits account resourceId := by
  apply StorageMap.total_congr
  intro key reservation _
  simp only [Storage.consumedWeight, post_closingKind records env sequence p fresh]

theorem post_allocatedUnits (env : Env AccountId BlockNumber) (sequence : U64)
    (p : Posting AccountId) (fresh : s.receipts.get (p.account, p.operationId) = none)
    (account : AccountId) (resourceId : Id32) :
    (s.post env sequence p).allocatedUnits account resourceId =
      s.allocatedUnits account resourceId +
        if p.account = account ∧ p.resourceId = resourceId ∧ p.kind = .allocate then
          p.units.toNat else 0 :=
  StorageMap.total_insert_fresh _ _ _ fresh

/-- A posting moves its units on its own account and resource and none elsewhere. -/
theorem post_moves (env : Env AccountId BlockNumber) (sequence : U64) {p : Posting AccountId}
    (moves : Moves p.units.toNat (s.balance p.account p.resourceId) p.balanceAfter p.kind)
    (account : AccountId) (resourceId : Id32) :
    Moves (if p.account = account ∧ p.resourceId = resourceId then p.units.toNat else 0)
      (s.balance account resourceId) ((s.post env sequence p).balance account resourceId)
      p.kind := by
  rw [post_balance]
  by_cases hit : p.account = account ∧ p.resourceId = resourceId
  · obtain ⟨rfl, rfl⟩ := hit
    simpa using moves
  · rw [if_neg hit, if_neg hit]
    cases p.kind <;> simp [Moves]

end Writes

/-! ## Every call conserves units -/

section Calls

variable [DecidableEq AccountId] [Encode AccountId] [Encode BlockNumber] [LinearOrder BlockNumber]
  {env : Env AccountId BlockNumber} {s s' : Storage T AccountId BlockNumber}
  {origin : RawOrigin AccountId} {call : Call AccountId BlockNumber}

/-- Every successful call keeps the accounts exact. -/
theorem Effect.conserved (records : Records s) {account : AccountId} {resourceId : Id32}
    (conserved : Conserved s account resourceId) (effect : Effect env s origin call s') :
    Conserved s' account resourceId := by
  obtain ⟨balanced, reservedEq, consumedEq, allocatedEq⟩ := conserved
  cases effect with
  | retry => exact ⟨balanced, reservedEq, consumedEq, allocatedEq⟩
  | replay => exact ⟨balanced, reservedEq, consumedEq, allocatedEq⟩
  | approve => exact ⟨balanced, reservedEq, consumedEq, allocatedEq⟩
  | revoke => exact ⟨balanced, reservedEq, consumedEq, allocatedEq⟩
  | allocate sequence p _ _ _ posted =>
      have kind : p.kind = .allocate := posted.kind
      have moves := post_moves env sequence posted.moves account resourceId
      have openAfter := post_openUnits s env sequence p account resourceId
      have consumedAfter :=
        post_consumedUnits records env sequence p posted.fresh account resourceId
      have allocatedAfter := post_allocatedUnits env sequence p posted.fresh account resourceId
      simp only [kind, and_true] at moves allocatedAfter
      obtain ⟨allocatedMove, availableMove, reservedMove, consumedMove⟩ := moves
      constructor <;> omega
  | reserve sequence p reservation _ posted _ _ resource units =>
      have kind : p.kind = .reserve := posted.kind
      have moves := post_moves env sequence posted.moves account resourceId
      have postedRecords := records.post env sequence p posted.fresh
      have fresh := records.reservation_fresh posted.fresh
      have openAfter := addReservation_openUnits postedRecords reservation fresh account resourceId
      have consumedAfter :=
        addReservation_consumedUnits postedRecords reservation fresh account resourceId
      have allocatedAfter := post_allocatedUnits env sequence p posted.fresh account resourceId
      simp only [post_openUnits, resource, units] at openAfter
      rw [post_consumedUnits records env sequence p posted.fresh] at consumedAfter
      simp only [kind, reduceCtorEq, and_false, if_false, Nat.add_zero] at moves allocatedAfter
      obtain ⟨allocatedMove, availableMove, reservedMove, consumedMove⟩ := moves
      constructor <;>
        simp only [addReservation_balance, addReservation_allocatedUnits] <;> omega
  | close sequence p kind reservationId reservation _ closing posted link stored _ still_open
      resource units =>
      have moves := post_moves env sequence posted.moves account resourceId
      have openAfter := @addClosure_openUnits _ _ _ _ (s.post env sequence p) _ p.operationId _
        stored still_open account resourceId
      have consumedAfter := @addClosure_consumedUnits _ _ _ _ (s.post env sequence p) _ _ _ _
        stored still_open (post_receipt s env sequence p) account resourceId
      have allocatedAfter := post_allocatedUnits env sequence p posted.fresh account resourceId
      have receiptKind : (p.receipt T env s sequence).kind = kind := posted.kind
      have postedKind : p.kind = kind := posted.kind
      simp only [post_openUnits, resource, units] at openAfter
      simp only [post_consumedUnits records env sequence p posted.fresh, resource, units,
        receiptKind] at consumedAfter
      rw [postedKind] at moves allocatedAfter
      cases closing with
      | inl consuming =>
          subst consuming
          simp only [reduceCtorEq, and_false, and_true, if_false, Nat.add_zero]
            at moves allocatedAfter consumedAfter
          obtain ⟨allocatedMove, availableMove, reservedMove, consumedMove⟩ := moves
          constructor <;> simp only [addClosure_balance, addClosure_allocatedUnits] <;> omega
      | inr releasing =>
          subst releasing
          simp only [reduceCtorEq, and_false, if_false, Nat.add_zero]
            at moves allocatedAfter consumedAfter
          obtain ⟨allocatedMove, availableMove, reservedMove, consumedMove⟩ := moves
          constructor <;> simp only [addClosure_balance, addClosure_allocatedUnits] <;> omega

theorem conserved_invariant (T : Config) :
    Invariant (pallet T) fun _ (s : Storage T AccountId BlockNumber) =>
      Records s ∧ ∀ account resourceId, Conserved s account resourceId where
  passes _ both := both
  keeps both done :=
    ⟨(pallet_effect done).records both.1, fun account resourceId =>
      (pallet_effect done).conserved both.1 (both.2 account resourceId)⟩

end Calls

/-! ## Closing a reservation never runs out of units -/

section Closing

variable [DecidableEq AccountId] {s s' : Storage T AccountId BlockNumber}

/-- The units of an open reservation are part of the reserved units. -/
theorem Conserved.open_le {account : AccountId} {reservationId : Id32}
    {reservation : Reservation AccountId}
    (conserved : Conserved s account reservation.resourceId)
    (stored : s.reservations.get (account, reservationId) = some reservation)
    (still_open : s.reservationClosures.get (account, reservationId) = none) :
    reservation.units.toNat ≤ (s.balance account reservation.resourceId).reserved.toNat := by
  have weight : s.openWeight account reservation.resourceId (account, reservationId) reservation =
      reservation.units.toNat := by
    simp [Storage.openWeight, still_open]
  calc
    reservation.units.toNat ≤ s.openUnits account reservation.resourceId :=
      weight ▸ s.reservations.weight_le_total _ stored
    _ = _ := conserved.reserved.symm

/-- The three operations by which an open reservation may be closed. -/
theorem Conserved.closable {account : AccountId} {reservationId : Id32}
    {reservation : Reservation AccountId}
    (conserved : Conserved s account reservation.resourceId)
    (stored : s.reservations.get (account, reservationId) = some reservation)
    (still_open : s.reservationClosures.get (account, reservationId) = none) :
    (∃ reserved, Checked.sub (s.balance account reservation.resourceId).reserved
        reservation.units = some reserved) ∧
      (∃ consumed, Checked.add (s.balance account reservation.resourceId).consumed
        reservation.units = some consumed) ∧
      ∃ available, Checked.add (s.balance account reservation.resourceId).available
        reservation.units = some available := by
  have held := conserved.open_le stored still_open
  have balanced := conserved.balanced
  have bound := (s.balance account reservation.resourceId).allocated.isLt
  refine ⟨Checked.exists_sub held, Checked.exists_add ?_, Checked.exists_add ?_⟩
  · omega
  · omega

variable [Encode AccountId] [Encode BlockNumber] [LinearOrder BlockNumber]

/-- The only counter that can overflow while a reservation is closed under exact
accounts is the one of the receipts. -/
theorem closeReservation_arithmetic {env : Env AccountId BlockNumber} {account : AccountId}
    {operationId reservationId : Id32} {kind : OperationKind}
    (conserved : ∀ resourceId, Conserved s account resourceId)
    (failed : closeReservation env account operationId reservationId kind s =
      .error (.module .arithmeticFailure) s') :
    s.receiptCount = BitVec.allOnes 64 := by
  -- with room for one more receipt, only the balances are left to fail
  by_contra below
  obtain ⟨next, follows⟩ := Checked.exists_add_one (by decide) below
  simp only [closeReservation, ensure_bind_error, replay_or_error, DispatchError.module.injEq,
    reduceCtorEq, false_and, and_false, false_or, exists_false, Dispatch.read_bind,
    okOr_bind_error] at failed
  obtain ⟨_, _, reservation, stored, _, unclosed, failed⟩ := failed
  obtain ⟨⟨reserved, reservedEq⟩, ⟨consumed, consumedEq⟩, ⟨available, availableEq⟩⟩ :=
    (conserved reservation.resourceId).closable stored (Option.isNone_iff_eq_none.mp unclosed)
  let posting (balanceAfter : ResourceBalance) : Posting AccountId :=
    { operationId, requestHash := requestHash T (kind, account, reservationId), kind, account,
      resourceId := reservation.resourceId, reservationId := some reservationId,
      units := reservation.units, approvalHash := none, balanceAfter }
  by_cases consuming : kind = .consume
  · subst consuming
    simp only [Dispatch.onlyIf, if_true, bind_assoc, ensure_bind_error, okOr_bind_error,
      Dispatch.read_bind, DispatchError.module.injEq, reduceCtorEq, false_and, and_false, false_or,
      reservedEq, consumedEq, Option.some.injEq, exists_eq_left', pure_bind] at failed
    obtain ⟨_, _, _, failed⟩ := failed
    have done := (appendReceipt_bind (posting _) follows).symm.trans failed
    cases done
  · simp only [Dispatch.onlyIf, consuming, if_false, okOr_bind_error, Dispatch.read_bind,
      reduceCtorEq, false_and, false_or, reservedEq, availableEq, Option.some.injEq,
      exists_eq_left', pure_bind] at failed
    have done := (appendReceipt_bind (posting _) follows).symm.trans failed
    cases done

end Closing

section Runs

variable [DecidableEq AccountId]

theorem conserved_empty (account : AccountId) (resourceId : Id32) :
    Conserved (.empty T AccountId BlockNumber) account resourceId where
  balanced := rfl
  reserved := (StorageMap.total_empty _).symm
  consumed := (StorageMap.total_empty _).symm
  allocated := (StorageMap.total_empty _).symm

variable [Encode AccountId] [Encode BlockNumber] [LinearOrder BlockNumber]

theorem conserved_run (T : Config) (genesis : BlockNumber)
    (inputs : List (Input AccountId BlockNumber (Call AccountId BlockNumber)))
    (account : AccountId) (resourceId : Id32) :
    Conserved (run T genesis inputs).storage account resourceId :=
  ((conserved_invariant T).run ⟨records_empty, conserved_empty⟩ inputs).2 account resourceId

/-- In every reachable state every account is exact on every resource: what was
allocated is available, reserved or consumed, and each of the parts is the sum
of the records behind it.  Every open reservation can therefore be closed either
way without an arithmetic failure on a balance. -/
theorem units_conserved (T : Config) (genesis : BlockNumber)
    (inputs : List (Input AccountId BlockNumber (Call AccountId BlockNumber))) :
    (∀ account resourceId, Conserved (run T genesis inputs).storage account resourceId) ∧
      (∀ account reservationId reservation,
        (run T genesis inputs).storage.reservations.get (account, reservationId) =
            some reservation →
          (run T genesis inputs).storage.reservationClosures.get (account, reservationId) = none →
            let balance := (run T genesis inputs).storage.balance account reservation.resourceId
            Checked.sub balance.reserved reservation.units ≠ none ∧
              Checked.add balance.consumed reservation.units ≠ none ∧
                Checked.add balance.available reservation.units ≠ none) ∧
      ∀ env account operationId reservationId kind s',
        closeReservation env account operationId reservationId kind
            (run T genesis inputs).storage = .error (.module .arithmeticFailure) s' →
          (run T genesis inputs).storage.receiptCount = BitVec.allOnes 64 := by
  refine ⟨conserved_run T genesis inputs, ?_, ?_⟩
  · intro account reservationId reservation stored still_open
    obtain ⟨⟨_, subtracted⟩, ⟨_, consumed⟩, ⟨_, released⟩⟩ :=
      (conserved_run T genesis inputs account reservation.resourceId).closable stored still_open
    simp [subtracted, consumed, released]
  · intro env account operationId reservationId kind s' failed
    exact closeReservation_arithmetic (conserved_run T genesis inputs account) failed

end Runs

end Chlom.Utility
