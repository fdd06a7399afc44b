import Chlom.Utility.Effects

/-!
# Receipts, reservations and closures

Stored records never change: every receipt, reservation and closure survives
all later calls.  A reservation hangs on the receipt that made it, and a closure
names a consumption or release of its own reservation.
-/

namespace Chlom.Utility

open Chlom.Frame

variable {T : Config} {AccountId BlockNumber : Type}

/-- A closure names a consumption or release of its own reservation. -/
def Storage.ClosedBy (s : Storage T AccountId BlockNumber) (key : AccountId × Id32)
    (operationId : Id32) : Prop :=
  ∃ reservation receipt, s.reservations.get key = some reservation ∧
    s.receipts.get (key.1, operationId) = some receipt ∧
      (receipt.kind = .consume ∨ receipt.kind = .release) ∧ receipt.account = key.1 ∧
        receipt.resourceId = reservation.resourceId ∧ receipt.units = reservation.units ∧
          receipt.reservationId = some key.2

/-- Reservations and closures hang on receipts of their own account. -/
structure Records (s : Storage T AccountId BlockNumber) : Prop where
  owner : ∀ {key receipt}, s.receipts.get key = some receipt → receipt.account = key.1
  reserved : ∀ {key reservation}, s.reservations.get key = some reservation →
    reservation.owner = key.1 ∧ key.2 ≠ ZERO_ID ∧ s.receipts.get key ≠ none
  closed : ∀ {key operationId}, s.reservationClosures.get key = some operationId →
    s.ClosedBy key operationId

/-- Every stored receipt, reservation and closure is still stored, unchanged. -/
structure Extends (s s' : Storage T AccountId BlockNumber) : Prop where
  receipts : ∀ {key receipt}, s.receipts.get key = some receipt →
    s'.receipts.get key = some receipt
  reservations : ∀ {key reservation}, s.reservations.get key = some reservation →
    s'.reservations.get key = some reservation
  closures : ∀ {key operationId}, s.reservationClosures.get key = some operationId →
    s'.reservationClosures.get key = some operationId

section Extension

variable {s s' s'' : Storage T AccountId BlockNumber}

theorem Extends.refl (s : Storage T AccountId BlockNumber) : Extends s s where
  receipts stored := stored
  reservations stored := stored
  closures stored := stored

theorem Extends.trans (first : Extends s s') (second : Extends s' s'') : Extends s s'' where
  receipts stored := second.receipts (first.receipts stored)
  reservations stored := second.reservations (first.reservations stored)
  closures stored := second.closures (first.closures stored)

theorem Extends.closedBy (extension : Extends s s') {key : AccountId × Id32} {operationId : Id32}
    (closed : s.ClosedBy key operationId) : s'.ClosedBy key operationId := by
  obtain ⟨reservation, receipt, reserved, filed, rest⟩ := closed
  exact ⟨reservation, receipt, extension.reservations reserved, extension.receipts filed, rest⟩

theorem Records.reservation_fresh (records : Records s) {key : AccountId × Id32}
    (fresh : s.receipts.get key = none) : s.reservations.get key = none := by
  cases stored : s.reservations.get key with
  | none => rfl
  | some reservation => exact absurd fresh (records.reserved stored).2.2

theorem Records.closure_fresh (records : Records s) {key : AccountId × Id32}
    (fresh : s.reservations.get key = none) : s.reservationClosures.get key = none := by
  cases stored : s.reservationClosures.get key with
  | none => rfl
  | some operationId =>
      obtain ⟨reservation, _, reserved, _⟩ := records.closed stored
      rw [fresh] at reserved
      cases reserved

end Extension

section Effects

variable [DecidableEq AccountId] {s s' : Storage T AccountId BlockNumber}

theorem addReservation_extends {key : AccountId × Id32} {reservation : Reservation AccountId}
    (fresh : s.reservations.get key = none) : Extends s (s.addReservation key reservation) where
  receipts stored := stored
  reservations stored := StorageMap.get_insert_of_some _ _ fresh stored
  closures stored := stored

theorem addClosure_extends {key : AccountId × Id32} {operationId : Id32}
    (fresh : s.reservationClosures.get key = none) : Extends s (s.addClosure key operationId) where
  receipts stored := stored
  reservations stored := stored
  closures stored := StorageMap.get_insert_of_some _ _ fresh stored

theorem Records.addReservation (records : Records s) {key : AccountId × Id32}
    {reservation : Reservation AccountId} (fresh : s.reservations.get key = none)
    (owner : reservation.owner = key.1) (nonzero : key.2 ≠ ZERO_ID)
    (filed : s.receipts.get key ≠ none) : Records (s.addReservation key reservation) where
  owner := records.owner
  reserved {other found} stored := by
    rcases StorageMap.get_insert_eq_some.mp stored with ⟨rfl, rfl⟩ | ⟨_, before⟩
    · exact ⟨owner, nonzero, filed⟩
    · exact records.reserved before
  closed stored := (addReservation_extends fresh).closedBy (records.closed stored)

theorem Records.addClosure (records : Records s) {key : AccountId × Id32} {operationId : Id32}
    (fresh : s.reservationClosures.get key = none) (closed : s.ClosedBy key operationId) :
    Records (s.addClosure key operationId) where
  owner := records.owner
  reserved := records.reserved
  closed {other found} stored := by
    apply (addClosure_extends fresh).closedBy
    rcases StorageMap.get_insert_eq_some.mp stored with ⟨rfl, rfl⟩ | ⟨_, before⟩
    · exact closed
    · exact records.closed before

variable [Encode AccountId] [Encode BlockNumber]

theorem post_extends (env : Env AccountId BlockNumber) (sequence : U64) (p : Posting AccountId)
    (fresh : s.receipts.get (p.account, p.operationId) = none) :
    Extends s (s.post env sequence p) where
  receipts stored := StorageMap.get_insert_of_some _ _ fresh stored
  reservations stored := stored
  closures stored := stored

theorem post_receipt (s : Storage T AccountId BlockNumber) (env : Env AccountId BlockNumber)
    (sequence : U64) (p : Posting AccountId) :
    (s.post env sequence p).receipts.get (p.account, p.operationId) =
      some (p.receipt T env s sequence) :=
  StorageMap.get_insert_self _ _ _

theorem post_balance (s : Storage T AccountId BlockNumber) (env : Env AccountId BlockNumber)
    (sequence : U64) (p : Posting AccountId) (account : AccountId) (resourceId : Id32) :
    (s.post env sequence p).balance account resourceId =
      if p.account = account ∧ p.resourceId = resourceId then p.balanceAfter
      else s.balance account resourceId := by
  simp [Storage.balance, Storage.post, StorageMap.getD_insert, eq_comm]

theorem Records.post (records : Records s) (env : Env AccountId BlockNumber) (sequence : U64)
    (p : Posting AccountId)
    (fresh : s.receipts.get (p.account, p.operationId) = none) :
    Records (s.post env sequence p) where
  owner {key receipt} stored := by
    rcases StorageMap.get_insert_eq_some.mp stored with ⟨rfl, rfl⟩ | ⟨_, before⟩
    · rfl
    · exact records.owner before
  reserved {key reservation} stored := by
    obtain ⟨owner, nonzero, filed⟩ := records.reserved stored
    refine ⟨owner, nonzero, ?_⟩
    obtain ⟨receipt, receiptEq⟩ := Option.ne_none_iff_exists'.mp filed
    rw [(post_extends env sequence p fresh).receipts receiptEq]
    exact Option.some_ne_none _
  closed stored := (post_extends env sequence p fresh).closedBy (records.closed stored)

variable [LinearOrder BlockNumber] {env : Env AccountId BlockNumber}
  {origin : RawOrigin AccountId} {call : Call AccountId BlockNumber}

/-- No call changes or removes a stored receipt, reservation or closure. -/
theorem Effect.extends (records : Records s) (effect : Effect env s origin call s') :
    Extends s s' := by
  cases effect with
  | retry => exact .refl s
  | replay => exact .refl s
  | approve => exact ⟨id, id, id⟩
  | revoke => exact ⟨id, id, id⟩
  | allocate sequence p _ _ _ posted => exact post_extends env sequence p posted.fresh
  | reserve sequence p _ _ posted =>
      exact (post_extends env sequence p posted.fresh).trans
        (addReservation_extends (records.reservation_fresh posted.fresh))
  | close sequence p _ _ _ _ _ posted _ _ _ still_open =>
      exact (post_extends env sequence p posted.fresh).trans (addClosure_extends still_open)

theorem Effect.records (records : Records s) (effect : Effect env s origin call s') :
    Records s' := by
  cases effect with
  | retry => exact records
  | replay => exact records
  | approve => exact ⟨records.owner, records.reserved, records.closed⟩
  | revoke => exact ⟨records.owner, records.reserved, records.closed⟩
  | allocate sequence p _ _ _ posted => exact records.post env sequence p posted.fresh
  | reserve sequence p reservation _ posted link owner =>
      refine (records.post env sequence p posted.fresh).addReservation
        (records.reservation_fresh posted.fresh) owner posted.nonzero ?_
      rw [post_receipt]
      exact Option.some_ne_none _
  | close sequence p kind reservationId reservation _ closing posted link stored _ still_open
      resource units =>
      refine (records.post env sequence p posted.fresh).addClosure still_open
        ⟨reservation, p.receipt T env s sequence, stored, post_receipt s env sequence p, ?_, rfl,
          resource.symm, units.symm, link⟩
      change p.kind = _ ∨ p.kind = _
      rw [posted.kind]
      exact closing

theorem records_invariant (T : Config) :
    Invariant (pallet T) fun _ (s : Storage T AccountId BlockNumber) => Records s where
  passes _ records := records
  keeps records done := (pallet_effect done).records records

end Effects

theorem records_empty : Records (Storage.empty T AccountId BlockNumber) where
  owner stored := by cases stored
  reserved stored := by cases stored
  closed stored := by cases stored

section Runs

variable [DecidableEq AccountId] [Encode AccountId] [Encode BlockNumber] [LinearOrder BlockNumber]

theorem records_run (T : Config) (genesis : BlockNumber)
    (inputs : List (Input AccountId BlockNumber (Call AccountId BlockNumber))) :
    Records (run T genesis inputs).storage :=
  (records_invariant T).run records_empty inputs

/-- Whatever is stored stays stored, unchanged, through every later run. -/
theorem extends_run {w : World BlockNumber (Storage T AccountId BlockNumber)}
    (records : Records w.storage)
    (inputs : List (Input AccountId BlockNumber (Call AccountId BlockNumber))) :
    Extends w.storage (Frame.run (pallet T) w inputs).storage :=
  (records_invariant T).lasts
    (fun current done before => before.trans ((pallet_effect done).extends current))
    records (.refl _) inputs

end Runs

end Chlom.Utility
