import Chlom.Utility.Reservations
import Chlom.Utility.Services

/-!
# The terms of a reservation

A reservation takes its units and its resource from the service version in force when
it was made.  Service versions and revocations stay as they were recorded, so the terms
of a reservation do not move, and a consumption, which looks the version up again, was
inside its interval and before any revocation of it.
-/

namespace Chlom.Utility

open Chlom.Frame

variable {T : Config} {AccountId BlockNumber : Type}

/-! ## Service versions and revocations are kept -/

/-- Every recorded service version and revocation is still recorded, unchanged. -/
structure KeepsServices (s s' : Storage T AccountId BlockNumber) : Prop where
  services : ∀ {key service}, s.services.get key = some service →
    s'.services.get key = some service
  revocations : ∀ {key revocation}, s.serviceRevocations.get key = some revocation →
    s'.serviceRevocations.get key = some revocation

variable [DecidableEq AccountId] [Encode AccountId] [Encode BlockNumber] [LinearOrder BlockNumber]
  {env : Env AccountId BlockNumber} {s s' : Storage T AccountId BlockNumber}
  {origin : RawOrigin AccountId} {call : Call AccountId BlockNumber}

theorem Effect.keepsServices (effect : Effect env s origin call s') : KeepsServices s s' := by
  cases effect with
  | retry => exact ⟨id, id⟩
  | replay => exact ⟨id, id⟩
  | approve _ _ _ _ fresh => exact ⟨StorageMap.get_insert_of_some _ _ fresh, id⟩
  | revoke _ _ _ _ fresh => exact ⟨id, StorageMap.get_insert_of_some _ _ fresh⟩
  | allocate => exact ⟨id, id⟩
  | reserve => exact ⟨id, id⟩
  | close => exact ⟨id, id⟩

/-- The service versions and revocations of a run are those of its continuations. -/
theorem keepsServices_run (T : Config) (genesis : BlockNumber)
    (inputs later : List (Input AccountId BlockNumber (Call AccountId BlockNumber))) :
    KeepsServices (run T genesis inputs).storage (run T genesis (inputs ++ later)).storage :=
  Frame.preorder_run (fun _ => ⟨id, id⟩)
    (fun first second => ⟨fun stored => second.services (first.services stored),
      fun stored => second.revocations (first.revocations stored)⟩)
    (fun done => (pallet_effect done).keepsServices) inputs later

/-! ## Where reservations and consumptions come from -/

omit [DecidableEq AccountId] [Encode AccountId] [Encode BlockNumber] [LinearOrder BlockNumber] in
/-- Only a signed reserve call performs a reservation. -/
theorem operation_reserve {account : AccountId} {operationId serviceId : Id32} {version : U32}
    {quantity : U128}
    (performed : call.operation origin =
      some ⟨account, operationId, .reserve serviceId version quantity⟩) :
    origin = .signed account ∧ call = .reserve operationId serviceId version quantity := by
  cases call with
  | approveService => cases performed
  | revokeService => cases performed
  | allocate => cases performed
  | reserve => simp_all [Call.operation]
  | consume => simp [Call.operation] at performed
  | release => simp [Call.operation] at performed

/-- The terms that a service version gives a reservation. -/
structure Terms (reservation : Reservation AccountId) (service : ServiceVersion BlockNumber) :
    Prop where
  units : reservation.units.toNat = service.unitsPerAction.toNat * reservation.quantity.toNat
  resource : reservation.resourceId = service.resourceId

/-- A reservation appears only by a reserve call of its owner, on the terms of the
version in force. -/
theorem Effect.reserves (effect : Effect env s origin call s') {account : AccountId}
    {reservationId : Id32} {reservation : Reservation AccountId}
    (absent : s.reservations.get (account, reservationId) ≠ some reservation)
    (stored : s'.reservations.get (account, reservationId) = some reservation) :
    origin = .signed account ∧
      call = .reserve reservationId reservation.serviceId reservation.serviceVersion
        reservation.quantity ∧
      ∃ service, activeService s reservation.serviceId env.blockNumber =
        some (reservation.serviceVersion, service) ∧ Terms reservation service := by
  cases effect with
  | retry => exact absurd stored absent
  | replay => exact absurd stored absent
  | approve => exact absurd stored absent
  | revoke => exact absurd stored absent
  | allocate => exact absurd stored absent
  | close => exact absurd stored absent
  | reserve sequence p made service posted _ _ _ _ active priced located =>
      rcases StorageMap.get_insert_eq_some.mp stored with ⟨same, rfl⟩ | ⟨_, before⟩
      · obtain ⟨rfl, rfl⟩ := Prod.mk.inj same
        obtain ⟨signed, calls⟩ := operation_reserve posted.operation
        exact ⟨signed, calls, service, active, priced, located⟩
      · exact absurd before absent

/-- The reservation was closed by a consumption. -/
def Storage.Consumed (s : Storage T AccountId BlockNumber) (account : AccountId)
    (reservationId : Id32) : Prop :=
  ∃ operationId receipt, s.reservationClosures.get (account, reservationId) = some operationId ∧
    s.receipts.get (account, operationId) = some receipt ∧ receipt.kind = .consume

/-- The version of a service that a reservation names admits consumptions. -/
structure InForce (s : Storage T AccountId BlockNumber) (block : BlockNumber)
    (reservation : Reservation AccountId) (service : ServiceVersion BlockNumber) : Prop where
  stored : s.services.get (reservation.serviceId, reservation.serviceVersion) = some service
  started : service.effectiveFrom ≤ block
  running : block < service.effectiveUntil
  unrevoked : s.serviceRevocations.get (reservation.serviceId, reservation.serviceVersion) = none

/-- A consumption is entered only by a consume call of the owner while the version of
the reservation is in force. -/
theorem Effect.consumes (records : Records s) (effect : Effect env s origin call s')
    {account : AccountId} {reservationId : Id32} (pending : ¬ s.Consumed account reservationId)
    (consumed : s'.Consumed account reservationId) :
    origin = .signed account ∧
      ∃ operationId reservation service, call = .consume operationId reservationId ∧
        s.reservations.get (account, reservationId) = some reservation ∧
        InForce s env.blockNumber reservation service := by
  obtain ⟨operationId, receipt, closed, filed, consuming⟩ := consumed
  have kept := effect.extends records
  have open_ : s.reservationClosures.get (account, reservationId) = none := by
    cases before : s.reservationClosures.get (account, reservationId) with
    | none => rfl
    | some closing =>
        obtain rfl := Option.some.inj ((kept.closures before).symm.trans closed)
        obtain ⟨_, earlier, _, earlierFiled, _⟩ := records.closed before
        obtain rfl := Option.some.inj ((kept.receipts earlierFiled).symm.trans filed)
        exact absurd ⟨closing, earlier, before, earlierFiled, consuming⟩ pending
  have unchanged (same : s'.reservationClosures = s.reservationClosures) : False := by
    rw [same, open_] at closed
    cases closed
  cases effect with
  | retry => exact (unchanged rfl).elim
  | replay => exact (unchanged rfl).elim
  | approve => exact (unchanged rfl).elim
  | revoke => exact (unchanged rfl).elim
  | allocate => exact (unchanged rfl).elim
  | reserve => exact (unchanged rfl).elim
  | close sequence p kind other reservation signed _ posted _ stored _ _ _ _ inForce =>
      rcases StorageMap.get_insert_eq_some.mp closed with ⟨same, rfl⟩ | ⟨_, before⟩
      · obtain ⟨rfl, rfl⟩ := Prod.mk.inj same
        obtain rfl := Option.some.inj ((post_receipt s env sequence p).symm.trans filed)
        obtain rfl : kind = .consume := posted.kind.symm.trans consuming
        obtain ⟨service, found, started, running, unrevoked⟩ := inForce rfl
        refine ⟨signed, p.operationId, reservation, service, ?_, stored, found, started, running,
          unrevoked⟩
        rcases (operation_close posted.operation).2 with consume | release
        · exact consume
        · have performed := posted.operation
          rw [release, signed] at performed
          cases performed
      · exact absurd (open_.symm.trans before) (Option.some_ne_none _).symm

/-! ## The property -/

/-- After some of the inputs an account submits a call, by which something begins to hold. -/
def Begins (T : Config) (genesis : BlockNumber)
    (inputs : List (Input AccountId BlockNumber (Call AccountId BlockNumber)))
    (P : Storage T AccountId BlockNumber → Prop) (account : AccountId)
    (call : Call AccountId BlockNumber)
    (before : List (Input AccountId BlockNumber (Call AccountId BlockNumber))) : Prop :=
  ∃ permits after, inputs = before ++ .submit permits (.signed account) call :: after ∧
    ¬ P (run T genesis before).storage ∧
    P (run T genesis (before ++ [.submit permits (.signed account) call])).storage

/-- The terms of a reservation that is made after some inputs are those of the version in
force at that block, and that version is the same whatever follows. -/
structure LockedTerms (T : Config) (genesis : BlockNumber)
    (before : List (Input AccountId BlockNumber (Call AccountId BlockNumber)))
    (reservation : Reservation AccountId) (service : ServiceVersion BlockNumber) : Prop where
  active : activeService (run T genesis before).storage reservation.serviceId
    (run T genesis before).now = some (reservation.serviceVersion, service)
  terms : Terms reservation service
  unchanged : ∀ later, (run T genesis (before ++ later)).storage.services.get
    (reservation.serviceId, reservation.serviceVersion) = some service

/-- A reservation is consumed after some of the inputs: in the interval of the version
that it names, and before every moment at which that version is revoked. -/
structure ConsumedInForce (T : Config) (genesis : BlockNumber)
    (inputs before : List (Input AccountId BlockNumber (Call AccountId BlockNumber)))
    (reservation : Reservation AccountId) (service : ServiceVersion BlockNumber) : Prop where
  inForce : InForce (run T genesis before).storage (run T genesis before).now reservation service
  unrevoked : ∀ earlier, earlier <+: inputs →
    (run T genesis earlier).storage.serviceRevocations.get
      (reservation.serviceId, reservation.serviceVersion) ≠ none → before.length < earlier.length

section Runs

variable (T : Config) (genesis : BlockNumber)
  (inputs : List (Input AccountId BlockNumber (Call AccountId BlockNumber)))
  {account : AccountId} {reservationId : Id32} {reservation : Reservation AccountId}

/-- A stored reservation was made by its owner, on terms that are locked. -/
theorem exists_reserved
    (stored : (run T genesis inputs).storage.reservations.get (account, reservationId) =
      some reservation) :
    ∃ before service,
      Begins T genesis inputs
        (fun s => s.reservations.get (account, reservationId) = some reservation) account
        (.reserve reservationId reservation.serviceId reservation.serviceVersion
          reservation.quantity) before ∧
      LockedTerms T genesis before reservation service := by
  have start : (Storage.empty T AccountId BlockNumber).reservations.get (account, reservationId) ≠
      some reservation := nofun
  obtain ⟨before, permits, origin, call, after, s', rfl, absent, ran, made⟩ :=
    exists_accepted (fun s : Storage T AccountId BlockNumber =>
      s.reservations.get (account, reservationId) = some reservation) start stored
  obtain ⟨rfl, rfl, service, active, terms⟩ := (pallet_effect ran).reserves absent made
  have reached : (run T genesis (before ++ [.submit permits (.signed account) (.reserve
      reservationId reservation.serviceId reservation.serviceVersion reservation.quantity)])) =
      ⟨(run T genesis before).now, s'⟩ := run_through_submit ran
  have found : (run T genesis before).storage.services.get
      (reservation.serviceId, reservation.serviceVersion) = some service :=
    ((serviceTable_run T genesis before reservation.serviceId).active_eq_some.mp active).2.1
  refine ⟨before, service, ⟨permits, after, rfl, absent, ?_⟩, active, terms, fun later => ?_⟩
  · rw [reached]
    exact made
  · exact (keepsServices_run T genesis before later).services found

/-- A consumption was entered by the owner while the version was in force. -/
theorem exists_consumed
    (stored : (run T genesis inputs).storage.reservations.get (account, reservationId) =
      some reservation)
    (consumed : (run T genesis inputs).storage.Consumed account reservationId) :
    ∃ before operationId service,
      Begins T genesis inputs (fun s => s.Consumed account reservationId) account
        (.consume operationId reservationId) before ∧
      (run T genesis before).storage.reservations.get (account, reservationId) =
        some reservation ∧
      ConsumedInForce T genesis inputs before reservation service := by
  have start : ¬ (Storage.empty T AccountId BlockNumber).Consumed account reservationId := by
    rintro ⟨operationId, receipt, closed, _⟩
    cases closed
  obtain ⟨before, permits, origin, call, after, s', rfl, pending, ran, entered⟩ :=
    exists_accepted (fun s : Storage T AccountId BlockNumber => s.Consumed account reservationId)
      start consumed
  have records := records_run T genesis before
  obtain ⟨rfl, operationId, found, service, rfl, foundEq, inForce⟩ :=
    (pallet_effect ran).consumes records pending entered
  have kept := (extends_run records
    (.submit permits (.signed account) (.consume operationId reservationId) :: after)).reservations
      foundEq
  rw [← Frame.run_append] at kept
  obtain rfl := Option.some.inj (kept.symm.trans stored)
  refine ⟨before, operationId, service, ⟨permits, after, rfl, pending, ?_⟩, foundEq, inForce,
    fun earlier early revoked => ?_⟩
  · rw [run, run_through_submit ran]
    exact entered
  · by_contra late
    obtain ⟨between, rfl⟩ := List.prefix_of_prefix_length_le early
      (List.prefix_append before _) (not_lt.mp late)
    obtain ⟨revocation, recorded⟩ := Option.ne_none_iff_exists'.mp revoked
    have lasts := (keepsServices_run T genesis earlier between).revocations recorded
    rw [inForce.unrevoked] at lasts
    cases lasts

/-- The terms of a reservation are locked when its owner makes it, and its consumption
comes later, while the version that it names is in force and not yet revoked. -/
theorem reservation_terms_locked
    (stored : (run T genesis inputs).storage.reservations.get (account, reservationId) =
      some reservation) :
    ∃ before service,
      Begins T genesis inputs
        (fun s => s.reservations.get (account, reservationId) = some reservation) account
        (.reserve reservationId reservation.serviceId reservation.serviceVersion
          reservation.quantity) before ∧
      LockedTerms T genesis before reservation service ∧
      ((run T genesis inputs).storage.Consumed account reservationId →
        ∃ consumedAfter operationId,
          Begins T genesis inputs (fun s => s.Consumed account reservationId) account
            (.consume operationId reservationId) consumedAfter ∧
          before.length < consumedAfter.length ∧
          ConsumedInForce T genesis inputs consumedAfter reservation service) := by
  obtain ⟨before, service, made, locked⟩ := exists_reserved T genesis inputs stored
  refine ⟨before, service, made, locked, fun consumed => ?_⟩
  obtain ⟨consumedAfter, operationId, found, entered, held, inForce⟩ :=
    exists_consumed T genesis inputs stored consumed
  obtain ⟨permits, after, split, absent, _⟩ := made
  have first : before <+: inputs := ⟨_, split.symm⟩
  have second : consumedAfter <+: inputs := by
    obtain ⟨_, _, split, _⟩ := entered
    exact ⟨_, split.symm⟩
  have order : before.length < consumedAfter.length := by
    by_contra late
    obtain ⟨between, rfl⟩ := List.prefix_of_prefix_length_le second first (not_lt.mp late)
    have kept := (extends_run (records_run T genesis consumedAfter) between).reservations held
    rw [← Frame.run_append] at kept
    exact absent kept
  obtain ⟨between, rfl⟩ := List.prefix_of_prefix_length_le first second order.le
  obtain rfl := Option.some.inj ((locked.unchanged between).symm.trans inForce.inForce.stored)
  exact ⟨_, operationId, entered, order, inForce⟩

end Runs

open Sample in
/-- The inputs of a reservation that is made, consumed, and whose service version is revoked
in one block. -/
def consumedInputs : List (Input Id32 U32 (Call Id32 U32)) :=
  inputs ++ [submit (.signed alice) reserveCall,
    submit (.signed alice) (.consume (Id32.repeated 13) (Id32.repeated 12)),
    submit .root revokeCall]

open Sample in
theorem reservation_terms_locked_sample :
    ∃ consumedAfter operationId,
      Begins config 1 consumedInputs (fun s => s.Consumed alice (Id32.repeated 12)) alice
        (.consume operationId (Id32.repeated 12)) consumedAfter := by
  have stored : (run config 1 consumedInputs).storage.reservations.get (alice, Id32.repeated 12) =
      some reservation := by decide +kernel
  have closed : (run config 1 consumedInputs).storage.reservationClosures.get
      (alice, Id32.repeated 12) = some (Id32.repeated 13) := by decide +kernel
  have consuming : ((run config 1 consumedInputs).storage.receipts.get
      (alice, Id32.repeated 13)).map ResourceReceipt.kind = some .consume := by decide +kernel
  obtain ⟨receipt, filed, kind⟩ := Option.map_eq_some_iff.mp consuming
  obtain ⟨before, service, _, _, whenConsumed⟩ := reservation_terms_locked config 1 _ stored
  obtain ⟨consumedAfter, operationId, entered, _⟩ :=
    whenConsumed ⟨Id32.repeated 13, receipt, closed, filed, kind⟩
  exact ⟨consumedAfter, operationId, entered⟩

end Chlom.Utility
