import Chlom.Library.Coupling
import Chlom.Utility.Records

/-!
# Accounts do not interfere

What an account sees of the pallet is its own balances, reservations, closures
and receipts, the receipts only up to their place in the global chain, together
with the services.  Calls concerning the account act on that view alone, and
calls concerning others do not touch it, as long as the shared receipt counter
has room.
-/

namespace Chlom.Utility

open Chlom.Frame Dispatch

variable {T : Config} {AccountId BlockNumber : Type}

/-- A receipt without its place in the global chain. -/
def ResourceReceipt.unchained (receipt : ResourceReceipt AccountId BlockNumber) :
    ResourceReceipt AccountId BlockNumber :=
  { receipt with sequence := 0, previousHash := ZERO_ID, receiptHash := ZERO_ID }

/-- The first storage shows an account what the second one does, and holds at
least as many receipts. -/
structure SameView (account : AccountId) (s t : Storage T AccountId BlockNumber) : Prop where
  services : s.services = t.services
  serviceIndex : s.serviceIndex = t.serviceIndex
  serviceRevocations : s.serviceRevocations = t.serviceRevocations
  balances : ∀ resourceId,
    s.balances.get (account, resourceId) = t.balances.get (account, resourceId)
  reservations : ∀ reservationId,
    s.reservations.get (account, reservationId) = t.reservations.get (account, reservationId)
  closures : ∀ reservationId, s.reservationClosures.get (account, reservationId) =
    t.reservationClosures.get (account, reservationId)
  receipts : ∀ operationId,
    (s.receipts.get (account, operationId)).map ResourceReceipt.unchained =
      (t.receipts.get (account, operationId)).map ResourceReceipt.unchained
  count : t.receiptCount.toNat ≤ s.receiptCount.toNat

/-- Whether a call concerns an account: administration concerns everyone, an
allocation the account it credits and any other call the account that signs it. -/
def Call.concerns [DecidableEq AccountId] (account : AccountId) (origin : RawOrigin AccountId) :
    Call AccountId BlockNumber → Bool
  | .approveService .. => true
  | .revokeService .. => true
  | .allocate _ credited .. => decide (credited = account)
  | .reserve .. => decide (origin = .signed account)
  | .consume .. => decide (origin = .signed account)
  | .release .. => decide (origin = .signed account)

/-- A view while the receipt counter has room. -/
def RoomyView (account : AccountId) (s t : Storage T AccountId BlockNumber) : Prop :=
  SameView account s t ∧ s.receiptCount ≠ BitVec.allOnes 64

section View

variable {account : AccountId} {s t : Storage T AccountId BlockNumber}

theorem SameView.refl (account : AccountId) (s : Storage T AccountId BlockNumber) :
    SameView account s s where
  services := rfl
  serviceIndex := rfl
  serviceRevocations := rfl
  balances _ := rfl
  reservations _ := rfl
  closures _ := rfl
  receipts _ := rfl
  count := le_rfl

theorem SameView.trans {u : Storage T AccountId BlockNumber} (first : SameView account s t)
    (second : SameView account t u) : SameView account s u where
  services := first.services.trans second.services
  serviceIndex := first.serviceIndex.trans second.serviceIndex
  serviceRevocations := first.serviceRevocations.trans second.serviceRevocations
  balances resourceId := (first.balances resourceId).trans (second.balances resourceId)
  reservations id := (first.reservations id).trans (second.reservations id)
  closures id := (first.closures id).trans (second.closures id)
  receipts id := (first.receipts id).trans (second.receipts id)
  count := second.count.trans first.count

theorem SameView.balance (view : SameView account s t) (resourceId : Id32) :
    s.balance account resourceId = t.balance account resourceId := by
  simp [Storage.balance, StorageMap.getD, view.balances]

theorem SameView.activeService [LinearOrder BlockNumber] (view : SameView account s t)
    (serviceId : Id32) (block : BlockNumber) :
    activeService s serviceId block = activeService t serviceId block := by
  simp [Utility.activeService, Storage.serviceTable, view.services, view.serviceIndex,
    view.serviceRevocations]

/-- The smaller counter has room when the larger one has. -/
theorem RoomyView.room (view : RoomyView account s t) : t.receiptCount ≠ BitVec.allOnes 64 := by
  intro full
  have most := view.1.count
  have bound := s.receiptCount.isLt
  rw [full] at most
  apply view.2
  apply BitVec.eq_of_toNat_eq
  simp only [BitVec.toNat_allOnes] at most ⊢
  omega

end View

/-! ## Calls concerning an account act on its view -/

section Coupling

variable {account : AccountId}

/-- Events are no part of any view. -/
theorem depositEvent_coupled (event : Event AccountId) :
    Coupled (@SameView T _ BlockNumber account) (SameView account) (depositEvent event)
      (depositEvent event) :=
  .write fun view => { view with }

theorem isReplay_coupled
    {P : Storage T AccountId BlockNumber → Storage T AccountId BlockNumber → Prop}
    (view : ∀ {s t}, P s t → SameView account s t) (operationId request : Id32) :
    Coupled P P (isReplay account operationId request) (isReplay account operationId request) := by
  intro s t related
  have receipts := (view related).receipts operationId
  cases stored : s.receipts.get (account, operationId) with
  | none =>
      rw [stored, Option.map_none, eq_comm, Option.map_eq_none_iff] at receipts
      exact .inl ⟨false, s, t, isReplay_fresh stored, isReplay_fresh receipts, related⟩
  | some prior =>
      rw [stored, Option.map_some, eq_comm, Option.map_eq_some_iff] at receipts
      obtain ⟨other, otherStored, alike⟩ := receipts
      have requests : other.requestHash = prior.requestHash := by
        change other.unchained.requestHash = prior.unchained.requestHash
        rw [alike]
      by_cases matching : prior.requestHash = request
      · exact .inl ⟨true, s, t, isReplay_performed stored matching,
          isReplay_performed otherStored (requests.trans matching), related⟩
      · exact .inr ⟨_, s, t, isReplay_conflict stored matching,
          isReplay_conflict otherStored (requests ▸ matching)⟩

theorem revokeService_coupled (env : Env AccountId BlockNumber) (origin : RawOrigin AccountId)
    (serviceId : Id32) (version : U32) (approvalHash reasonHash : Id32) :
    Coupled (@SameView T _ _ account) (SameView account)
      (revokeService env origin serviceId version approvalHash reasonHash)
      (revokeService env origin serviceId version approvalHash reasonHash) := by
  simp only [revokeService]
  refine (Coupled.ensure _ _).bind fun _ => ?_
  refine (Coupled.ensure _ _).bind fun _ => ?_
  refine (Coupled.read fun view => by rw [view.services]).bind fun stored => ?_
  refine (Coupled.ensure _ _).bind fun _ => ?_
  refine (Coupled.read fun view => by rw [view.serviceRevocations]).bind fun revoked => ?_
  cases revoked with
  | some prior => exact Coupled.ensure _ _
  | none =>
      refine Coupled.keep (.write fun view => ?_) fun _ => ?_
      · exact { view with serviceRevocations := by simp only [view.serviceRevocations] }
      exact depositEvent_coupled _

theorem approveService_coupled [LinearOrder BlockNumber] (env : Env AccountId BlockNumber)
    (origin : RawOrigin AccountId) (serviceId : Id32) (version : U32) (resourceId : Id32)
    (unitsPerAction : U128) (effectiveFrom effectiveUntil : BlockNumber) (approvalHash : Id32) :
    Coupled (@SameView T _ _ account) (SameView account)
      (approveService env origin serviceId version resourceId unitsPerAction effectiveFrom
        effectiveUntil approvalHash)
      (approveService env origin serviceId version resourceId unitsPerAction effectiveFrom
        effectiveUntil approvalHash) := by
  simp only [approveService]
  refine (Coupled.ensure _ _).bind fun _ => ?_
  refine (Coupled.ensure _ _).bind fun _ => ?_
  refine (Coupled.ensure _ _).bind fun _ => ?_
  refine (Coupled.read fun view => by rw [view.services]).bind fun stored => ?_
  cases stored with
  | some prior => exact Coupled.ensure _ _
  | none =>
      refine (Coupled.ensure _ _).bind fun _ => ?_
      refine (Coupled.read fun view => by rw [view.serviceIndex]).bind fun index => ?_
      refine (Coupled.ensure _ _).bind fun _ => ?_
      refine Coupled.keep ?_ fun _ => ?_
      · apply Coupled.onlyIf
        refine (Coupled.read fun view => by rw [view.services]).bind fun stored => ?_
        refine (Coupled.okOr _ _).bind fun prior => ?_
        exact Coupled.ensure _ _
      refine (Coupled.okOr _ _).bind fun index => ?_
      refine Coupled.keep (.write fun view => ?_) fun _ => ?_
      · exact { view with services := by simp only [view.services] }
      refine Coupled.keep (.write fun view => ?_) fun _ => ?_
      · exact { view with serviceIndex := by simp only [view.serviceIndex] }
      exact depositEvent_coupled _

variable [DecidableEq AccountId]

/-- The balance written for the account is the same on both sides. -/
theorem SameView.write_balance {s t : Storage T AccountId BlockNumber}
    (view : SameView account s t) (resourceId : Id32) (balance : ResourceBalance) :
    SameView account
      { s with balances := s.balances.insert (account, resourceId) balance }
      { t with balances := t.balances.insert (account, resourceId) balance } where
  services := view.services
  serviceIndex := view.serviceIndex
  serviceRevocations := view.serviceRevocations
  balances other := by
    rw [StorageMap.get_insert, StorageMap.get_insert, view.balances]
  reservations := view.reservations
  closures := view.closures
  receipts := view.receipts
  count := view.count

/-- So is the reservation written for it. -/
theorem SameView.write_reservation {s t : Storage T AccountId BlockNumber}
    (view : SameView account s t) (reservationId : Id32) (reservation : Reservation AccountId) :
    SameView account (s.addReservation (account, reservationId) reservation)
      (t.addReservation (account, reservationId) reservation) where
  services := view.services
  serviceIndex := view.serviceIndex
  serviceRevocations := view.serviceRevocations
  balances := view.balances
  reservations other := by
    simp only [Storage.addReservation, StorageMap.get_insert, view.reservations]
  closures := view.closures
  receipts := view.receipts
  count := view.count

/-- And so is the closure. -/
theorem SameView.write_closure {s t : Storage T AccountId BlockNumber}
    (view : SameView account s t) (reservationId operationId : Id32) :
    SameView account (s.addClosure (account, reservationId) operationId)
      (t.addClosure (account, reservationId) operationId) where
  services := view.services
  serviceIndex := view.serviceIndex
  serviceRevocations := view.serviceRevocations
  balances := view.balances
  reservations := view.reservations
  closures other := by
    simp only [Storage.addClosure, StorageMap.get_insert, view.closures]
  receipts := view.receipts
  count := view.count

variable [Encode AccountId] [Encode BlockNumber]

theorem appendReceipt_coupled (env : Env AccountId BlockNumber) (p : Posting AccountId) :
    Coupled (RoomyView p.account) (@SameView T _ _ p.account)
      (appendReceipt env p.operationId p.requestHash p.kind p.account p.resourceId p.reservationId
        p.units p.approvalHash p.balanceAfter)
      (appendReceipt env p.operationId p.requestHash p.kind p.account p.resourceId p.reservationId
        p.units p.approvalHash p.balanceAfter) := by
  intro s t view
  obtain ⟨sequence, follows⟩ := Checked.exists_add_one (by decide) view.2
  obtain ⟨otherSequence, otherFollows⟩ := Checked.exists_add_one (by decide) view.room
  refine .inl ⟨(), _, _, appendReceipt_ok.mpr ⟨sequence, follows, rfl⟩,
    appendReceipt_ok.mpr ⟨otherSequence, otherFollows, rfl⟩, ?_⟩
  obtain ⟨view, room⟩ := view
  refine ⟨view.services, view.serviceIndex, view.serviceRevocations, view.balances,
    view.reservations, view.closures, ?_, ?_⟩
  · intro operationId
    change ((s.receipts.insert (p.account, p.operationId) (p.receipt T env s sequence)).get
      _).map _ = ((t.receipts.insert (p.account, p.operationId)
        (p.receipt T env t otherSequence)).get _).map _
    rw [StorageMap.get_insert, StorageMap.get_insert]
    split
    · rfl
    · exact view.receipts operationId
  · have less := view.count
    have sequenceEq := Checked.add_eq_some.mp follows
    have otherSequenceEq := Checked.add_eq_some.mp otherFollows
    change otherSequence.toNat ≤ sequence.toNat
    omega

variable [LinearOrder BlockNumber]

omit [LinearOrder BlockNumber] in
theorem allocate_coupled (env : Env AccountId BlockNumber) (origin : RawOrigin AccountId)
    (operationId resourceId : Id32) (units : U128) (approvalHash : Id32) :
    Coupled (@RoomyView T _ _ account) (SameView account)
      (allocate env origin operationId account resourceId units approvalHash)
      (allocate env origin operationId account resourceId units approvalHash) := by
  simp only [allocate]
  refine (Coupled.ensure _ _).bind fun _ => ?_
  refine (Coupled.ensure _ _).bind fun _ => ?_
  refine (Coupled.ensure _ _).bind fun _ => ?_
  refine (isReplay_coupled And.left _ _).bind fun replay => ?_
  cases replay with
  | true => exact (Coupled.pure ()).mono id And.left
  | false =>
      refine (Coupled.read fun view => view.1.balance _).bind fun balance => ?_
      refine (Coupled.okOr _ _).bind fun allocated => ?_
      refine (Coupled.okOr _ _).bind fun available => ?_
      refine (appendReceipt_coupled env ⟨operationId, _, .allocate, account, resourceId, none,
        units, some approvalHash, _⟩).bind fun _ => ?_
      exact .write fun view => view.write_balance _ _

theorem reserve_coupled (env : Env AccountId BlockNumber) (operationId serviceId : Id32)
    (version : U32) (quantity : U128) :
    Coupled (@RoomyView T _ _ account) (SameView account)
      (reserve env (.signed account) operationId serviceId version quantity)
      (reserve env (.signed account) operationId serviceId version quantity) := by
  simp only [reserve, ensureSigned_bind_signed]
  refine (Coupled.ensure _ _).bind fun _ => ?_
  refine (Coupled.ensure _ _).bind fun _ => ?_
  refine (isReplay_coupled And.left _ _).bind fun replay => ?_
  cases replay with
  | true => exact (Coupled.pure ()).mono id And.left
  | false =>
      refine (Coupled.read fun view => view.1.activeService _ _).bind fun active => ?_
      refine (Coupled.okOr _ _).bind fun found => ?_
      refine (Coupled.ensure _ _).bind fun _ => ?_
      refine (Coupled.okOr _ _).bind fun units => ?_
      refine (Coupled.read fun view => view.1.balance _).bind fun balance => ?_
      refine (Coupled.okOr _ _).bind fun available => ?_
      refine (Coupled.okOr _ _).bind fun reserved => ?_
      refine (appendReceipt_coupled env ⟨operationId, _, .reserve, account, found.2.resourceId,
        some operationId, units, some found.2.approvalHash, _⟩).bind fun _ => ?_
      refine Coupled.keep (.write fun view => view.write_balance _ _) fun _ => ?_
      exact .write fun view => view.write_reservation _ _

theorem closeReservation_coupled (env : Env AccountId BlockNumber)
    (operationId reservationId : Id32) (kind : OperationKind) :
    Coupled (@RoomyView T _ _ account) (SameView account)
      (closeReservation env account operationId reservationId kind)
      (closeReservation env account operationId reservationId kind) := by
  simp only [closeReservation]
  refine (Coupled.ensure _ _).bind fun _ => ?_
  refine (isReplay_coupled And.left _ _).bind fun replay => ?_
  cases replay with
  | true => exact (Coupled.pure ()).mono id And.left
  | false =>
      refine (Coupled.read fun view => view.1.reservations _).bind fun stored => ?_
      refine (Coupled.okOr _ _).bind fun reservation => ?_
      refine (Coupled.ensure _ _).bind fun _ => ?_
      refine (Coupled.read fun view => view.1.closures _).bind fun closure => ?_
      refine (Coupled.ensure _ _).bind fun _ => ?_
      refine Coupled.keep ?_ fun _ => ?_
      · apply Coupled.onlyIf
        refine (Coupled.read fun view => by rw [view.1.services]).bind fun stored => ?_
        refine (Coupled.okOr _ _).bind fun service => ?_
        refine (Coupled.read fun view => by rw [view.1.serviceRevocations]).bind fun revoked => ?_
        exact Coupled.ensure _ _
      refine (Coupled.read fun view => view.1.balance _).bind fun balance => ?_
      refine (Coupled.okOr _ _).bind fun reserved => ?_
      by_cases consuming : kind = .consume
      · simp only [if_pos consuming, pure_bind]
        refine (Coupled.okOr _ _).bind fun consumed => ?_
        refine (appendReceipt_coupled env ⟨operationId, _, kind, account, reservation.resourceId,
          some reservationId, reservation.units, none, _⟩).bind fun _ => ?_
        refine Coupled.keep (.write fun view => view.write_balance _ _) fun _ => ?_
        exact .write fun view => view.write_closure _ _
      · simp only [if_neg consuming, pure_bind]
        refine (Coupled.okOr _ _).bind fun available => ?_
        refine (appendReceipt_coupled env ⟨operationId, _, kind, account, reservation.resourceId,
          some reservationId, reservation.units, none, _⟩).bind fun _ => ?_
        refine Coupled.keep (.write fun view => view.write_balance _ _) fun _ => ?_
        exact .write fun view => view.write_closure _ _

/-- A call concerning an account gets the same answer under equal views, and
leaves equal views behind. -/
theorem pallet_coupled (env : Env AccountId BlockNumber) {origin : RawOrigin AccountId}
    {call : Call AccountId BlockNumber} (concerned : call.concerns account origin = true) :
    Coupled (@RoomyView T _ _ account) (SameView account) (pallet T env origin call)
      (pallet T env origin call) := by
  cases call with
  | approveService => exact (approveService_coupled env origin _ _ _ _ _ _ _).mono And.left id
  | revokeService => exact (revokeService_coupled env origin _ _ _ _).mono And.left id
  | allocate =>
      obtain rfl := of_decide_eq_true concerned
      exact allocate_coupled env origin _ _ _ _
  | reserve =>
      obtain rfl := of_decide_eq_true concerned
      exact reserve_coupled env _ _ _ _
  | consume =>
      obtain rfl := of_decide_eq_true concerned
      simp only [pallet, consume, ensureSigned_bind_signed]
      exact closeReservation_coupled env _ _ _
  | release =>
      obtain rfl := of_decide_eq_true concerned
      simp only [pallet, release, ensureSigned_bind_signed]
      exact closeReservation_coupled env _ _ _

end Coupling

/-! ## Calls concerning others do not touch the view -/

section Framing

variable [DecidableEq AccountId] [Encode AccountId] [Encode BlockNumber]
  {env : Env AccountId BlockNumber} {s s' : Storage T AccountId BlockNumber}
  {origin : RawOrigin AccountId} {call : Call AccountId BlockNumber} {account : AccountId}

/-- A posting for one account changes no other account's view. -/
theorem post_sameView {sequence : U64} {p : Posting AccountId} (other : account ≠ p.account)
    (follows : sequence.toNat = s.receiptCount.toNat + 1) :
    SameView account (s.post env sequence p) s where
  services := rfl
  serviceIndex := rfl
  serviceRevocations := rfl
  balances resourceId := by
    apply StorageMap.get_insert_of_ne
    simp [other]
  reservations _ := rfl
  closures _ := rfl
  receipts operationId := by
    apply congrArg
    apply StorageMap.get_insert_of_ne
    intro same
    exact other (Prod.mk.inj same).1
  count := by
    change s.receiptCount.toNat ≤ sequence.toNat
    omega

variable [LinearOrder BlockNumber]

/-- An operation of one account changes no other account's view. -/
theorem Effect.sameView (effect : Effect env s origin call s') {operation : Operation AccountId}
    (performed : call.operation origin = some operation) (other : account ≠ operation.account) :
    SameView account s' s := by
  have posting {sequence : U64} {p : Posting AccountId} {request : Request}
      (posted : Posted s origin call sequence p request) :
      account ≠ p.account ∧ SameView account (s.post env sequence p) s := by
    obtain rfl := Option.some.inj (posted.operation.symm.trans performed)
    exact ⟨other, post_sameView other posted.sequence⟩
  cases effect with
  | retry => exact .refl account s
  | replay => exact .refl account s
  | approve => cases performed
  | revoke => cases performed
  | allocate _ _ _ _ _ posted => exact (posting posted).2
  | reserve sequence p reservation _ posted =>
      obtain ⟨different, view⟩ := posting posted
      refine { view with reservations := ?_ }
      intro reservationId
      apply StorageMap.get_insert_of_ne
      intro same
      exact different (Prod.mk.inj same).1
  | close sequence p _ _ _ _ _ posted =>
      obtain ⟨different, view⟩ := posting posted
      refine { view with closures := ?_ }
      intro reservationId
      apply StorageMap.get_insert_of_ne
      intro same
      exact different (Prod.mk.inj same).1

omit [Encode AccountId] [Encode BlockNumber] [LinearOrder BlockNumber] in
/-- A call that does not concern an account performs nothing for it. -/
theorem other_of_hidden (hidden : call.concerns account origin = false)
    {operation : Operation AccountId} (performed : call.operation origin = some operation) :
    account ≠ operation.account := by
  rintro rfl
  cases call with
  | approveService => cases performed
  | revokeService => cases performed
  | allocate =>
      obtain rfl := Option.some.inj performed
      exact of_decide_eq_false hidden rfl
  | reserve =>
      obtain ⟨account, signed, rfl⟩ := Option.map_eq_some_iff.mp performed
      exact of_decide_eq_false hidden (signer_eq_some.mp signed)
  | consume =>
      obtain ⟨account, signed, rfl⟩ := Option.map_eq_some_iff.mp performed
      exact of_decide_eq_false hidden (signer_eq_some.mp signed)
  | release =>
      obtain ⟨account, signed, rfl⟩ := Option.map_eq_some_iff.mp performed
      exact of_decide_eq_false hidden (signer_eq_some.mp signed)

/-- A call that does not concern an account leaves its view alone. -/
theorem Effect.hidden (effect : Effect env s origin call s')
    (hidden : call.concerns account origin = false) : SameView account s' s := by
  cases performed : call.operation origin with
  | some operation => exact effect.sameView performed (other_of_hidden hidden performed)
  | none =>
      have idle {sequence : U64} {p : Posting AccountId} {request : Request}
          (posted : Posted s origin call sequence p request) : False := by
        have impossible := posted.operation
        rw [performed] at impossible
        cases impossible
      cases effect with
      | retry => exact .refl account s
      | replay => exact .refl account s
      | approve => cases hidden
      | revoke => cases hidden
      | allocate _ _ _ _ _ posted => exact (idle posted).elim
      | reserve _ _ _ _ posted => exact (idle posted).elim
      | close _ _ _ _ _ _ _ posted => exact (idle posted).elim

/-- No call takes a receipt back. -/
theorem Effect.count_le (effect : Effect env s origin call s') :
    s.receiptCount.toNat ≤ s'.receiptCount.toNat := by
  rcases effect.log_cases with same | ⟨sequence, p, request, posted, same⟩
  · rw [same.count]
  · have grown : (s.post env sequence p).receiptCount.toNat = s.receiptCount.toNat + 1 :=
      posted.sequence
    rw [same.count, grown]
    exact Nat.le_succ _

end Framing

/-! ## Two runs -/

section Runs

variable [DecidableEq AccountId] [Encode AccountId] [Encode BlockNumber] [LinearOrder BlockNumber]

/-- Whether an input concerns an account: the passing of time does. -/
def inputConcerns (account : AccountId) :
    Input AccountId BlockNumber (Call AccountId BlockNumber) → Bool
  | .advance _ => true
  | .submit _ origin call => call.concerns account origin

/-- Once the receipt counter is full it stays full. -/
theorem room_before (w : World BlockNumber (Storage T AccountId BlockNumber))
    (input : Input AccountId BlockNumber (Call AccountId BlockNumber))
    (room : (step (pallet T) w input).1.storage.receiptCount ≠ BitVec.allOnes 64) :
    w.storage.receiptCount ≠ BitVec.allOnes 64 := by
  intro full
  apply room
  rcases step_cases (pallet T) w input with
    ⟨block, _, after⟩ | after | ⟨permits, origin, call, s', _, ran, after⟩
  · rw [after]
    exact full
  · rw [after]
    exact full
  · have grown := (pallet_effect ran).count_le
    have bound := s'.receiptCount.isLt
    rw [full, BitVec.toNat_allOnes] at grown
    rw [after]
    apply BitVec.eq_of_toNat_eq
    rw [BitVec.toNat_allOnes]
    change s'.receiptCount.toNat = 2 ^ 64 - 1
    omega

/-- Deleting the inputs that do not concern an account changes neither its view
nor the answers to the inputs that do. -/
theorem filter_run (account : AccountId) (genesis : BlockNumber)
    (inputs : List (Input AccountId BlockNumber (Call AccountId BlockNumber)))
    (room : (run T genesis inputs).storage.receiptCount ≠ BitVec.allOnes 64) :
    SameView account (run T genesis inputs).storage
        (run T genesis (inputs.filter (inputConcerns account))).storage ∧
      (trace (pallet T) ⟨genesis, .empty T AccountId BlockNumber⟩ inputs).filter
          (fun entry => inputConcerns account entry.1) =
        trace (pallet T) ⟨genesis, .empty T AccountId BlockNumber⟩
          (inputs.filter (inputConcerns account)) := by
  have simulation := Runs.filter_simulation
    (fun w : World BlockNumber (Storage T AccountId BlockNumber) =>
      w.storage.receiptCount ≠ BitVec.allOnes 64)
    (fun w v => w.now = v.now ∧ SameView account w.storage v.storage)
    (inputConcerns account) room_before ?skip ?both ⟨rfl, .refl account _⟩ inputs room
  · exact ⟨simulation.1.2, simulation.2⟩
  case skip =>
    rintro w v input hidden ⟨sameTime, view⟩
    rcases step_cases (pallet T) w input with
      ⟨block, rfl, _⟩ | after | ⟨permits, origin, call, s', rfl, ran, after⟩
    · cases hidden
    · rw [after]
      exact ⟨sameTime, view⟩
    · rw [after]
      exact ⟨sameTime, ((pallet_effect ran).hidden hidden).trans view⟩
  case both =>
    rintro w v input visible live ⟨sameTime, view⟩
    cases input with
    | advance block => exact ⟨rfl, congrArg (max · block) sameTime, view⟩
    | submit permits origin call =>
        have coupled := (pallet_coupled ⟨w.now, permits⟩ visible).withStorageLayer And.left
          ⟨view, room_before w _ live⟩
        simp only [step, ← sameTime]
        exact ⟨congrArg some coupled.1, trivial, coupled.2⟩

/-- Two runs that agree on time, on the services and on the calls concerning an
account give those calls the same answers and leave the account with the same
balances, reservations, closures and receipts, the receipts up to their place in
the global chain. -/
theorem accounts_isolated (T : Config) (genesis : BlockNumber) (account : AccountId)
    (inputs otherInputs : List (Input AccountId BlockNumber (Call AccountId BlockNumber)))
    (same : inputs.filter (inputConcerns account) = otherInputs.filter (inputConcerns account))
    (room : (run T genesis inputs).storage.receiptCount ≠ BitVec.allOnes 64)
    (otherRoom : (run T genesis otherInputs).storage.receiptCount ≠ BitVec.allOnes 64) :
    (trace (pallet T) ⟨genesis, .empty T AccountId BlockNumber⟩ inputs).filter
        (fun entry => inputConcerns account entry.1) =
      (trace (pallet T) ⟨genesis, .empty T AccountId BlockNumber⟩ otherInputs).filter
        (fun entry => inputConcerns account entry.1) ∧
    ∀ identifier : Id32,
      (run T genesis inputs).storage.balances.get (account, identifier) =
          (run T genesis otherInputs).storage.balances.get (account, identifier) ∧
        (run T genesis inputs).storage.reservations.get (account, identifier) =
          (run T genesis otherInputs).storage.reservations.get (account, identifier) ∧
        (run T genesis inputs).storage.reservationClosures.get (account, identifier) =
          (run T genesis otherInputs).storage.reservationClosures.get (account, identifier) ∧
        ((run T genesis inputs).storage.receipts.get (account, identifier)).map
            ResourceReceipt.unchained =
          ((run T genesis otherInputs).storage.receipts.get (account, identifier)).map
            ResourceReceipt.unchained := by
  -- both runs are compared with the one that holds only the inputs they share
  obtain ⟨view, answers⟩ := filter_run account genesis inputs room
  obtain ⟨otherView, otherAnswers⟩ := filter_run account genesis otherInputs otherRoom
  rw [← same] at otherView otherAnswers
  refine ⟨answers.trans otherAnswers.symm, fun identifier => ⟨?_, ?_, ?_, ?_⟩⟩
  · rw [view.balances, otherView.balances]
  · rw [view.reservations, otherView.reservations]
  · rw [view.closures, otherView.closures]
  · rw [view.receipts, otherView.receipts]

open Sample in
/-- An allocation to another account before the one to alice leaves her balance
the same. -/
theorem accounts_isolated_sample :
    (run config 1 allocation).storage.balances.get (alice, resource) =
      (run config 1 secondAllocation).storage.balances.get (alice, resource) := by
  have isolated := accounts_isolated config 1 alice allocation secondAllocation rfl
    (by decide +kernel) (by decide +kernel)
  exact (isolated.2 resource).1

end Runs

end Chlom.Utility
