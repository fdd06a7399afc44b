import Chlom.Utility.Isolation
import Mathlib.Data.Set.Function

/-!
# Exact retries

An operation is identified by its account and its operation id.  Its receipt
keeps the hash of the request for good, and the replay test runs before every
check on time, balance or lifecycle: whatever happened in between, the same call
is accepted without effect and every other call under the same identity is a
conflict.
-/

namespace Chlom.Utility

open Chlom.Frame

variable {T : Config} {AccountId BlockNumber : Type}

/-- The zero-identifier and zero-unit checks of a call. -/
def Call.WellFormed : Call AccountId BlockNumber → Prop
  | .approveService serviceId _ resourceId unitsPerAction _ _ approvalHash =>
      (serviceId ≠ ZERO_ID ∧ resourceId ≠ ZERO_ID ∧ approvalHash ≠ ZERO_ID) ∧ 0 < unitsPerAction
  | .revokeService _ _ approvalHash reasonHash => approvalHash ≠ ZERO_ID ∧ reasonHash ≠ ZERO_ID
  | .allocate operationId _ resourceId units approvalHash =>
      (operationId ≠ ZERO_ID ∧ resourceId ≠ ZERO_ID ∧ approvalHash ≠ ZERO_ID) ∧ 0 < units
  | .reserve operationId serviceId _ quantity =>
      (operationId ≠ ZERO_ID ∧ serviceId ≠ ZERO_ID) ∧ 0 < quantity
  | .consume operationId reservationId => operationId ≠ ZERO_ID ∧ reservationId ≠ ZERO_ID
  | .release operationId reservationId => operationId ≠ ZERO_ID ∧ reservationId ≠ ZERO_ID

/-- Whether an origin may make a call: the privileged origin administers and
allocates, any signed account reserves, consumes and releases. -/
def Authorised (env : Env AccountId BlockNumber) (origin : RawOrigin AccountId) :
    Call AccountId BlockNumber → Prop
  | .approveService .. => env.permits origin = true
  | .revokeService .. => env.permits origin = true
  | .allocate .. => env.permits origin = true
  | .reserve .. => origin.signer ≠ none
  | .consume .. => origin.signer ≠ none
  | .release .. => origin.signer ≠ none

/-- The call that performs an operation, if one can. -/
def Operation.call (operation : Operation AccountId) : Option (Call AccountId BlockNumber) :=
  match operation.request with
  | .allocate resourceId units approvalHash =>
      some (.allocate operation.operationId operation.account resourceId units approvalHash)
  | .reserve serviceId version quantity =>
      some (.reserve operation.operationId serviceId version quantity)
  | .close .consume reservationId => some (.consume operation.operationId reservationId)
  | .close .release reservationId => some (.release operation.operationId reservationId)
  | .close .allocate _ => none
  | .close .reserve _ => none

/-- A call is determined by the operation it performs. -/
theorem call_of_operation {origin : RawOrigin AccountId} {call : Call AccountId BlockNumber}
    {operation : Operation AccountId} (performed : call.operation origin = some operation) :
    operation.call = some call := by
  cases call with
  | approveService => cases performed
  | revokeService => cases performed
  | allocate =>
      obtain rfl := Option.some.inj performed
      rfl
  | reserve =>
      obtain ⟨account, _, rfl⟩ := Option.map_eq_some_iff.mp performed
      rfl
  | consume =>
      obtain ⟨account, _, rfl⟩ := Option.map_eq_some_iff.mp performed
      rfl
  | release =>
      obtain ⟨account, _, rfl⟩ := Option.map_eq_some_iff.mp performed
      rfl

/-! ## Request hashes tell operations apart -/

section Requests

variable [Encode AccountId]

/-- The leading byte of a request is its kind. -/
theorem Operation.kind_of_preimage {first second : Operation AccountId}
    (same : first.preimage = second.preimage) : first.request.kind = second.request.kind := by
  have leading (operation : Operation AccountId) :
      ∃ rest, operation.encoded = Encode.encode operation.request.kind ++ rest := by
    obtain ⟨account, operationId, request⟩ := operation
    cases request <;> exact ⟨_, rfl⟩
  obtain ⟨firstRest, firstEq⟩ := leading first
  obtain ⟨secondRest, secondEq⟩ := leading second
  have encoded := List.append_cancel_left same
  rw [firstEq, secondEq] at encoded
  exact (Encode.split encoded).1

/-- Requests that encode alike are made by the same call. -/
theorem call_of_preimage {first second : Operation AccountId}
    {call other : Call AccountId BlockNumber} (performed : first.call = some call)
    (otherPerformed : second.call = some other) (sameId : first.operationId = second.operationId)
    (same : first.preimage = second.preimage) : call = other := by
  have kinds := Operation.kind_of_preimage same
  have encoded := List.append_cancel_left same
  obtain ⟨account, operationId, request⟩ := first
  obtain ⟨otherAccount, otherId, otherRequest⟩ := second
  cases request with
  | allocate =>
      cases otherRequest with
      | allocate =>
          have tuples := Encode.encode_injective encoded
          simp_all [Operation.call]
      | reserve => cases kinds
      | close kind =>
          obtain rfl : OperationKind.allocate = kind := kinds
          cases otherPerformed
  | reserve =>
      cases otherRequest with
      | allocate => cases kinds
      | reserve =>
          have tuples := Encode.encode_injective encoded
          simp_all [Operation.call]
      | close kind =>
          obtain rfl : OperationKind.reserve = kind := kinds
          cases otherPerformed
  | close kind =>
      cases otherRequest with
      | allocate =>
          obtain rfl : kind = OperationKind.allocate := kinds
          cases performed
      | reserve =>
          obtain rfl : kind = OperationKind.reserve := kinds
          cases performed
      | close =>
          have tuples := Encode.encode_injective encoded
          simp_all [Operation.call]

end Requests

section Filed

variable [DecidableEq AccountId] [Encode AccountId] [Encode BlockNumber] [LinearOrder BlockNumber]
  {env : Env AccountId BlockNumber} {s s' : Storage T AccountId BlockNumber}
  {origin : RawOrigin AccountId} {call : Call AccountId BlockNumber}
  {operation : Operation AccountId}

/-- A successful call passed the checks on its arguments. -/
theorem wellFormed_of_ok (done : pallet T env origin call s = .ok () s') : call.WellFormed := by
  cases call with
  | approveService =>
      simp only [pallet, approveService, ensureOrigin_bind_ok, ensure_bind_ok] at done
      exact ⟨done.2.1, done.2.2.1⟩
  | revokeService =>
      simp only [pallet, revokeService, ensureOrigin_bind_ok, ensure_bind_ok] at done
      exact done.2.1
  | allocate =>
      simp only [pallet, allocate, ensureOrigin_bind_ok, ensure_bind_ok] at done
      exact ⟨done.2.1, done.2.2.1⟩
  | reserve =>
      simp only [pallet, reserve, ensureSigned_bind_ok, ensure_bind_ok] at done
      obtain ⟨_, _, nonzero, positive, _⟩ := done
      exact ⟨nonzero, positive⟩
  | consume =>
      simp only [pallet, consume, closeReservation, ensureSigned_bind_ok, ensure_bind_ok] at done
      obtain ⟨_, _, nonzero, _⟩ := done
      exact nonzero
  | release =>
      simp only [pallet, release, closeReservation, ensureSigned_bind_ok, ensure_bind_ok] at done
      obtain ⟨_, _, nonzero, _⟩ := done
      exact nonzero

/-- The answer to a well-formed call whose identity is filed already. -/
theorem pallet_filed (performed : call.operation origin = some operation)
    (authorised : Authorised env origin call) (wellFormed : call.WellFormed)
    {prior : ResourceReceipt AccountId BlockNumber}
    (stored : s.receipts.get (operation.account, operation.operationId) = some prior) :
    pallet T env origin call s =
      if prior.requestHash = operation.requestHash T then .ok () s
      else .error (.module .operationConflict) s := by
  cases call with
  | approveService => cases performed
  | revokeService => cases performed
  | allocate =>
      obtain rfl := Option.some.inj performed
      simp only [pallet, allocate]
      rw [ensureOrigin_bind_pos authorised, ensure_bind_pos wellFormed.1,
        ensure_bind_pos wellFormed.2]
      exact replay_filed stored
  | reserve =>
      obtain ⟨account, signed, rfl⟩ := Option.map_eq_some_iff.mp performed
      obtain rfl := signer_eq_some.mp signed
      simp only [pallet, reserve]
      rw [ensureSigned_bind_signed, ensure_bind_pos wellFormed.1, ensure_bind_pos wellFormed.2]
      exact replay_filed stored
  | consume =>
      obtain ⟨account, signed, rfl⟩ := Option.map_eq_some_iff.mp performed
      obtain rfl := signer_eq_some.mp signed
      obtain ⟨operationNonzero, reservationNonzero⟩ := wellFormed
      simp only [pallet, consume, closeReservation]
      rw [ensureSigned_bind_signed, ensure_bind_pos ⟨operationNonzero, reservationNonzero⟩]
      exact replay_filed stored
  | release =>
      obtain ⟨account, signed, rfl⟩ := Option.map_eq_some_iff.mp performed
      obtain rfl := signer_eq_some.mp signed
      obtain ⟨operationNonzero, reservationNonzero⟩ := wellFormed
      simp only [pallet, release, closeReservation]
      rw [ensureSigned_bind_signed, ensure_bind_pos ⟨operationNonzero, reservationNonzero⟩]
      exact replay_filed stored

/-- After a successful call its operation is filed under the hash of its request. -/
theorem Effect.filed (effect : Effect env s origin call s')
    (performed : call.operation origin = some operation) :
    ∃ receipt, s'.receipts.get (operation.account, operation.operationId) = some receipt ∧
      receipt.requestHash = operation.requestHash T := by
  have posting {sequence : U64} {p : Posting AccountId} {request : Request}
      (posted : Posted s origin call sequence p request) :
      ∃ receipt,
        (s.post env sequence p).receipts.get (operation.account, operation.operationId) =
            some receipt ∧
          receipt.requestHash = operation.requestHash T := by
    obtain rfl := Option.some.inj (posted.operation.symm.trans performed)
    exact ⟨_, post_receipt s env sequence p, posted.requestHash⟩
  cases effect with
  | retry administrative =>
      rw [administrative] at performed
      cases performed
  | replay other prior otherPerformed stored matching =>
      obtain rfl := Option.some.inj (otherPerformed.symm.trans performed)
      exact ⟨prior, stored, matching⟩
  | approve => cases performed
  | revoke => cases performed
  | allocate _ _ _ _ _ posted => exact posting posted
  | reserve _ _ _ _ posted => exact posting posted
  | close _ _ _ _ _ _ _ posted => exact posting posted

omit [Encode AccountId] [Encode BlockNumber] [LinearOrder BlockNumber] in
/-- An operation concerns the account it is filed under. -/
theorem concerns_of_operation (performed : call.operation origin = some operation) :
    call.concerns operation.account origin = true := by
  cases concerned : call.concerns operation.account origin with
  | true => rfl
  | false => exact absurd rfl (other_of_hidden concerned performed)

end Filed

/-! ## Retries over the whole future -/

section Runs

variable [DecidableEq AccountId] [Encode AccountId] [Encode BlockNumber] [LinearOrder BlockNumber]

/-- Once a call has succeeded, in every later state the same call succeeds
without effect, any other call under the same account and operation id is a
conflict without effect, and no operation of another account was affected. -/
theorem operation_idempotent (T : Config) (genesis : BlockNumber)
    (inputs later : List (Input AccountId BlockNumber (Call AccountId BlockNumber)))
    {permits : RawOrigin AccountId → Bool} {origin : RawOrigin AccountId}
    {call : Call AccountId BlockNumber} {operation : Operation AccountId}
    {s' : Storage T AccountId BlockNumber}
    (performed : call.operation origin = some operation)
    (succeeded : pallet T ⟨(run T genesis inputs).now, permits⟩ origin call
      (run T genesis inputs).storage = .ok () s') :
    let s := (run T genesis (inputs ++ .submit permits origin call :: later)).storage
    (∀ env retryOrigin, call.operation retryOrigin = some operation →
        Authorised env retryOrigin call → pallet T env retryOrigin call s = .ok () s) ∧
      (∀ env otherOrigin other otherOperation,
        other.operation otherOrigin = some otherOperation →
          otherOperation.account = operation.account →
            otherOperation.operationId = operation.operationId →
              Authorised env otherOrigin other → other.WellFormed → other ≠ call →
                Set.InjOn T.blake2_256 {operation.preimage, otherOperation.preimage} →
                  pallet T env otherOrigin other s =
                    .error (.module .operationConflict) s) ∧
      ∀ env otherOrigin other otherOperation,
        other.operation otherOrigin = some otherOperation →
          otherOperation.account ≠ operation.account →
            (∀ request, Dispatch.outcome
                (isReplay otherOperation.account otherOperation.operationId request s') =
              Dispatch.outcome (isReplay otherOperation.account otherOperation.operationId request
                (run T genesis inputs).storage)) ∧
              (s'.receiptCount ≠ BitVec.allOnes 64 →
                Dispatch.outcome (pallet T env otherOrigin other s') =
                  Dispatch.outcome (pallet T env otherOrigin other
                    (run T genesis inputs).storage)) := by
  intro s
  -- the receipt filed by the call is still there, with the hash of the same request
  have records := records_run T genesis inputs
  have effect := pallet_effect succeeded
  obtain ⟨receipt, filed, requestEq⟩ := effect.filed performed
  have stored : s.receipts.get (operation.account, operation.operationId) = some receipt := by
    change (Frame.run (pallet T) _ _).storage.receipts.get _ = _
    rw [run_through_submit succeeded]
    exact (@extends_run T _ _ _ _ _ _ ⟨_, s'⟩ (effect.records records) later).receipts filed
  refine ⟨?_, ?_, ?_⟩
  · intro env retryOrigin retried authorised
    rw [pallet_filed retried authorised (wellFormed_of_ok succeeded) stored, if_pos requestEq]
  · intro env otherOrigin other otherOperation otherPerformed sameAccount sameId authorised
      wellFormed different collisionFree
    rw [← sameAccount, ← sameId] at stored
    rw [pallet_filed otherPerformed authorised wellFormed stored, if_neg]
    rw [requestEq]
    intro hashes
    have preimages := collisionFree (by simp) (by simp) hashes
    exact different (call_of_preimage (call_of_operation performed)
      (call_of_operation otherPerformed) sameId.symm preimages).symm
  · intro env otherOrigin other otherOperation otherPerformed otherAccount
    have view := effect.sameView performed otherAccount
    exact ⟨fun request => (isReplay_coupled id _ request).outcome_eq view, fun room =>
      (pallet_coupled env (concerns_of_operation otherPerformed)).outcome_eq ⟨view, room⟩⟩

open Sample in
/-- After the service was revoked and has ended, the sample reservation can be
retried, and a consumption under its operation id is a conflict. -/
theorem operation_idempotent_sample :
    let s := (run config 1 (inputs ++ submit (.signed alice) reserveCall ::
      [submit .root revokeCall, .advance 200])).storage
    pallet config ⟨300, fun _ => false⟩ (.signed alice) reserveCall s = .ok () s ∧
      pallet config ⟨300, fun _ => false⟩ (.signed alice)
        (.consume (Id32.repeated 12) (Id32.repeated 12)) s =
          .error (.module .operationConflict) s := by
  have outcome : Dispatch.outcome (pallet config ⟨(run config 1 inputs).now, (· = .root)⟩
      (.signed alice) reserveCall (run config 1 inputs).storage) = .ok () := by decide +kernel
  obtain ⟨retried, conflicts, _⟩ := operation_idempotent config 1 inputs
    [submit .root revokeCall, .advance 200] rfl (Dispatch.eq_ok_of_outcome outcome)
  have collisionFree : Set.InjOn config.blake2_256
      {Operation.preimage ⟨alice, Id32.repeated 12, .reserve service 1 3⟩,
        Operation.preimage ⟨alice, Id32.repeated 12, .close .consume (Id32.repeated 12)⟩} := by
    have different : config.blake2_256
        (Operation.preimage ⟨alice, Id32.repeated 12, .reserve service 1 3⟩) ≠
      config.blake2_256
        (Operation.preimage ⟨alice, Id32.repeated 12, .close .consume (Id32.repeated 12)⟩) := by
      decide +kernel
    rintro _ (rfl | rfl) _ (rfl | rfl) equal
    · rfl
    · exact absurd equal different
    · exact absurd equal.symm different
    · rfl
  exact ⟨retried ⟨300, fun _ => false⟩ (.signed alice) rfl (Option.some_ne_none _),
    conflicts ⟨300, fun _ => false⟩ (.signed alice) _ _ rfl rfl rfl (Option.some_ne_none _)
      ⟨by decide, by decide⟩ (by simp [reserveCall]) collisionFree⟩

end Runs

end Chlom.Utility
