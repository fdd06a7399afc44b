import Chlom.Authority.Pallet
import Chlom.Checkpoint.Pallet
import Chlom.Identity.Pallet
import Chlom.Licensing.Pallet
import Chlom.Oracle.Reviews
import Chlom.Policy.Pallet
import Chlom.Rights.Pallet
import Chlom.Settlement.Pallet
import Chlom.Tokenization.Pallet
import Chlom.Utility.Pallet

/-!
# Rejected calls

Every call of the ten pallets writes only after its last check, so a rejected
call leaves the storage and the events as they were, whatever they were and even
outside a storage layer.
-/

namespace Chlom

open Chlom.Frame

variable {AccountId BlockNumber σ ε Call : Type}

/-- Whatever the storage, a rejected call of the pallet leaves it as it was. -/
def Frame.RejectsCleanly (pallet : Pallet AccountId BlockNumber σ ε Call) : Prop :=
  ∀ (env : Env AccountId BlockNumber) (origin : RawOrigin AccountId) (call : Call) (s s' : σ)
    (failure : DispatchError ε), pallet env origin call s = .error failure s' → s' = s

theorem Frame.rejectsCleanly_of_atomic {pallet : Pallet AccountId BlockNumber σ ε Call}
    (atomic : ∀ env origin call, Dispatch.Atomic (pallet env origin call)) :
    RejectsCleanly pallet :=
  fun env origin call _ _ _ failed => (atomic env origin call).unchanged failed

/-! ## Authority, identity and checkpoint calls -/

section Calls

variable (env : Env AccountId BlockNumber) (origin : RawOrigin AccountId)

instance ensureNextVersion_atomic {R : Type} (head : Option U32) (prior : σ → U32 → Option R)
    (recordHash : R → Id32) (version : U32) (previousRecordHash : Option Id32)
    (invalidVersion previousHashMismatch : ε) (also : R → Dispatch σ (DispatchError ε) Unit)
    [∀ found, Dispatch.Atomic (also found)] :
    Dispatch.Atomic (ensureNextVersion head prior recordHash version previousRecordHash
      invalidVersion previousHashMismatch also) := by
  unfold ensureNextVersion
  cases head with
  | none => infer_instance
  | some head =>
      repeat refine .check fun _ => ?_
      infer_instance

instance ensureNextVersion_readOnly {R : Type} (head : Option U32) (prior : σ → U32 → Option R)
    (recordHash : R → Id32) (version : U32) (previousRecordHash : Option Id32)
    (invalidVersion previousHashMismatch : ε) (also : R → Dispatch σ (DispatchError ε) Unit)
    [∀ found, Dispatch.ReadOnly (also found)] :
    Dispatch.ReadOnly (ensureNextVersion head prior recordHash version previousRecordHash
      invalidVersion previousHashMismatch also) := by
  unfold ensureNextVersion
  cases head <;> infer_instance

theorem Authority.pallet_atomic (call : Authority.Call BlockNumber) :
    Dispatch.Atomic (Authority.pallet env origin call) := by
  cases call
  unfold Authority.pallet Authority.recordGrantVersion Authority.depositEvent
  repeat refine .check fun _ => ?_
  infer_instance

theorem Identity.pallet_atomic (call : Identity.Call BlockNumber) :
    Dispatch.Atomic (Identity.pallet env origin call) := by
  cases call with
  | recordIdentityVersion =>
      unfold Identity.pallet Identity.recordIdentityVersion Identity.depositEvent
      repeat refine .check fun _ => ?_
      infer_instance
  | recordCredentialVersion =>
      unfold Identity.pallet Identity.recordCredentialVersion Identity.depositEvent
      repeat refine .check fun _ => ?_
      infer_instance

instance ensureFollows_atomic (value : Checkpoint.CheckpointRecord) :
    Dispatch.Atomic (Checkpoint.ensureFollows value) := by
  unfold Checkpoint.ensureFollows
  refine .check fun head => ?_
  cases head <;> infer_instance

instance ensureFollows_readOnly (value : Checkpoint.CheckpointRecord) :
    Dispatch.ReadOnly (Checkpoint.ensureFollows value) := by
  unfold Checkpoint.ensureFollows
  refine @Dispatch.ReadOnly.bind _ _ _ _ _ _ _ fun head => ?_
  cases head <;> infer_instance

theorem Checkpoint.pallet_atomic (call : Checkpoint.Call) :
    Dispatch.Atomic (Checkpoint.pallet env origin call) := by
  cases call with
  | recordCheckpoint =>
      unfold Checkpoint.pallet Checkpoint.recordCheckpoint Checkpoint.depositEvent
      repeat refine .check fun _ => ?_
      infer_instance
  | recordAnchorIntent =>
      unfold Checkpoint.pallet Checkpoint.recordAnchorIntent Checkpoint.depositEvent
      repeat refine .check fun _ => ?_
      infer_instance
  | recordAnchorReceipt =>
      unfold Checkpoint.pallet Checkpoint.recordAnchorReceipt Checkpoint.depositEvent
      repeat refine .check fun _ => ?_
      infer_instance

/-! ## Rights calls -/

/-- The write of a supersession comes after the checks of the superseded record,
and nothing after it can fail. -/
theorem Rights.pallet_atomic [LinearOrder BlockNumber] (call : Rights.Call BlockNumber) :
    Dispatch.Atomic (Rights.pallet env origin call) := by
  cases call with
  | recordOwnershipInterest =>
      unfold Rights.pallet Rights.recordOwnershipInterest Rights.depositEvent
      iterate 6 refine .check fun _ => ?_
      infer_instance
  | recordRightsInstrument =>
      unfold Rights.pallet Rights.recordRightsInstrument Rights.depositEvent
      iterate 6 refine .check fun _ => ?_
      infer_instance

/-! ## Licensing and settlement calls -/

instance validateVersion_atomic (head : Option U32) (version : U32)
    (previousRecordHash : Option Id32)
    (priorHash : Licensing.Storage BlockNumber → U32 → Option Id32) :
    Dispatch.Atomic (Licensing.validateVersion head version previousRecordHash priorHash) := by
  unfold Licensing.validateVersion
  cases head <;> infer_instance

instance validateVersion_readOnly (head : Option U32) (version : U32)
    (previousRecordHash : Option Id32)
    (priorHash : Licensing.Storage BlockNumber → U32 → Option Id32) :
    Dispatch.ReadOnly (Licensing.validateVersion head version previousRecordHash priorHash) := by
  unfold Licensing.validateVersion
  cases head <;> infer_instance

theorem Licensing.pallet_atomic [LinearOrder BlockNumber]
    (verifier : Licensing.RightsVerifier BlockNumber) (call : Licensing.Call BlockNumber) :
    Dispatch.Atomic (Licensing.pallet verifier env origin call) := by
  cases call with
  | recordDlaVersion =>
      unfold Licensing.pallet Licensing.recordDlaVersion Licensing.depositEvent
      repeat refine .check fun _ => ?_
      infer_instance
  | recordLicenseVersion =>
      unfold Licensing.pallet Licensing.recordLicenseVersion Licensing.depositEvent
      repeat refine .check fun _ => ?_
      infer_instance
  | recordLexOfferVersion =>
      unfold Licensing.pallet Licensing.recordLexOfferVersion Licensing.depositEvent
      repeat refine .check fun _ => ?_
      infer_instance
  | recordEntitlementVersion =>
      unfold Licensing.pallet Licensing.recordEntitlementVersion Licensing.depositEvent
      repeat refine .check fun _ => ?_
      infer_instance

instance checkLegs_atomic {T : Settlement.Config} (total : U32)
    (legs : List Settlement.SplitLeg) :
    Dispatch.Atomic (Settlement.checkLegs total legs : Settlement.Body T U32) := by
  induction legs generalizing total with
  | nil => exact inferInstanceAs (Dispatch.Atomic (pure total))
  | cons leg rest ih => exact .check fun _ => ih _

instance checkLegs_readOnly {T : Settlement.Config} (total : U32)
    (legs : List Settlement.SplitLeg) :
    Dispatch.ReadOnly (Settlement.checkLegs total legs : Settlement.Body T U32) := by
  induction legs generalizing total with
  | nil => exact inferInstanceAs (Dispatch.ReadOnly (pure total))
  | cons leg rest ih =>
      exact @Dispatch.ReadOnly.bind _ _ _ _ _ _ inferInstance fun _ => ih _

theorem Settlement.pallet_atomic {T : Settlement.Config} (call : Settlement.Call T) :
    Dispatch.Atomic (Settlement.pallet T env origin call) := by
  cases call with
  | recordRevenuePolicy =>
      unfold Settlement.pallet Settlement.recordRevenuePolicy Settlement.depositEvent
      repeat refine .check fun _ => ?_
      infer_instance
  | previewSettlement =>
      unfold Settlement.pallet Settlement.previewSettlement Settlement.depositEvent
      repeat refine .check fun _ => ?_
      infer_instance

/-! ## Tokenization and oracle calls -/

instance ensureReceipt_atomic (details : Tokenization.ProviderEvent) :
    Dispatch.Atomic (Tokenization.ensureReceipt details) :=
  ensure_atomic _ _

instance ensureReceipt_readOnly (details : Tokenization.ProviderEvent) :
    Dispatch.ReadOnly (Tokenization.ensureReceipt details) :=
  ensure_readOnly _ _

instance mintAdapter_atomic (details : Tokenization.ProviderEvent) :
    Dispatch.Atomic (Tokenization.mintAdapter details) := by
  unfold Tokenization.mintAdapter
  infer_instance

instance mintAdapter_readOnly (details : Tokenization.ProviderEvent) :
    Dispatch.ReadOnly (Tokenization.mintAdapter details) := by
  unfold Tokenization.mintAdapter
  infer_instance

section Events

variable (prior : Option Tokenization.TokenEventRecord) (object : Tokenization.TokenizedObject)
  (class' : Tokenization.TokenClass) (details : Tokenization.ProviderEvent)

instance validateMint_atomic :
    Dispatch.Atomic (Tokenization.validateMint prior object details) := by
  unfold Tokenization.validateMint
  infer_instance

instance validateMint_readOnly :
    Dispatch.ReadOnly (Tokenization.validateMint prior object details) := by
  unfold Tokenization.validateMint
  infer_instance

instance validateProviderBinding_atomic :
    Dispatch.Atomic (Tokenization.validateProviderBinding prior details) := by
  unfold Tokenization.validateProviderBinding
  infer_instance

instance validateProviderBinding_readOnly :
    Dispatch.ReadOnly (Tokenization.validateProviderBinding prior details) := by
  unfold Tokenization.validateProviderBinding
  infer_instance

instance validateEvent_atomic :
    Dispatch.Atomic (Tokenization.validateEvent prior object class' details) := by
  unfold Tokenization.validateEvent
  split
  all_goals
    repeat refine .check fun _ => ?_
    infer_instance

instance validateEvent_readOnly :
    Dispatch.ReadOnly (Tokenization.validateEvent prior object class' details) := by
  unfold Tokenization.validateEvent
  split <;> infer_instance

end Events

theorem Tokenization.pallet_atomic (call : Tokenization.Call) :
    Dispatch.Atomic (Tokenization.pallet env origin call) := by
  cases call with
  | recordTokenClass =>
      unfold Tokenization.pallet Tokenization.recordTokenClass Tokenization.depositEvent
      repeat refine .check fun _ => ?_
      infer_instance
  | recordChainAdapter =>
      unfold Tokenization.pallet Tokenization.recordChainAdapter Tokenization.depositEvent
      repeat refine .check fun _ => ?_
      infer_instance
  | registerTokenizedObject =>
      unfold Tokenization.pallet Tokenization.registerTokenizedObject Tokenization.depositEvent
      repeat refine .check fun _ => ?_
      infer_instance
  | recordProviderEvent =>
      unfold Tokenization.pallet Tokenization.recordProviderEvent Tokenization.depositEvent
      repeat refine .check fun _ => ?_
      infer_instance

theorem Oracle.pallet_atomic (call : Oracle.Call) :
    Dispatch.Atomic (Oracle.pallet env origin call) where
  unchanged failed := Oracle.pallet_rejected env failed

/-! ## Utility and policy calls -/

section Utility

variable {T : Utility.Config} [DecidableEq AccountId]

instance isReplay_atomic (account : AccountId) (operationId requestHash : Id32) :
    Dispatch.Atomic (Utility.isReplay account operationId requestHash :
      Utility.Body T AccountId BlockNumber Bool) := by
  unfold Utility.isReplay
  refine .check fun receipt => ?_
  cases receipt <;> infer_instance

instance isReplay_readOnly (account : AccountId) (operationId requestHash : Id32) :
    Dispatch.ReadOnly (Utility.isReplay account operationId requestHash :
      Utility.Body T AccountId BlockNumber Bool) := by
  unfold Utility.isReplay
  refine @Dispatch.ReadOnly.bind _ _ _ _ _ _ _ fun receipt => ?_
  cases receipt <;> infer_instance

variable [LinearOrder BlockNumber] [Encode AccountId] [Encode BlockNumber]

/-- The counter is checked before the first write of a receipt. -/
instance appendReceipt_atomic (operationId requestHash : Id32) (kind : Utility.OperationKind)
    (account : AccountId) (resourceId : Id32) (reservationId : Option Id32) (units : U128)
    (approvalHash : Option Id32) (balanceAfter : Utility.ResourceBalance) :
    Dispatch.Atomic (Utility.appendReceipt env operationId requestHash kind account resourceId
      reservationId units approvalHash balanceAfter :
        Utility.Body T AccountId BlockNumber Unit) := by
  unfold Utility.appendReceipt Utility.depositEvent
  repeat refine .check fun _ => ?_
  infer_instance

theorem closeReservation_atomic (account : AccountId) (operationId reservationId : Id32)
    (kind : Utility.OperationKind) :
    Dispatch.Atomic (Utility.closeReservation env account operationId reservationId kind :
      Utility.Body T AccountId BlockNumber Unit) := by
  unfold Utility.closeReservation
  refine .check fun _ => .check fun replay => ?_
  cases replay with
  | true => exact inferInstanceAs (Dispatch.Atomic (pure ()))
  | false =>
      rw [if_neg Bool.false_ne_true]
      iterate 7 refine .check fun _ => ?_
      by_cases consumption : kind = .consume
      · simp only [consumption, if_true]
        infer_instance
      · simp only [consumption, if_false]
        infer_instance

theorem Utility.pallet_atomic (call : Utility.Call AccountId BlockNumber) :
    Dispatch.Atomic (Utility.pallet T env origin call) := by
  cases call with
  | approveService =>
      unfold Utility.pallet Utility.approveService Utility.depositEvent
      iterate 4 refine .check fun _ => ?_
      split
      · infer_instance
      · repeat refine .check fun _ => ?_
        infer_instance
  | revokeService =>
      unfold Utility.pallet Utility.revokeService Utility.depositEvent
      iterate 5 refine .check fun _ => ?_
      split <;> infer_instance
  | allocate =>
      unfold Utility.pallet Utility.allocate
      iterate 4 refine .check fun _ => ?_
      split
      · infer_instance
      · iterate 3 refine .check fun _ => ?_
        infer_instance
  | reserve =>
      unfold Utility.pallet Utility.reserve
      iterate 4 refine .check fun _ => ?_
      split
      · infer_instance
      · iterate 7 refine .check fun _ => ?_
        infer_instance
  | consume operationId reservationId =>
      exact .check fun account => closeReservation_atomic env account operationId reservationId _
  | release operationId reservationId =>
      exact .check fun account => closeReservation_atomic env account operationId reservationId _

end Utility

theorem Policy.pallet_atomic [LinearOrder BlockNumber] {T : Policy.Config}
    (call : Policy.Call BlockNumber) : Dispatch.Atomic (Policy.pallet T env origin call) := by
  cases call with
  | approveVersion =>
      unfold Policy.pallet Policy.approveVersion Policy.depositEvent
      iterate 3 refine .check fun _ => ?_
      split
      · infer_instance
      · repeat refine .check fun _ => ?_
        infer_instance
  | revokeVersion =>
      unfold Policy.pallet Policy.revokeVersion Policy.depositEvent
      iterate 5 refine .check fun _ => ?_
      split <;> infer_instance

end Calls

/-- No call of the ten pallets leaves a write or an event behind when it fails. -/
theorem failed_calls_leave_nothing [DecidableEq AccountId] [LinearOrder BlockNumber]
    [Encode AccountId] [Encode BlockNumber] (verifier : Licensing.RightsVerifier BlockNumber)
    (settlement : Settlement.Config) (utility : Utility.Config) (policy : Policy.Config) :
    RejectsCleanly (Authority.pallet : Pallet AccountId BlockNumber _ _ _) ∧
      RejectsCleanly (Identity.pallet : Pallet AccountId BlockNumber _ _ _) ∧
      RejectsCleanly (Rights.pallet : Pallet AccountId BlockNumber _ _ _) ∧
      RejectsCleanly (Licensing.pallet verifier : Pallet AccountId BlockNumber _ _ _) ∧
      RejectsCleanly (Settlement.pallet settlement : Pallet AccountId BlockNumber _ _ _) ∧
      RejectsCleanly (Tokenization.pallet : Pallet AccountId BlockNumber _ _ _) ∧
      RejectsCleanly (Oracle.pallet : Pallet AccountId BlockNumber _ _ _) ∧
      RejectsCleanly (Checkpoint.pallet : Pallet AccountId BlockNumber _ _ _) ∧
      RejectsCleanly (Utility.pallet utility : Pallet AccountId BlockNumber _ _ _) ∧
      RejectsCleanly (Policy.pallet policy : Pallet AccountId BlockNumber _ _ _) := by
  refine ⟨?_, ?_, ?_, ?_, ?_, ?_, ?_, ?_, ?_, ?_⟩
  · exact rejectsCleanly_of_atomic fun env origin => Authority.pallet_atomic env origin
  · exact rejectsCleanly_of_atomic fun env origin => Identity.pallet_atomic env origin
  · exact rejectsCleanly_of_atomic fun env origin => Rights.pallet_atomic env origin
  · exact rejectsCleanly_of_atomic fun env origin => Licensing.pallet_atomic env origin verifier
  · exact rejectsCleanly_of_atomic fun env origin => Settlement.pallet_atomic env origin
  · exact rejectsCleanly_of_atomic fun env origin => Tokenization.pallet_atomic env origin
  · exact rejectsCleanly_of_atomic fun env origin => Oracle.pallet_atomic env origin
  · exact rejectsCleanly_of_atomic fun env origin => Checkpoint.pallet_atomic env origin
  · exact rejectsCleanly_of_atomic fun env origin => Utility.pallet_atomic env origin
  · exact rejectsCleanly_of_atomic fun env origin => Policy.pallet_atomic env origin

end Chlom
