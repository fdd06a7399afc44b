import Chlom.Utility.Effects
import Chlom.VersionedPallet

/-!
# The service tables of the utility pallet

Only approvals and revocations of a service touch its version table; every
account operation leaves all tables alone.
-/

namespace Chlom.Utility

open Chlom.Frame

variable {T : Config} {AccountId BlockNumber : Type}

/-- The tables after one approval. -/
theorem serviceTable_approve (s : Storage T AccountId BlockNumber) {serviceId : Id32}
    {version : U32} {service : ServiceVersion BlockNumber}
    {index : BoundedVec U32 T.maxServiceVersions.toNat} (events : List (Event AccountId))
    (pushed : index.toList = (s.serviceTable serviceId).index ++ [version]) (other : Id32) :
    Storage.serviceTable
        { s with
          services := s.services.insert (serviceId, version) service
          serviceIndex := s.serviceIndex.insert serviceId index
          events } other =
      if other = serviceId then (s.serviceTable serviceId).approve version service
      else s.serviceTable other := by
  by_cases same : other = serviceId
  · subst same
    simp only [Storage.serviceTable, VersionTable.approve, StorageMap.getD_insert, if_true,
      StorageMap.get_insert, Prod.mk.injEq, true_and]
    rw [pushed]
    rfl
  · simp [Storage.serviceTable, StorageMap.getD_insert, StorageMap.get_insert, same]

/-- The tables after one revocation. -/
theorem serviceTable_revoke (s : Storage T AccountId BlockNumber) (serviceId : Id32)
    (version : U32) (revocation : ServiceRevocation BlockNumber) (events : List (Event AccountId))
    (other : Id32) :
    Storage.serviceTable
        { s with
          serviceRevocations := s.serviceRevocations.insert (serviceId, version) revocation
          events } other =
      if other = serviceId then (s.serviceTable serviceId).revoke version revocation.revokedAt
      else s.serviceTable other := by
  by_cases same : other = serviceId
  · subst same
    simp only [Storage.serviceTable, VersionTable.revoke, StorageMap.get_insert, if_true,
      Prod.mk.injEq, true_and, VersionTable.mk.injEq]
    funext candidate
    split <;> rfl
  · simp [Storage.serviceTable, StorageMap.get_insert, same]

variable [DecidableEq AccountId] [Encode AccountId] [Encode BlockNumber] [LinearOrder BlockNumber]

/-- Only an approval or a revocation changes the table of a service. -/
theorem versioned (T : Config) :
    Versioned (pallet T) (@Storage.serviceTable T AccountId BlockNumber) := by
  constructor
  intro env origin call s s' wellFormed done serviceId
  cases pallet_effect done with
  | retry => exact .same
  | replay => exact .same
  | approve approved version service index fresh dated _ _ next forward pushed =>
      rw [serviceTable_approve s _ pushed]
      split
      · next same =>
          subst same
          exact (wellFormed serviceId).changed_approve next fresh dated forward
      · exact .same
  | revoke revoked version revocation dated fresh =>
      rw [serviceTable_revoke]
      split
      · next same =>
          subst same
          rw [dated]
          refine .revoke version ?_
          simp [Storage.serviceTable, fresh]
      · exact .same
  | allocate => exact .same
  | reserve => exact .same
  | close => exact .same

omit [DecidableEq AccountId] [Encode AccountId] [Encode BlockNumber] in
/-- The service tables start out empty. -/
theorem serviceTable_empty (genesis : BlockNumber) (serviceId : Id32) :
    ((Storage.empty T AccountId BlockNumber).serviceTable serviceId).WellFormed genesis :=
  VersionTable.wellFormed_of_empty rfl fun _ => rfl

theorem serviceTable_run (T : Config) (genesis : BlockNumber)
    (inputs : List (Input AccountId BlockNumber (Call AccountId BlockNumber)))
    (serviceId : Id32) :
    ((run T genesis inputs).storage.serviceTable serviceId).WellFormed
      (run T genesis inputs).now :=
  (versioned T).wellFormed_run (serviceTable_empty genesis) inputs serviceId

end Chlom.Utility
