import Chlom.Policy.Pallet
import Chlom.VersionedPallet

/-!
# The version tables of the policy pallet

Approvals and revocations are the only changes, each to the table of one scope,
and every stored policy carries its own version number.
-/

namespace Chlom.Policy

open Chlom.Frame

variable {T : Config} {AccountId BlockNumber : Type} [LinearOrder BlockNumber]

/-- Everything a successful call can do. -/
inductive Effect (env : Env AccountId BlockNumber) (s : Storage T BlockNumber) :
    Storage T BlockNumber → Prop
  | retry : Effect env s s
  | approve (policy : PolicyVersion BlockNumber)
      (index : BoundedVec U32 T.maxVersionsPerScope.toNat)
      (fresh : s.versions.get (scopeId T policy.scope, policy.version) = none)
      (dated : policy.recordedAt = env.blockNumber)
      (notPast : env.blockNumber ≤ policy.effectiveFrom)
      (interval : policy.effectiveFrom < policy.effectiveUntil)
      (next : policy.version.toNat =
        ((s.policyTable (scopeId T policy.scope)).index.getLast?.getD 0).toNat + 1)
      (forward : (s.policyTable (scopeId T policy.scope)).index.getLast?.getD 0 ≠ 0 →
        ∃ prior, s.versions.get (scopeId T policy.scope,
            (s.policyTable (scopeId T policy.scope)).index.getLast?.getD 0) = some prior ∧
          prior.effectiveFrom ≤ policy.effectiveFrom)
      (pushed : index.toList = (s.policyTable (scopeId T policy.scope)).index ++
        [policy.version]) :
      Effect env s
        { s with
          versions := s.versions.insert (scopeId T policy.scope, policy.version) policy
          versionIndex := s.versionIndex.insert (scopeId T policy.scope) index
          events := s.events ++ [.policyApproved (scopeId T policy.scope) policy.version
            policy.policyHash policy.approvalHash] }
  | revoke (scope : Id32) (version : U32) (revocation : Revocation BlockNumber)
      (dated : revocation.revokedAt = env.blockNumber)
      (fresh : s.revocations.get (scope, version) = none) :
      Effect env s
        { s with
          revocations := s.revocations.insert (scope, version) revocation
          events := s.events ++ [.policyRevoked scope version revocation.reasonHash] }

section Specifications

variable {env : Env AccountId BlockNumber} {origin : RawOrigin AccountId}
  {s s' : Storage T BlockNumber}

theorem approveVersion_effect {scope : PolicyScope} {version : U32} {policyHash : Id32}
    {effectiveFrom effectiveUntil : BlockNumber} {approvalHash evidenceHash : Id32}
    (done : approveVersion env origin scope version policyHash effectiveFrom effectiveUntil
      approvalHash evidenceHash s = .ok () s') : Effect env s s' := by
  simp only [approveVersion, ensureOrigin_bind_ok, ensure_bind_ok, Dispatch.read_bind] at done
  obtain ⟨_, nonzero, done⟩ := done
  cases fresh : s.versions.get (scopeId T scope, version) with
  | some existing =>
      simp only [fresh, ensure_ok] at done
      rw [done.2]
      exact .retry
  | none =>
      simp only [fresh, ensure_bind_ok, Dispatch.onlyIf_bind_ok, Dispatch.read_bind, okOr_bind_ok,
        ensure_ok, and_true, Dispatch.write_bind, depositEvent, Dispatch.write_apply,
        Checked.add_eq_some] at done
      obtain ⟨⟨notPast, interval⟩, next, forward, index, push, done⟩ := done
      obtain rfl := (EStateM.Result.ok.inj done).2
      let policy : PolicyVersion BlockNumber :=
        { scope, version, policyHash, effectiveFrom, effectiveUntil, approvalHash, evidenceHash,
          recordedAt := env.blockNumber }
      have pushed := BoundedVec.tryPush_toList push
      exact .approve policy index fresh rfl notPast interval next forward pushed

theorem revokeVersion_effect {scope : Id32} {version : U32}
    {approvalHash reasonHash : Id32}
    (done : revokeVersion env origin scope version approvalHash reasonHash s = .ok () s') :
    Effect env s s' := by
  simp only [revokeVersion, ensureOrigin_bind_ok, ensure_bind_ok, Dispatch.read_bind] at done
  obtain ⟨_, _, _, done⟩ := done
  cases fresh : s.revocations.get (scope, version) with
  | some prior =>
      simp only [fresh, ensure_ok] at done
      rw [done.2]
      exact .retry
  | none =>
      simp only [fresh, Dispatch.write_bind, depositEvent, Dispatch.write_apply] at done
      obtain rfl := (EStateM.Result.ok.inj done).2
      exact .revoke scope version { approvalHash, reasonHash, revokedAt := env.blockNumber } rfl
        fresh

/-- Every successful call has one of the listed effects. -/
theorem pallet_effect {call : Call BlockNumber} (done : pallet T env origin call s = .ok () s') :
    Effect env s s' := by
  cases call with
  | approveVersion => exact approveVersion_effect done
  | revokeVersion => exact revokeVersion_effect done

end Specifications

/-! ## The tables -/

omit [LinearOrder BlockNumber] in
/-- The tables after one approval. -/
theorem policyTable_approve (s : Storage T BlockNumber) {scope : Id32} {version : U32}
    {policy : PolicyVersion BlockNumber} {index : BoundedVec U32 T.maxVersionsPerScope.toNat}
    (events : List Event) (pushed : index.toList = (s.policyTable scope).index ++ [version])
    (other : Id32) :
    Storage.policyTable
        { s with
          versions := s.versions.insert (scope, version) policy
          versionIndex := s.versionIndex.insert scope index
          events } other =
      if other = scope then (s.policyTable scope).approve version policy
      else s.policyTable other := by
  by_cases same : other = scope
  · subst same
    simp only [Storage.policyTable, VersionTable.approve, StorageMap.getD_insert, if_true,
      StorageMap.get_insert, Prod.mk.injEq, true_and]
    rw [pushed]
    rfl
  · simp [Storage.policyTable, StorageMap.getD_insert, StorageMap.get_insert, same]

omit [LinearOrder BlockNumber] in
/-- The tables after one revocation. -/
theorem policyTable_revoke (s : Storage T BlockNumber) (scope : Id32) (version : U32)
    (revocation : Revocation BlockNumber) (events : List Event) (other : Id32) :
    Storage.policyTable
        { s with
          revocations := s.revocations.insert (scope, version) revocation
          events } other =
      if other = scope then (s.policyTable scope).revoke version revocation.revokedAt
      else s.policyTable other := by
  by_cases same : other = scope
  · subst same
    simp only [Storage.policyTable, VersionTable.revoke, StorageMap.get_insert, if_true,
      Prod.mk.injEq, true_and, VersionTable.mk.injEq]
    funext candidate
    split <;> rfl
  · simp [Storage.policyTable, StorageMap.get_insert, same]

/-- Only an approval or a revocation changes the table of a scope. -/
theorem versioned (T : Config) :
    Versioned (@pallet AccountId BlockNumber _ T) (@Storage.policyTable T BlockNumber) := by
  constructor
  intro env origin call s s' wellFormed done scope
  cases pallet_effect done with
  | retry => exact .same
  | approve policy index fresh dated _ _ next forward pushed =>
      rw [policyTable_approve s _ pushed]
      split
      · next same =>
          subst same
          exact (wellFormed _).changed_approve next fresh dated forward
      · exact .same
  | revoke revoked version revocation dated fresh =>
      rw [policyTable_revoke]
      split
      · next same =>
          subst same
          rw [dated]
          refine .revoke version ?_
          simp [Storage.policyTable, fresh]
      · exact .same

theorem policyTable_empty (genesis : BlockNumber) (scope : Id32) :
    ((Storage.empty T BlockNumber).policyTable scope).WellFormed genesis :=
  VersionTable.wellFormed_of_empty rfl fun _ => rfl

theorem policyTable_run (T : Config) (genesis : BlockNumber)
    (inputs : List (Input AccountId BlockNumber (Call BlockNumber))) (scope : Id32) :
    ((run T genesis inputs).storage.policyTable scope).WellFormed (run T genesis inputs).now :=
  (versioned T).wellFormed_run (policyTable_empty genesis) inputs scope

/-- Every stored policy carries the version number it is filed under. -/
def Numbered (s : Storage T BlockNumber) : Prop :=
  ∀ scope version policy, s.versions.get (scope, version) = some policy →
    policy.version = version

theorem numbered_invariant (T : Config) :
    Invariant (@pallet AccountId BlockNumber _ T) fun _ s => Numbered s where
  passes _ numbered := numbered
  keeps {env origin call s s'} numbered done := by
    intro scope version policy stored
    cases pallet_effect done with
    | retry => exact numbered _ _ _ stored
    | revoke => exact numbered _ _ _ stored
    | approve approved =>
        rcases StorageMap.get_insert_eq_some.mp stored with ⟨same, rfl⟩ | ⟨_, before⟩
        · exact (Prod.mk.inj same).2.symm
        · exact numbered _ _ _ before

theorem numbered_run (T : Config) (genesis : BlockNumber)
    (inputs : List (Input AccountId BlockNumber (Call BlockNumber))) :
    Numbered (run T genesis inputs).storage := by
  have start : Numbered (Storage.empty T BlockNumber) := by
    intro scope version policy stored
    cases stored
  exact (numbered_invariant T).run start inputs

/-- The answer of the lookup together with its version is the scan of the table. -/
theorem Numbered.active {s : Storage T BlockNumber} (numbered : Numbered s) {now : BlockNumber}
    (wellFormed : ∀ scope, (s.policyTable scope).WellFormed now) (scope : PolicyScope)
    (block : BlockNumber) :
    (activePolicy s scope block).map (fun policy => (policy.version, policy)) =
      (s.policyTable (scopeId T scope)).active block := by
  rw [activePolicy, Option.map_map]
  cases found : (s.policyTable (scopeId T scope)).active block with
  | none => rfl
  | some answer =>
      obtain ⟨version, policy⟩ := answer
      have stored := ((wellFormed _).active_eq_some.mp found).2.1
      simp [numbered _ _ _ stored]

end Chlom.Policy
