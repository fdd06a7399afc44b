import Chlom.Access.Histories
import Chlom.Checkpoint.Log
import Chlom.Oracle.Reviews
import Chlom.Policy.Versions
import Chlom.Rights.Supersession
import Chlom.Runtime.Projections
import Chlom.Settlement.Previews
import Chlom.Tokenization.Lifecycle
import Chlom.Utility.LockedTerms

/-!
# The records of a chain are permanent

No call of a pallet rewrites or deletes a record, so neither does an extrinsic, whatever it
wraps and whoever it runs as: sudo may add records, but unless it writes the raw storage it
takes none back.
-/

namespace Chlom.Runtime

open Chlom.Frame

variable {H : Host}

/-! ## Records -/

/-- Every entry of the first map is in the second one, unchanged. -/
def Kept {K V : Type} (m m' : StorageMap K V) : Prop :=
  ∀ key value, m.get key = some value → m'.get key = some value

/-- Every record of the ten pallets in the first storage is in the second one, unchanged. -/
structure Permanent (s s' : Storage H) : Prop where
  grants : Kept s.authority.grantVersions s'.authority.grantVersions
  identities : Kept s.identity.identityVersions s'.identity.identityVersions
  credentials : Kept s.identity.credentialVersions s'.identity.credentialVersions
  rights : Rights.Keeps s.rights s'.rights
  dlas : Kept s.licensing.dlaVersions s'.licensing.dlaVersions
  licenses : Kept s.licensing.licenseVersions s'.licensing.licenseVersions
  offers : Kept s.licensing.offerVersions s'.licensing.offerVersions
  entitlements : Kept s.licensing.entitlementVersions s'.licensing.entitlementVersions
  settlement : Settlement.Keeps s.settlement s'.settlement
  tokenization : Tokenization.Keeps s.tokenization s'.tokenization
  reviews : Kept s.oracle.reviewCaseVersions s'.oracle.reviewCaseVersions
  checkpoints : Checkpoint.Keeps s.checkpoint s'.checkpoint
  receipts : Utility.Extends s.utility s'.utility
  services : Utility.KeepsServices s.utility s'.utility
  policies : Kept s.policy.versions s'.policy.versions
  revocations : Kept s.policy.revocations s'.policy.revocations

/-! ## Parts -/

section Parts

variable {State Error Call : Type} (part : Part H State Error Call)

/-- What every successful call of a part does, every chain without raw writes does to the
part. -/
theorem Part.preorder_run (Later : State → State → Prop) (reflexive : ∀ s, Later s s)
    (transitive : ∀ {s t u}, Later s t → Later t u → Later s u)
    (follows : ∀ {env : Env AccountId BlockNumber} {origin : RawOrigin AccountId} {call : Call}
      {s s' : State}, part.pallet env origin call s = .ok () s' → Later s s')
    (w : World BlockNumber (Storage H)) {later : List (Input H)}
    (ordinary : ∀ input ∈ later, input.Ordinary) :
    Later (part.view w.storage) (part.view (run w later).storage) := by
  have always : Invariant part.pallet fun _ _ => True := ⟨fun _ _ => trivial, fun _ _ => trivial⟩
  exact part.lasts always (Later (part.view w.storage))
    (fun _ done before => transitive before (follows done)) w trivial (reflexive _) ordinary

/-- The versions of a family stay on every chain without raw writes. -/
theorem kept_of_family {K R : Type} [DecidableEq K] [History.Revision R Id32]
    {heads : State → StorageMap K U32} {versions : State → StorageMap (K × U32) R}
    {number : R → U32} {Rel : R → R → Prop}
    (family : Family part.pallet heads versions number Rel)
    (w : World BlockNumber (Storage H)) {later : List (Input H)}
    (ordinary : ∀ input ∈ later, input.Ordinary) :
    Kept (versions (part.view w.storage)) (versions (part.view (run w later).storage)) :=
  part.preorder_run (fun s s' => Kept (versions s) (versions s')) (fun _ _ _ => id)
    (fun first second _ _ stored => second _ _ (first _ _ stored))
    (fun done _ _ stored => (family.changed done).kept stored) w ordinary

end Parts

/-- A policy call keeps the versions and the revocations. -/
theorem kept_of_policy_effect {T : Policy.Config} {env : Env AccountId BlockNumber}
    {s s' : Policy.Storage T BlockNumber} (effect : Policy.Effect env s s') :
    Kept s.versions s'.versions ∧ Kept s.revocations s'.revocations := by
  cases effect with
  | retry => exact ⟨fun _ _ => id, fun _ _ => id⟩
  | approve _ _ fresh =>
      exact ⟨fun _ _ stored => StorageMap.get_insert_of_some _ _ fresh stored, fun _ _ => id⟩
  | revoke _ _ _ _ fresh =>
      exact ⟨fun _ _ => id, fun _ _ stored => StorageMap.get_insert_of_some _ _ fresh stored⟩

/-! ## Chains -/

/-- The records of the utility pallet on a chain belong together, as they do on its own. -/
theorem utilityRecords_run (genesis : BlockNumber) (base : H.Base) {inputs : List (Input H)}
    (ordinary : ∀ input ∈ inputs, input.Ordinary) :
    Utility.Records (run ⟨genesis, .genesis base⟩ inputs).storage.utility := by
  have start : Utility.Records (Storage.genesis base : Storage H).utility := Utility.records_empty
  exact Part.utility.invariant_run (Utility.records_invariant H.utility)
    ⟨genesis, .genesis base⟩ start ordinary

/-- The reviews of a chain have sound histories. -/
theorem reviewed_run (genesis : BlockNumber) (base : H.Base) {inputs : List (Input H)}
    (ordinary : ∀ input ∈ inputs, input.Ordinary) :
    let s := (run ⟨genesis, .genesis base⟩ inputs).storage.oracle
    Oracle.Reviewed .empty s.reviewCases s.reviewCaseHeads s.reviewCaseVersions := by
  have start : Oracle.Reviewed .empty (Storage.genesis base : Storage H).oracle.reviewCases
      (Storage.genesis base : Storage H).oracle.reviewCaseHeads
      (Storage.genesis base : Storage H).oracle.reviewCaseVersions :=
    Oracle.reviewed_start (fun _ => rfl) fun _ => rfl
  exact Part.oracle.invariant_run (Oracle.reviews_invariant .empty) ⟨genesis, .genesis base⟩ start
    ordinary

/-- Nothing that was recorded on a chain that began without records is ever rewritten or
removed, by whatever is dispatched later but raw writes. -/
theorem records_permanent (genesis : BlockNumber) (base : H.Base) (inputs later : List (Input H))
    (ordinary : ∀ input ∈ inputs ++ later, input.Ordinary) :
    Permanent (run ⟨genesis, .genesis base⟩ inputs).storage
      (run ⟨genesis, .genesis base⟩ (inputs ++ later)).storage := by
  obtain ⟨earlier, ordinary⟩ := List.forall_mem_append.mp ordinary
  have records := utilityRecords_run genesis base earlier
  have reviewed := reviewed_run genesis base earlier
  rw [show run ⟨genesis, Storage.genesis base⟩ (inputs ++ later) =
    run (run ⟨genesis, Storage.genesis base⟩ inputs) later from Runs.run_append _ inputs later]
  generalize run ⟨genesis, Storage.genesis base⟩ inputs = w at records reviewed
  exact
    { grants := kept_of_family Part.authority Authority.grants w ordinary
      identities := kept_of_family Part.identity Identity.identities w ordinary
      credentials := kept_of_family Part.identity Identity.credentials w ordinary
      rights := Part.access.preorder_run
        (fun s s' => Rights.Keeps s.rights s'.rights) (fun _ => .refl _) .trans
        (fun done => by
          rcases Access.pallet_effect done with ⟨_, _, effect, _⟩ | ⟨_, _, _, same⟩
          · exact effect.keeps
          · rw [same]
            exact .refl _) w ordinary
      dlas := kept_of_family Part.access Access.dlas w ordinary
      licenses := kept_of_family Part.access Access.licenses w ordinary
      offers := kept_of_family Part.access Access.offers w ordinary
      entitlements := kept_of_family Part.access Access.entitlements w ordinary
      settlement := Part.settlement.preorder_run Settlement.Keeps Settlement.Keeps.refl
        Settlement.Keeps.trans Settlement.pallet_keeps w ordinary
      tokenization := Part.tokenization.preorder_run Tokenization.Keeps Tokenization.Keeps.refl
        Tokenization.Keeps.trans (fun done => (Tokenization.pallet_effect done).keeps) w ordinary
      reviews := Part.oracle.lasts (Oracle.reviews_invariant .empty)
        (fun s => Kept w.storage.oracle.reviewCaseVersions s.reviewCaseVersions)
        (fun current done before _ _ stored =>
          (Oracle.pallet_advances current done).kept _ _ (before _ _ stored))
        w reviewed (fun _ _ => id) ordinary
      checkpoints := Part.checkpoint.preorder_run Checkpoint.Keeps Checkpoint.Keeps.refl
        Checkpoint.Keeps.trans (fun done => (Checkpoint.pallet_effect done).keeps) w ordinary
      receipts := Part.utility.lasts (Utility.records_invariant H.utility)
        (Utility.Extends w.storage.utility)
        (fun current done before => before.trans ((Utility.pallet_effect done).extends current))
        w records (.refl _) ordinary
      services := Part.utility.preorder_run Utility.KeepsServices (fun _ => ⟨id, id⟩)
        (fun first second => ⟨fun stored => second.services (first.services stored),
          fun stored => second.revocations (first.revocations stored)⟩)
        (fun done => (Utility.pallet_effect done).keepsServices) w ordinary
      policies := Part.policy.preorder_run
        (fun s s' => Kept s.versions s'.versions) (fun _ _ _ => id)
        (fun first second _ _ stored => second _ _ (first _ _ stored))
        (fun done => (kept_of_policy_effect (Policy.pallet_effect done)).1) w ordinary
      revocations := Part.policy.preorder_run
        (fun s s' => Kept s.revocations s'.revocations) (fun _ _ _ => id)
        (fun first second _ _ stored => second _ _ (first _ _ stored))
        (fun done => (kept_of_policy_effect (Policy.pallet_effect done)).2) w ordinary }

open Sample Utility.Sample in
/-- A service stays approved after a block and a second approval. -/
theorem records_permanent_sample :
    (run started [approved]).storage.utility.services.get (service, 1) ≠ none ∧
      Permanent (run started [approved]).storage
        (run started ([approved] ++ [.advance 5 (), approved])).storage :=
  ⟨by decide +kernel, records_permanent (H := governed) 1 () [approved] [.advance 5 (), approved]
    (by simp [approved, Input.Ordinary, RuntimeCall.Ordinary])⟩

end Chlom.Runtime
