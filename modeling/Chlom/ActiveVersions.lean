import Chlom.Policy.Versions
import Chlom.Utility.Services

/-!
# Active services and policies

The lookups of the utility and the policy pallet mean the same thing on their
version tables, and what they answer for a past block is settled.
-/

namespace Chlom

open Chlom.Frame

variable {AccountId BlockNumber : Type} [DecidableEq AccountId] [Encode AccountId]
  [Encode BlockNumber] [LinearOrder BlockNumber]

/-- In every reachable state the active service and the active policy are the
greatest version that has started and been recorded, unless that one is over or
revoked; a later lookup never exposes an older version. -/
theorem active_meaning (T : Utility.Config) (P : Policy.Config) (genesis : BlockNumber)
    (inputs : List (Input AccountId BlockNumber (Utility.Call AccountId BlockNumber)))
    (policyInputs : List (Input AccountId BlockNumber (Policy.Call BlockNumber))) :
    (∀ serviceId : Id32,
      VersionTable.Meaning ((Utility.run T genesis inputs).storage.serviceTable serviceId)
        T.maxServiceVersions.toNat
        (Utility.activeService (Utility.run T genesis inputs).storage serviceId)) ∧
      ∀ scope : Policy.PolicyScope,
        VersionTable.Meaning
          ((Policy.run P genesis policyInputs).storage.policyTable (Policy.scopeId P scope))
          P.maxVersionsPerScope.toNat
          (fun block =>
            (Policy.activePolicy (Policy.run P genesis policyInputs).storage scope block).map
              fun policy => (policy.version, policy)) := by
  constructor
  · intro serviceId
    exact (Utility.serviceTable_run T genesis inputs serviceId).meaning
      (BoundedVec.length_le _)
  · intro scope
    have wellFormed := Policy.policyTable_run P genesis policyInputs
    have lookup := (Policy.numbered_run P genesis policyInputs).active wellFormed scope
    simp only [lookup]
    exact (wellFormed _).meaning (BoundedVec.length_le _)

/-- Which terms are reported for a block before the current one never changes
again. -/
theorem history_immutable (T : Utility.Config) (P : Policy.Config) (genesis : BlockNumber)
    (inputs later : List (Input AccountId BlockNumber (Utility.Call AccountId BlockNumber)))
    (policyInputs policyLater : List (Input AccountId BlockNumber (Policy.Call BlockNumber))) :
    (∀ block, block < (Utility.run T genesis inputs).now → ∀ serviceId : Id32,
      Utility.activeService (Utility.run T genesis (inputs ++ later)).storage serviceId block =
        Utility.activeService (Utility.run T genesis inputs).storage serviceId block) ∧
      ∀ block, block < (Policy.run P genesis policyInputs).now → ∀ scope : Policy.PolicyScope,
        Policy.activePolicy (Policy.run P genesis (policyInputs ++ policyLater)).storage scope
            block =
          Policy.activePolicy (Policy.run P genesis policyInputs).storage scope block := by
  constructor
  · intro block past serviceId
    have settled := (Utility.versioned T).active_run
      (Utility.serviceTable_run T genesis inputs) past later serviceId
    rw [Utility.run, Frame.run, Runs.run_append]
    exact settled
  · intro block past scope
    have settled := (Policy.versioned P).active_run
      (Policy.policyTable_run P genesis policyInputs) past policyLater (Policy.scopeId P scope)
    rw [Policy.run, Frame.run, Runs.run_append]
    exact congrArg (Option.map Prod.snd) settled

end Chlom
