import Chlom.Runtime.Chain
import Chlom.Utility.Effects

/-!
# Separation of the roles

A signer changes a pallet only with a running D3 grant for the role configured
for it.  The one exception are the operations on a signer's own resources in the
utility pallet, which stay within the entries of that signer.  Grants themselves
are out of reach of every signer.
-/

namespace Chlom.Runtime

open Chlom.Frame

/-! ## Privileged calls -/

section Privileged

variable {σ ε : Type} {env : Env AccountId BlockNumber} {origin : RawOrigin AccountId}

/-- A body that asks for the privileged origin first succeeds only with its consent. -/
theorem permitted_of_ok {next : Unit → Dispatch σ (DispatchError ε) Unit} {s s' : σ}
    (done : (ensureOrigin env origin >>= next) s = .ok () s') : env.permits origin = true :=
  (ensureOrigin_bind_ok.mp done).1

theorem authority_permitted {call : Authority.Call BlockNumber} {s s'}
    (done : Authority.pallet env origin call s = .ok () s') : env.permits origin = true := by
  cases call
  exact permitted_of_ok done

theorem identity_permitted {call : Identity.Call BlockNumber} {s s'}
    (done : Identity.pallet env origin call s = .ok () s') : env.permits origin = true := by
  cases call <;> exact permitted_of_ok done

theorem rights_permitted {call : Rights.Call BlockNumber} {s s'}
    (done : Rights.pallet env origin call s = .ok () s') : env.permits origin = true := by
  cases call <;> exact permitted_of_ok done

theorem licensing_permitted {verifier : Licensing.RightsVerifier BlockNumber}
    {call : Licensing.Call BlockNumber} {s s'}
    (done : Licensing.pallet verifier env origin call s = .ok () s') :
    env.permits origin = true := by
  cases call <;> exact permitted_of_ok done

theorem settlement_permitted {T : Settlement.Config} {call : Settlement.Call T} {s s'}
    (done : Settlement.pallet T env origin call s = .ok () s') : env.permits origin = true := by
  cases call <;> exact permitted_of_ok done

theorem tokenization_permitted {call : Tokenization.Call} {s s'}
    (done : Tokenization.pallet env origin call s = .ok () s') : env.permits origin = true := by
  cases call <;> exact permitted_of_ok done

theorem oracle_permitted {call : Oracle.Call} {s s' : Oracle.Storage BlockNumber}
    (done : Oracle.pallet env origin call s = .ok () s') : env.permits origin = true := by
  cases call <;> exact permitted_of_ok done

theorem checkpoint_permitted {call : Checkpoint.Call} {s s'}
    (done : Checkpoint.pallet env origin call s = .ok () s') : env.permits origin = true := by
  cases call <;> exact permitted_of_ok done

/-- In the utility pallet a signer may also act for itself. -/
theorem utility_permitted {T : Utility.Config} {call : Utility.Call AccountId BlockNumber} {s s'}
    (done : Utility.pallet T env origin call s = .ok () s') :
    env.permits origin = true ∨ call.Own := by
  cases call with
  | reserve | consume | release => exact .inr trivial
  | approveService | revokeService | allocate => exact .inl (permitted_of_ok done)

theorem policy_permitted {T : Policy.Config} {call : Policy.Call BlockNumber} {s s'}
    (done : Policy.pallet T env origin call s = .ok () s') : env.permits origin = true := by
  cases call <;> exact permitted_of_ok done

end Privileged

variable {H : Host} {now : BlockNumber} {origin : RawOrigin AccountId} {s s' : Storage H}

/-! ## Roles -/

/-- At a block, an account holds a role by the newest grant to its subject: one of
class D3 that is active and has not run out. -/
def HoldsRole (H : Host) (now : BlockNumber) (authority : Authority.Storage BlockNumber)
    (account : AccountId) (role : Nat) : Prop :=
  ∃ head grant, authority.grantHeads.get ⟨accountSubject H account, roleId H role⟩ = some head ∧
    authority.grantVersions.get (⟨accountSubject H account, roleId H role⟩, head) =
      some grant ∧
    grant.class' = .d3 ∧ grant.active = true ∧
      ∀ limit, grant.validUntil = some limit → now ≤ limit

/-- What the origin of a role asks of a signer is to hold the role. -/
theorem holdsRole_of_ensureRootOrRole {role : Nat} {authority : Authority.Storage BlockNumber}
    {account : AccountId}
    (permitted : ensureRootOrRole H role now authority (.signed account) = true) :
    HoldsRole H now authority account role := by
  obtain ⟨_, _, allowed⟩ := of_decide_eq_true permitted
  obtain ⟨class', classEq, highest⟩ := (Option.any_eq_true _ _).mp allowed
  rw [AuthorityClass.permits_d3.mp (of_decide_eq_true highest)] at classEq
  exact Authority.activeClass_eq_some.mp classEq

/-- The storage of one pallet is the same in both storages. -/
def Module.Same (s s' : Storage H) : Module → Prop
  | .authority => s'.authority = s.authority
  | .identity => s'.identity = s.identity
  | .rights => s'.rights = s.rights
  | .licensing => s'.licensing = s.licensing
  | .settlement => s'.settlement = s.settlement
  | .tokenization => s'.tokenization = s.tokenization
  | .oracle => s'.oracle = s.oracle
  | .checkpoint => s'.checkpoint = s.checkpoint
  | .utility => s'.utility = s.utility
  | .policy => s'.policy = s.policy

theorem Module.Same.refl (s : Storage H) (module : Module) : module.Same s s := by
  cases module <;> rfl

/-- The calls that any signer may make for itself. -/
def ChlomCall.Own : ChlomCall H → Prop
  | .utility call => call.Own
  | _ => False

/-- A call leaves every pallet but its own alone. -/
theorem ChlomCall.body_frame {call : ChlomCall H} (done : call.body now origin s = .ok () s')
    {module : Module} (other : module ≠ call.module) : module.Same s s' := by
  cases call <;>
  · simp only [ChlomCall.body, Dispatch.zoom_ok] at done
    obtain ⟨part, _, rfl⟩ := done
    cases module <;> first | rfl | exact absurd rfl other

/-- A call other than one of a signer for itself succeeds only with the consent of
its pallet's origin. -/
theorem ChlomCall.body_permitted {call : ChlomCall H} (done : call.body now origin s = .ok () s') :
    call.module.permits now s origin = true ∨ call.Own := by
  cases call <;> simp only [ChlomCall.body, Dispatch.zoom_ok] at done <;>
    obtain ⟨part, ran, rfl⟩ := done
  case authority => exact .inl (authority_permitted ran)
  case identity => exact .inl (identity_permitted ran)
  case rights => exact .inl (rights_permitted ran)
  case licensing => exact .inl (licensing_permitted ran)
  case settlement => exact .inl (settlement_permitted ran)
  case tokenization => exact .inl (tokenization_permitted ran)
  case oracle => exact .inl (oracle_permitted ran)
  case checkpoint => exact .inl (checkpoint_permitted ran)
  case utility => exact utility_permitted ran
  case policy => exact .inl (policy_permitted ran)

/-! ## Runs -/

/-- An input of a run in which only signers act, and only by calls of the ten pallets. -/
def Input.Signed : Input H → Prop
  | .advance _ _ => True
  | .extrinsic (some _) (.chlom _) => True
  | _ => False

/-- What a call signed by an account does to a pallet whose role the account does
not hold: nothing, or what every signer may do for itself. -/
def Separated (account : AccountId) (call : ChlomCall H) (module : Module) (s s' : Storage H) :
    Prop :=
  module.Same s s' ∨
    module = .utility ∧ call.Own ∧ Utility.OwnOnly account s.utility s'.utility

theorem separated_of_body {account : AccountId} {call : ChlomCall H}
    (done : call.body now (.signed account) s = .ok () s') {module : Module}
    (unprivileged : ∀ role, module.role = some role →
      ¬ HoldsRole H now s.authority account role) :
    Separated account call module s s' := by
  by_cases own : module = call.module
  · rcases ChlomCall.body_permitted done with permitted | self
    · rw [← own, Module.permits] at permitted
      cases roleEq : module.role with
      | none =>
          rw [roleEq] at permitted
          cases permitted
      | some role =>
          rw [roleEq] at permitted
          exact absurd (holdsRole_of_ensureRootOrRole permitted) (unprivileged role roleEq)
    · cases call with
      | utility inner =>
          simp only [ChlomCall.body, Dispatch.zoom_ok] at done
          obtain ⟨part, ran, rfl⟩ := done
          exact .inr ⟨own, self, (Utility.pallet_effect ran).ownOnly self⟩
      | _ => cases self
  · exact .inl (ChlomCall.body_frame done own)

/-- One signed extrinsic. -/
theorem separated_of_step (w : World BlockNumber (Storage H)) (account : AccountId)
    (call : ChlomCall H) (module : Module)
    (unprivileged : ∀ role, module.role = some role →
      ¬ HoldsRole H w.now w.storage.authority account role) :
    Separated account call module w.storage
      (step w (.extrinsic (some account) (.chlom call))).1.storage := by
  rw [step]
  split
  · apply Dispatch.finalState_withStorageLayer (P := Separated account call module w.storage)
    · exact .inl (.refl _ module)
    · exact fun _ _ done => separated_of_body done unprivileged
  · exact .inl (.refl _ module)

/-- Grants stay as they are: the authority pallet has no role. -/
theorem authority_step (w : World BlockNumber (Storage H)) {input : Input H}
    (signed : input.Signed) : (step w input).1.storage.authority = w.storage.authority := by
  match input, signed with
  | .advance block base, _ => rfl
  | .extrinsic (some account) (.chlom call), _ =>
      have separated := separated_of_step w account call .authority fun role none' => by cases none'
      rcases separated with same | ⟨other, _⟩
      · exact same
      · cases other

/-- Over every run of signed calls the grants stay as they are, and a call signed by
an account without the role configured for a pallet changes nothing in that pallet,
apart from what reserving, consuming and releasing does to the signer's own entries
in the utility pallet and to its global receipt index, count and head. -/
theorem roles_separated (start : World BlockNumber (Storage H)) (inputs : List (Input H))
    (signed : ∀ input ∈ inputs, input.Signed) :
    (run start inputs).storage.authority = start.storage.authority ∧
    ∀ account before call after,
      inputs = before ++ .extrinsic (some account) (.chlom call) :: after → ∀ module : Module,
        (∀ role, module.role = some role → ¬ HoldsRole H (run start before).now
          (run start before).storage.authority account role) →
            Separated account call module (run start before).storage
              (run start (before ++ [.extrinsic (some account) (.chlom call)])).storage := by
  constructor
  · induction inputs generalizing start with
    | nil => rfl
    | cons input rest ih =>
        have first := authority_step start (signed input (by simp))
        have later := ih (step start input).1 fun other member =>
          signed other (List.mem_cons_of_mem _ member)
        exact later.trans first
  · intro account before call after _ module unprivileged
    change Separated account call module (run start before).storage
      (Runs.run step start (before ++ _)).storage
    rw [Runs.run_append]
    exact separated_of_step _ account call module unprivileged

/-! ## A signer without roles -/

namespace Sample

open Utility.Sample

/-- A runtime without other pallets, whose hash is the table of the digests that the
sample asks for. -/
def host : Host where
  Base := Unit
  External := Empty
  external call := nomatch call
  isSudo _ origin := origin = .root
  sudid _ base := base
  blake2_256 bytes := (List.lookup bytes <|
    (asciiBytes "CHLOM:runtime-account:v1" ++ Encode.encode alice,
      digest 0xa5e37a980bff27d4a836cf668270a55df9f1a38f685c1d27320fae36eaacdf8f) ::
    (asciiBytes "CHLOM:role:utility:v1",
      digest 0x1da28ee9ab6400c108bb5d60ab0976209a2473b3d925fe614927a30b4afb7530) ::
    digests).getD ZERO_ID

/-- The sample runtime with an account that may use sudo. -/
def governed : Host where
  Base := Unit
  External := Empty
  external call := nomatch call
  isSudo _ origin := origin = .signed alice
  sudid _ base := base
  blake2_256 := host.blake2_256

/-- A chain without records. -/
def started : World BlockNumber (Storage governed) :=
  ⟨1, .genesis ()⟩

/-- A service is approved through sudo. -/
def approved : Input governed :=
  .extrinsic (some alice) (.sudo' (.chlom (.utility approveCall)))

/-- Units were allocated to an account before. -/
def allocated : World BlockNumber (Storage host) where
  now := 1
  storage := { Storage.genesis () with utility := (Utility.run host.utility 1 inputs).storage }

end Sample

open Sample Utility.Sample in
/-- An account without any role reserves its own units. -/
theorem roles_separated_sample :
    Separated alice (.utility reserveCall) .utility allocated.storage
      (run allocated [.extrinsic (some alice) (.chlom (.utility reserveCall))]).storage ∧
    (run allocated [.extrinsic (some alice)
      (.chlom (.utility reserveCall))]).storage.utility.balances.get (alice, resource) =
        some ⟨10, 4, 6, 0⟩ := by
  have separated := roles_separated allocated
    [.extrinsic (some alice) (.chlom (.utility reserveCall))] (by simp [Input.Signed])
  refine ⟨separated.2 alice [] (.utility reserveCall) [] rfl .utility ?_, by decide +kernel⟩
  rintro role _ ⟨head, grant, headEq, _⟩
  cases headEq

end Chlom.Runtime
