import Chlom.Runtime.Roles

/-!
# Who a change of a pallet goes back to

A pallet changes only by an extrinsic that was entitled to change it when it was dispatched:
by a call of the pallet that is signed by a holder of its role, by one of a signer for its own
resources, or by a call under wrappers of sudo that all let their origin through, be it a raw
write of the storage.  On a chain
that began without records no account holds a role, so the first of all changes is one of sudo.
-/

namespace Chlom.Runtime

open Chlom.Frame

variable {H : Host} {now : BlockNumber} {s s' : Storage H}

/-! ## Entitlement -/

/-- A dispatch that may change a pallet.  The wrappers of sudo are peeled off one by one, and
each looks at the origin it was dispatched with. -/
def Entitled (module : Module) (now : BlockNumber) (s : Storage H) :
    RawOrigin AccountId → RuntimeCall H → Prop
  | origin, .chlom call => call.module = module ∧
      (module.permits now s origin = true ∨ call.Own ∧ ∃ account, origin = .signed account)
  | origin, .sudo' call => H.isSudo s.base origin = true ∧ Entitled module now s .root call
  | origin, .sudoUncheckedWeight call =>
      H.isSudo s.base origin = true ∧ Entitled module now s .root call
  | origin, .sudoAs who call =>
      H.isSudo s.base origin = true ∧ Entitled module now s (.signed who) call
  | origin, .rawWrite _ => origin = .root
  | _, .external _ => False

/-- A call of the sudo pallet. -/
def RuntimeCall.Sudo : RuntimeCall H → Prop
  | .sudo' _ | .sudoUncheckedWeight _ | .sudoAs _ _ => True
  | .chlom _ | .rawWrite _ | .external _ => False

theorem Module.Same.trans {s t u : Storage H} {module : Module} (first : module.Same s t)
    (second : module.Same t u) : module.Same s u := by
  cases module <;> exact Eq.trans second first

theorem Module.same_base (s : Storage H) (base : H.Base) (module : Module) :
    module.Same s { s with base } := by
  cases module <;> rfl

/-- What a signer may do for itself is done by a signer. -/
theorem ChlomCall.signed_of_own {call : ChlomCall H} {origin : RawOrigin AccountId}
    (own : call.Own) (done : call.body now origin s = .ok () s') :
    ∃ account, origin = .signed account := by
  cases call with
  | utility inner =>
      simp only [ChlomCall.body, Dispatch.zoom_ok] at done
      obtain ⟨part, ran, _⟩ := done
      cases inner with
      | reserve operationId serviceId version quantity =>
          simp only [Utility.pallet, Utility.reserve, ensureSigned_bind_ok] at ran
          obtain ⟨account, signed, _⟩ := ran
          exact ⟨account, signed⟩
      | consume operationId reservationId =>
          simp only [Utility.pallet, Utility.consume, ensureSigned_bind_ok] at ran
          obtain ⟨account, signed, _⟩ := ran
          exact ⟨account, signed⟩
      | release operationId reservationId =>
          simp only [Utility.pallet, Utility.release, ensureSigned_bind_ok] at ran
          obtain ⟨account, signed, _⟩ := ran
          exact ⟨account, signed⟩
      | _ => cases own
  | _ => cases own

/-- A call of the ten pallets that changes a pallet is entitled to. -/
theorem entitled_of_body {call : ChlomCall H} {origin : RawOrigin AccountId} {module : Module}
    (done : call.body now origin s = .ok () s') (changed : ¬ module.Same s s') :
    Entitled module now s origin (.chlom call) := by
  have own : module = call.module := by
    by_contra other
    exact changed (ChlomCall.body_frame done other)
  refine ⟨own.symm, ?_⟩
  rcases ChlomCall.body_permitted done with permitted | self
  · rw [← own] at permitted
    exact .inl permitted
  · exact .inr ⟨self, ChlomCall.signed_of_own self done⟩

/-- What changes under a wrapper of sudo was changed by the inner dispatch, and the origin of
the wrapper may use sudo. -/
theorem changed_of_asSudo {origin : RawOrigin AccountId} {inner : Body H Unit} {module : Module}
    (changed : ¬ module.Same s (Dispatch.finalState (asSudo origin inner s))) :
    H.isSudo s.base origin = true ∧ ¬ module.Same s (Dispatch.finalState (inner s)) := by
  revert changed
  apply Dispatch.finalState_withStorageLayer
    (P := fun s' => ¬ module.Same s s' → H.isSudo s.base origin = true ∧
      ¬ module.Same s (Dispatch.finalState (inner s)))
  · exact fun changed => absurd (.refl s module) changed
  · intro value s' done changed
    simp only [Dispatch.read_bind, ensure_bind_ok] at done
    obtain ⟨allowed, done⟩ := done
    obtain rfl := (EStateM.Result.ok.inj done).2
    refine ⟨allowed, fun same => changed ?_⟩
    exact same.trans (Module.same_base _ _ module)

/-- A dispatch that changes a pallet is entitled to. -/
theorem entitled_of_dispatch {call : RuntimeCall H} {origin : RawOrigin AccountId}
    {module : Module}
    (changed : ¬ module.Same s (Dispatch.finalState (dispatchBypassFilter now origin call s))) :
    Entitled module now s origin call := by
  induction call generalizing origin with
  | chlom call =>
      revert changed
      apply Dispatch.finalState_withStorageLayer
        (P := fun s' => ¬ module.Same s s' → Entitled module now s origin (.chlom call))
      · exact fun changed => absurd (.refl s module) changed
      · exact fun _ _ done changed => entitled_of_body done changed
  | sudo' call ih =>
      obtain ⟨allowed, inside⟩ := changed_of_asSudo changed
      exact ⟨allowed, ih inside⟩
  | sudoUncheckedWeight call ih =>
      obtain ⟨allowed, inside⟩ := changed_of_asSudo changed
      exact ⟨allowed, ih inside⟩
  | sudoAs who call ih =>
      obtain ⟨allowed, inside⟩ := changed_of_asSudo changed
      exact ⟨allowed, ih inside⟩
  | rawWrite write =>
      revert changed
      apply Dispatch.finalState_withStorageLayer
        (P := fun s' => ¬ module.Same s s' → Entitled module now s origin (.rawWrite write))
      · exact fun changed => absurd (.refl s module) changed
      · intro _ s' done _
        obtain ⟨root, _⟩ := Dispatch.ensure_bind_ok.mp done
        cases origin with
        | root => rfl
        | signed | none => cases root
  | external call =>
      revert changed
      apply Dispatch.finalState_withStorageLayer
        (P := fun s' => ¬ module.Same s s' → Entitled module now s origin (.external call))
      · exact fun changed => absurd (.refl s module) changed
      · intro value s' done changed
        simp only [Dispatch.read_bind, okOr_bind_ok] at done
        obtain ⟨base, _, done⟩ := done
        obtain rfl := (EStateM.Result.ok.inj done).2
        exact absurd (Module.same_base s base module) changed

/-! ## Runs -/

/-- An extrinsic that was entitled to change a pallet: the call of sudo of an origin that may
use it, or a call of the pallet by a holder of its role or by an account for its own resources. -/
inductive Answers (module : Module) (w : World BlockNumber (Storage H)) :
    Option AccountId → RuntimeCall H → Prop
  | wrapped (signer : Option AccountId) (call : RuntimeCall H) (throughSudo : call.Sudo)
      (allowed : H.isSudo w.storage.base (extrinsicOrigin signer) = true)
      (entitled : Entitled module w.now w.storage (extrinsicOrigin signer) call) :
      Answers module w signer call
  | role (account : AccountId) (call : ChlomCall H) (target : call.module = module) (role : Nat)
      (configured : module.role = some role)
      (holds : HoldsRole H w.now w.storage.authority account role) :
      Answers module w (some account) (.chlom call)
  | own (account : AccountId) (call : ChlomCall H) (target : call.module = module)
      (self : call.Own) : Answers module w (some account) (.chlom call)

/-- The origin of an extrinsic gets past the origin of a pallet only with the role of it. -/
theorem holdsRole_of_permits {module : Module} {signer : Option AccountId}
    (permitted : module.permits now s (extrinsicOrigin signer) = true) :
    ∃ account role, signer = some account ∧ module.role = some role ∧
      HoldsRole H now s.authority account role := by
  rw [Module.permits] at permitted
  cases configured : module.role with
  | none =>
      rw [configured] at permitted
      cases signer <;> cases permitted
  | some role =>
      rw [configured] at permitted
      cases signer with
      | none => cases permitted
      | some account => exact ⟨account, role, rfl, rfl, holdsRole_of_ensureRootOrRole permitted⟩

theorem answers_of_entitled {module : Module} {w : World BlockNumber (Storage H)}
    {signer : Option AccountId} {call : RuntimeCall H}
    (entitled : Entitled module w.now w.storage (extrinsicOrigin signer) call) :
    Answers module w signer call := by
  cases call with
  | chlom call =>
      obtain ⟨target, permitted | ⟨self, account, signed⟩⟩ := entitled
      · obtain ⟨account, role, rfl, configured, holds⟩ := holdsRole_of_permits permitted
        exact .role account call target role configured holds
      · cases signer with
        | none => cases signed
        | some other => exact .own other call target self
  | sudo' call => exact .wrapped _ _ trivial entitled.1 entitled
  | sudoUncheckedWeight call => exact .wrapped _ _ trivial entitled.1 entitled
  | sudoAs who call => exact .wrapped _ _ trivial entitled.1 entitled
  | rawWrite write => cases signer <;> cases entitled
  | external call => cases entitled

/-- An input that changes a pallet is an extrinsic that passes the filter and answers for it. -/
theorem answers_of_step {w : World BlockNumber (Storage H)} {input : Input H} {module : Module}
    (changed : ¬ module.Same w.storage (step w input).1.storage) :
    ∃ signer call, input = .extrinsic signer call ∧
      DevelopmentCallFilter.contains call = true ∧ Answers module w signer call := by
  cases input with
  | advance block base => exact absurd (Module.same_base w.storage base module) changed
  | extrinsic signer call =>
      rw [step] at changed
      split at changed
      · next passed =>
          exact ⟨signer, call, rfl, passed, answers_of_entitled (entitled_of_dispatch changed)⟩
      · exact absurd (.refl _ module) changed

/-- A pallet that differs between two points of a chain was changed by an extrinsic between
them which passed the filter and which, at the block and in the storage it met, was signed by a
holder of the role of the pallet, was one of a signer for its own resources, or went through
sudo with every wrapper letting its origin through. -/
theorem changes_answered (start : World BlockNumber (Storage H)) (inputs : List (Input H))
    (module : Module) (changed : ¬ module.Same start.storage (run start inputs).storage) :
    ∃ before signer call after, inputs = before ++ .extrinsic signer call :: after ∧
      DevelopmentCallFilter.contains call = true ∧
      ¬ module.Same (run start before).storage
        (run start (before ++ [.extrinsic signer call])).storage ∧
      Answers module (run start before) signer call := by
  obtain ⟨before, input, after, rfl, same, onset⟩ := Runs.exists_onset
    (P := fun w : World BlockNumber (Storage H) => ¬ module.Same start.storage w.storage)
    (fun differs => differs (.refl _ module)) changed
  have stepped : ¬ module.Same (run start before).storage
      (step (run start before) input).1.storage :=
    fun kept => onset ((not_not.mp same).trans kept)
  obtain ⟨signer, call, rfl, passed, answers⟩ := answers_of_step stepped
  refine ⟨before, signer, call, after, rfl, passed, ?_, answers⟩
  rw [show run start (before ++ [.extrinsic signer call]) =
    (step (run start before) (.extrinsic signer call)).1 from Runs.run_append _ before _]
  exact stepped

namespace Sample

open Utility.Sample

theorem approved_changes :
    ¬ Module.utility.Same started.storage (run started [approved]).storage := by
  intro same
  have stored := congrArg (fun s => (s.services.get (service, 1)).isSome) same
  revert stored
  decide +kernel

end Sample

open Sample in
/-- The approval of a service is answered by sudo. -/
theorem changes_answered_sample :
    ∃ before signer call after, [approved] = before ++ .extrinsic signer call :: after ∧
      DevelopmentCallFilter.contains call = true ∧
      ¬ Module.utility.Same (run started before).storage
        (run started (before ++ [.extrinsic signer call])).storage ∧
      Answers .utility (run started before) signer call :=
  changes_answered started [approved] .utility approved_changes

/-! ## Roles -/

/-- A role that runs at a block ran at every earlier block with the same grants. -/
theorem HoldsRole.earlier {earlier later : BlockNumber} {authority : Authority.Storage BlockNumber}
    {account : AccountId} {role : Nat} (holds : HoldsRole H later authority account role)
    (passed : earlier ≤ later) : HoldsRole H earlier authority account role := by
  obtain ⟨head, grant, headEq, grantEq, classEq, active, running⟩ := holds
  refine ⟨head, grant, headEq, grantEq, classEq, active, fun limit limited => ?_⟩
  exact passed.trans (running limit limited)

/-- No input turns the block number back. -/
theorem now_le_step (w : World BlockNumber (Storage H)) (input : Input H) :
    w.now ≤ (step w input).1.now := by
  cases input with
  | advance block base => exact le_max_left w.now block
  | extrinsic signer call =>
      rw [step]
      split <;> exact le_rfl

/-- A role that an account does not hold at some point of a chain, because it was never
granted, was withdrawn or ran out, is held later only if sudo recorded a grant in between:
neither the passing of blocks nor any extrinsic without sudo brings it back. -/
theorem role_gained_by_sudo (start : World BlockNumber (Storage H)) (inputs : List (Input H))
    (account : AccountId) (role : Nat)
    (without : ¬ HoldsRole H start.now start.storage.authority account role)
    (gained :
      HoldsRole H (run start inputs).now (run start inputs).storage.authority account role) :
    ∃ before signer call after, inputs = before ++ .extrinsic signer call :: after ∧
      ¬ HoldsRole H (run start before).now (run start before).storage.authority account role ∧
      call.Sudo ∧
      H.isSudo (run start before).storage.base (extrinsicOrigin signer) = true ∧
      Entitled .authority (run start before).now (run start before).storage
        (extrinsicOrigin signer) call := by
  obtain ⟨before, input, after, rfl, lacking, onset⟩ := Runs.exists_onset
    (P := fun w : World BlockNumber (Storage H) =>
      HoldsRole H w.now w.storage.authority account role) without gained
  have changed : ¬ Module.authority.Same (run start before).storage
      (step (run start before) input).1.storage := by
    intro same
    have granted : (step (run start before) input).1.storage.authority =
      (run start before).storage.authority := same
    rw [granted] at onset
    exact lacking (onset.earlier (now_le_step _ input))
  obtain ⟨signer, call, rfl, _, answers⟩ := answers_of_step changed
  refine ⟨before, signer, call, after, rfl, lacking, ?_⟩
  cases answers with
  | wrapped _ _ throughSudo allowed entitled => exact ⟨throughSudo, allowed, entitled⟩
  | role account call target role configured => cases configured
  | own account call target self =>
      cases call with
      | utility => cases target
      | _ => cases self

namespace Sample

open Utility.Sample

/-- A grant of the role of the utility pallet, recorded through sudo. -/
def grant : Authority.AuthorityGrant BlockNumber :=
  ⟨1, .d3, true, none, none, Id32.repeated 12⟩

def granted : Input governed :=
  .extrinsic (some alice) (.sudo' (.chlom (.authority
    (.recordGrantVersion (accountSubject governed alice) (roleId governed 8) grant))))

end Sample

open Sample Utility.Sample in
/-- A grant of a role to an account that had none came from sudo. -/
theorem role_gained_by_sudo_sample :
    ∃ before signer call after, [granted] = before ++ .extrinsic signer call :: after ∧
      ¬ HoldsRole governed (run started before).now (run started before).storage.authority
        alice 8 ∧
      call.Sudo ∧
      governed.isSudo (run started before).storage.base (extrinsicOrigin signer) = true ∧
      Entitled .authority (run started before).now (run started before).storage
        (extrinsicOrigin signer) call := by
  refine role_gained_by_sudo started [granted] alice 8 ?_ ?_
  · rintro ⟨head, version, headEq, _⟩
    cases headEq
  · exact ⟨1, grant, by decide +kernel, by decide +kernel, rfl, rfl, nofun⟩

/-! ## Chains that began without records -/

/-- Every pallet is as it was at genesis. -/
def Bare (s : Storage H) : Prop :=
  ∀ module : Module, module.Same (.genesis s.base) s

/-- Without grants no account holds a role. -/
theorem not_holdsRole_of_bare (bare : Bare s) (account : AccountId) (role : Nat) :
    ¬ HoldsRole H now s.authority account role := by
  rintro ⟨head, grant, headEq, _⟩
  have empty : s.authority = .empty BlockNumber := bare .authority
  rw [empty] at headEq
  cases headEq

/-- Without services and units nobody can do anything for itself. -/
theorem same_of_own {account : AccountId} {call : ChlomCall H} (bare : Bare s) (own : call.Own)
    (done : call.body now (.signed account) s = .ok () s') : Module.utility.Same s s' := by
  cases call with
  | utility inner =>
      simp only [ChlomCall.body, Dispatch.zoom_ok] at done
      obtain ⟨part, ran, rfl⟩ := done
      have empty : s.utility = .empty H.utility AccountId BlockNumber := bare .utility
      have effect := Utility.pallet_effect ran
      change part = s.utility
      rw [empty] at effect ⊢
      cases effect with
      | retry => rfl
      | replay _ _ _ stored => cases stored
      | approve => cases own
      | revoke => cases own
      | allocate sequence p resourceId units approvalHash posted =>
          -- Only a call of the pallet's administrator allocates.
          have performed := posted.operation
          cases inner with
          | reserve | consume | release => cases performed
          | approveService | revokeService | allocate => cases own
      | reserve _ _ _ _ _ _ _ _ _ active => cases active
      | close _ _ _ _ _ _ _ _ _ stored => cases stored
  | _ => cases own

theorem bare_genesis (base : H.Base) : Bare (.genesis base : Storage H) :=
  fun module => .refl _ module

/-- What leaves every pallet as it is keeps a chain without records. -/
theorem Bare.of_same (bare : Bare s) (same : ∀ module : Module, module.Same s s') : Bare s' := by
  intro module
  have kept := (bare module).trans (same module)
  cases module <;> exact kept

/-- An extrinsic that changes a pallet of a chain without records is one of sudo. -/
theorem sudo_of_changed {signer : Option AccountId} {call : RuntimeCall H} (bare : Bare s)
    {module : Module} (changed : ¬ module.Same s (Dispatch.finalState
      (dispatchBypassFilter now (extrinsicOrigin signer) call s))) :
    call.Sudo ∧ H.isSudo s.base (extrinsicOrigin signer) = true := by
  cases call with
  | chlom call =>
      refine absurd ?_ changed
      apply Dispatch.finalState_withStorageLayer (P := fun s' => module.Same s s')
      · exact .refl s module
      · intro _ s' done
        by_cases target : module = call.module
        · rcases ChlomCall.body_permitted done with permitted | own
          · obtain ⟨account, role, _, _, holds⟩ := holdsRole_of_permits permitted
            exact absurd holds (not_holdsRole_of_bare bare account role)
          · obtain ⟨account, signed⟩ := ChlomCall.signed_of_own own done
            rw [signed] at done
            have same := same_of_own bare own done
            cases call with
            | utility inner =>
                rw [target]
                exact same
            | _ => cases own
        · exact ChlomCall.body_frame done target
  | sudo' call => exact ⟨trivial, (changed_of_asSudo changed).1⟩
  | sudoUncheckedWeight call => exact ⟨trivial, (changed_of_asSudo changed).1⟩
  | sudoAs who call => exact ⟨trivial, (changed_of_asSudo changed).1⟩
  | rawWrite write =>
      have root : extrinsicOrigin signer = .root := entitled_of_dispatch changed
      cases signer <;> cases root
  | external call => exact (entitled_of_dispatch changed).elim

/-- On a chain that began without records, the first extrinsic that changes any of the ten
pallets is a call of the sudo pallet by an origin that may use it: until then the ten pallets
are empty, whoever signs what. -/
theorem first_change_by_sudo (genesis : BlockNumber) (base : H.Base) (inputs : List (Input H))
    (changed : ¬ Bare (run ⟨genesis, .genesis base⟩ inputs).storage) :
    ∃ before signer call after, inputs = before ++ .extrinsic signer call :: after ∧
      Bare (run ⟨genesis, .genesis base⟩ before).storage ∧
      ¬ Bare (run ⟨genesis, .genesis base⟩ (before ++ [.extrinsic signer call])).storage ∧
      DevelopmentCallFilter.contains call = true ∧ call.Sudo ∧
      H.isSudo (run ⟨genesis, .genesis base⟩ before).storage.base (extrinsicOrigin signer) =
        true := by
  obtain ⟨before, input, after, rfl, still, onset⟩ := Runs.exists_onset
    (P := fun w : World BlockNumber (Storage H) => ¬ Bare w.storage)
    (fun differs => differs (bare_genesis base)) changed
  have bare : Bare (run ⟨genesis, .genesis base⟩ before).storage := not_not.mp still
  cases input with
  | advance block other =>
      refine absurd (bare.of_same fun module => ?_) onset
      exact Module.same_base _ other module
  | extrinsic signer call =>
      refine ⟨before, signer, call, after, rfl, bare, ?_, ?_⟩
      · rw [show run ⟨genesis, .genesis base⟩ (before ++ [.extrinsic signer call]) =
          (step (run ⟨genesis, .genesis base⟩ before) (.extrinsic signer call)).1 from
            Runs.run_append _ before _]
        exact onset
      · rw [step] at onset
        split at onset
        · next passed =>
            have differs := not_forall.mp fun kept => onset (bare.of_same kept)
            obtain ⟨module, differs⟩ := differs
            exact ⟨passed, sudo_of_changed bare differs⟩
        · exact absurd bare onset

open Sample in
/-- The approval of a service was the first change of the sample chain. -/
theorem first_change_by_sudo_sample :
    ∃ before signer call after, [approved] = before ++ .extrinsic signer call :: after ∧
      Bare (run started before).storage ∧
      ¬ Bare (run started (before ++ [.extrinsic signer call])).storage ∧
      DevelopmentCallFilter.contains call = true ∧ call.Sudo ∧
      governed.isSudo (run started before).storage.base (extrinsicOrigin signer) = true :=
  first_change_by_sudo (H := governed) 1 () [approved] fun bare => approved_changes (bare .utility)

end Chlom.Runtime
