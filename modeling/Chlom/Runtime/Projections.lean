import Chlom.Runtime.Roles

/-!
# What the runtime is for each of its pallets

Whatever is dispatched on a chain, wrapped in sudo or not, each pallet sees blocks pass and
some of its own calls succeed, unless root writes the raw storage.  So a chain without such
writes takes each pallet through a run of that pallet alone, and what holds of all these runs
holds on every such chain.
-/

namespace Chlom.Runtime

open Chlom.Frame

/-- A part of the runtime: what it sees of the storage, and the calls that change this. -/
structure Part (H : Host) (State Error Call : Type) where
  view : Storage H → State
  pallet : Pallet AccountId BlockNumber State Error Call
  view_base : ∀ (s : Storage H) (base : H.Base), view { s with base } = view s
  view_body : ∀ {now : BlockNumber} {origin : RawOrigin AccountId} {call : ChlomCall H}
    {s s' : Storage H}, call.body now origin s = .ok () s' → view s' = view s ∨
      ∃ inner, pallet ⟨now, call.module.permits now s⟩ origin inner (view s) = .ok () (view s')

variable {H : Host}

/-! ## The parts -/

namespace Part

def authority : Part H (Authority.Storage BlockNumber) Authority.Error
    (Authority.Call BlockNumber) where
  view := Storage.authority
  pallet := Authority.pallet
  view_base _ _ := rfl
  view_body {_ _ call s s'} done := by
    cases call with
    | authority inner =>
        simp only [ChlomCall.body, Dispatch.zoom_ok] at done
        obtain ⟨part, ran, rfl⟩ := done
        exact .inr ⟨inner, ran⟩
    | _ =>
        have same : Module.authority.Same s s' := ChlomCall.body_frame done nofun
        exact .inl same

def identity : Part H (Identity.Storage BlockNumber) Identity.Error (Identity.Call BlockNumber) where
  view := Storage.identity
  pallet := Identity.pallet
  view_base _ _ := rfl
  view_body {_ _ call s s'} done := by
    cases call with
    | identity inner =>
        simp only [ChlomCall.body, Dispatch.zoom_ok] at done
        obtain ⟨part, ran, rfl⟩ := done
        exact .inr ⟨inner, ran⟩
    | _ =>
        have same : Module.identity.Same s s' := ChlomCall.body_frame done nofun
        exact .inl same

/-- The licensing pallet looks at the rights pallet, so the two are one part. -/
def access : Part H (Access.Storage BlockNumber) Access.Error (Access.Call BlockNumber) where
  view s := ⟨s.rights, s.licensing⟩
  pallet := Access.pallet
  view_base _ _ := rfl
  view_body {_ _ call s s'} done := by
    cases call with
    | rights inner =>
        simp only [ChlomCall.body, Dispatch.zoom_ok] at done
        obtain ⟨part, ran, rfl⟩ := done
        refine .inr ⟨.rights inner, ?_⟩
        simp only [Access.pallet, Dispatch.zoom_ok]
        exact ⟨part, ran, rfl⟩
    | licensing inner =>
        simp only [ChlomCall.body, Dispatch.zoom_ok] at done
        obtain ⟨part, ran, rfl⟩ := done
        refine .inr ⟨.licensing inner, ?_⟩
        simp only [Access.pallet, Dispatch.zoom_ok]
        exact ⟨part, ran, rfl⟩
    | _ =>
        have rights : Module.rights.Same s s' := ChlomCall.body_frame done nofun
        have licensing : Module.licensing.Same s s' := ChlomCall.body_frame done nofun
        refine .inl ?_
        rw [show s'.rights = s.rights from rights, show s'.licensing = s.licensing from licensing]

def settlement : Part H (Settlement.Storage H.settlement) Settlement.Error
    (Settlement.Call H.settlement) where
  view := Storage.settlement
  pallet := Settlement.pallet H.settlement
  view_base _ _ := rfl
  view_body {_ _ call s s'} done := by
    cases call with
    | settlement inner =>
        simp only [ChlomCall.body, Dispatch.zoom_ok] at done
        obtain ⟨part, ran, rfl⟩ := done
        exact .inr ⟨inner, ran⟩
    | _ =>
        have same : Module.settlement.Same s s' := ChlomCall.body_frame done nofun
        exact .inl same

def tokenization : Part H Tokenization.Storage Tokenization.Error Tokenization.Call where
  view := Storage.tokenization
  pallet := Tokenization.pallet
  view_base _ _ := rfl
  view_body {_ _ call s s'} done := by
    cases call with
    | tokenization inner =>
        simp only [ChlomCall.body, Dispatch.zoom_ok] at done
        obtain ⟨part, ran, rfl⟩ := done
        exact .inr ⟨inner, ran⟩
    | _ =>
        have same : Module.tokenization.Same s s' := ChlomCall.body_frame done nofun
        exact .inl same

def oracle : Part H (Oracle.Storage BlockNumber) Oracle.Error Oracle.Call where
  view := Storage.oracle
  pallet := Oracle.pallet
  view_base _ _ := rfl
  view_body {_ _ call s s'} done := by
    cases call with
    | oracle inner =>
        simp only [ChlomCall.body, Dispatch.zoom_ok] at done
        obtain ⟨part, ran, rfl⟩ := done
        exact .inr ⟨inner, ran⟩
    | _ =>
        have same : Module.oracle.Same s s' := ChlomCall.body_frame done nofun
        exact .inl same

def checkpoint : Part H Checkpoint.Storage Checkpoint.Error Checkpoint.Call where
  view := Storage.checkpoint
  pallet := Checkpoint.pallet
  view_base _ _ := rfl
  view_body {_ _ call s s'} done := by
    cases call with
    | checkpoint inner =>
        simp only [ChlomCall.body, Dispatch.zoom_ok] at done
        obtain ⟨part, ran, rfl⟩ := done
        exact .inr ⟨inner, ran⟩
    | _ =>
        have same : Module.checkpoint.Same s s' := ChlomCall.body_frame done nofun
        exact .inl same

def utility : Part H (Utility.Storage H.utility AccountId BlockNumber) Utility.Error
    (Utility.Call AccountId BlockNumber) where
  view := Storage.utility
  pallet := Utility.pallet H.utility
  view_base _ _ := rfl
  view_body {_ _ call s s'} done := by
    cases call with
    | utility inner =>
        simp only [ChlomCall.body, Dispatch.zoom_ok] at done
        obtain ⟨part, ran, rfl⟩ := done
        exact .inr ⟨inner, ran⟩
    | _ =>
        have same : Module.utility.Same s s' := ChlomCall.body_frame done nofun
        exact .inl same

def policy : Part H (Policy.Storage H.policy BlockNumber) Policy.Error
    (Policy.Call BlockNumber) where
  view := Storage.policy
  pallet := Policy.pallet H.policy
  view_base _ _ := rfl
  view_body {_ _ call s s'} done := by
    cases call with
    | policy inner =>
        simp only [ChlomCall.body, Dispatch.zoom_ok] at done
        obtain ⟨part, ran, rfl⟩ := done
        exact .inr ⟨inner, ran⟩
    | _ =>
        have same : Module.policy.Same s s' := ChlomCall.body_frame done nofun
        exact .inl same

end Part

/-! ## One input -/

section Step

variable {State Error Call : Type} (part : Part H State Error Call)

/-- What a part sees of a chain. -/
def Part.world (w : World BlockNumber (Storage H)) : World BlockNumber State :=
  ⟨w.now, part.view w.storage⟩

/-- From the first state to the second the part saw nothing, or a call of its own succeed. -/
def Part.Moves (now : BlockNumber) (s s' : State) : Prop :=
  s' = s ∨ ∃ permits origin inner, part.pallet ⟨now, permits⟩ origin inner s = .ok () s'

variable {part}

/-- A wrapper of sudo does to a part what its inner dispatch does. -/
theorem Part.moves_asSudo {now : BlockNumber} {s : Storage H} {origin : RawOrigin AccountId}
    {inner : Body H Unit}
    (moves : part.Moves now (part.view s) (part.view (Dispatch.finalState (inner s)))) :
    part.Moves now (part.view s) (part.view (Dispatch.finalState (asSudo origin inner s))) := by
  apply Dispatch.finalState_withStorageLayer
    (P := fun s' => part.Moves now (part.view s) (part.view s'))
  · exact .inl rfl
  · intro value s' done
    simp only [Dispatch.read_bind, ensure_bind_ok] at done
    obtain ⟨_, done⟩ := done
    obtain rfl := (EStateM.Result.ok.inj done).2
    simp only [part.view_base]
    exact moves

/-- A dispatched call is at most one call of a part, however deep it is wrapped. -/
theorem Part.moves_dispatch (now : BlockNumber) (s : Storage H) {call : RuntimeCall H}
    (ordinary : call.Ordinary) (origin : RawOrigin AccountId) : part.Moves now (part.view s)
      (part.view (Dispatch.finalState (dispatchBypassFilter now origin call s))) := by
  induction call generalizing origin with
  | chlom call =>
      apply Dispatch.finalState_withStorageLayer
        (P := fun s' => part.Moves now (part.view s) (part.view s'))
      · exact .inl rfl
      · intro _ s' done
        rcases part.view_body done with same | ⟨inner, ran⟩
        · exact .inl same
        · exact .inr ⟨_, origin, inner, ran⟩
  | sudo' call ih => exact moves_asSudo (ih ordinary .root)
  | sudoUncheckedWeight call ih => exact moves_asSudo (ih ordinary .root)
  | sudoAs who call ih => exact moves_asSudo (ih ordinary (.signed who))
  | rawWrite write => cases ordinary
  | external call =>
      apply Dispatch.finalState_withStorageLayer
        (P := fun s' => part.Moves now (part.view s) (part.view s'))
      · exact .inl rfl
      · intro _ s' done
        simp only [Dispatch.read_bind, okOr_bind_ok] at done
        obtain ⟨base, _, done⟩ := done
        obtain rfl := (EStateM.Result.ok.inj done).2
        exact .inl (part.view_base s base)

/-- An input of a chain is at most one input for a part. -/
theorem Part.exists_step (w : World BlockNumber (Storage H)) {input : Input H}
    (ordinary : input.Ordinary) :
    ∃ messages, part.world (step w input).1 = Frame.run part.pallet (part.world w) messages := by
  cases input with
  | advance block base =>
      refine ⟨[.advance block], ?_⟩
      simp only [world, step, part.view_base]
      rfl
  | extrinsic signer call =>
      rw [step]
      split
      · rcases part.moves_dispatch w.now w.storage ordinary (extrinsicOrigin signer)
          with same | ⟨permits, origin, inner, ran⟩
        · refine ⟨[], ?_⟩
          simp only [world, same]
          rfl
        · refine ⟨[.submit permits origin inner], ?_⟩
          exact (step_submit_ok (w := part.world w) ran).symm
      · exact ⟨[], rfl⟩

end Step

/-! ## Chains -/

/-- From the first state of a chain to the second a part went through a run of its own. -/
def Part.RunsAlone {State Error Call : Type} (part : Part H State Error Call)
    (start w : World BlockNumber (Storage H)) : Prop :=
  ∃ messages, part.world w = Frame.run part.pallet (part.world start) messages

theorem Part.runsAlone {State Error Call : Type} (part : Part H State Error Call)
    (start : World BlockNumber (Storage H)) {inputs : List (Input H)}
    (ordinary : ∀ input ∈ inputs, input.Ordinary) : part.RunsAlone start (run start inputs) :=
  Runs.exists_run_view part.world
    (fun input member w => part.exists_step w (ordinary input member)) start

/-- Whatever is dispatched on a chain but raw writes, signed or wrapped in sudo at any depth, the
storage of each of the ten pallets is the one after a run of that pallet alone up to the same
block, where rights and licensing run next to each other. -/
theorem pallets_run_alone (start : World BlockNumber (Storage H)) (inputs : List (Input H))
    (ordinary : ∀ input ∈ inputs, input.Ordinary) :
    Part.authority.RunsAlone start (run start inputs) ∧
    Part.identity.RunsAlone start (run start inputs) ∧
    Part.access.RunsAlone start (run start inputs) ∧
    Part.settlement.RunsAlone start (run start inputs) ∧
    Part.tokenization.RunsAlone start (run start inputs) ∧
    Part.oracle.RunsAlone start (run start inputs) ∧
    Part.checkpoint.RunsAlone start (run start inputs) ∧
    Part.utility.RunsAlone start (run start inputs) ∧
    Part.policy.RunsAlone start (run start inputs) :=
  ⟨Part.authority.runsAlone start ordinary, Part.identity.runsAlone start ordinary,
    Part.access.runsAlone start ordinary, Part.settlement.runsAlone start ordinary,
    Part.tokenization.runsAlone start ordinary, Part.oracle.runsAlone start ordinary,
    Part.checkpoint.runsAlone start ordinary, Part.utility.runsAlone start ordinary,
    Part.policy.runsAlone start ordinary⟩

open Sample in
/-- The approval of a service through sudo is a run of the utility pallet. -/
theorem pallets_run_alone_sample :
    (Part.utility : Part governed _ _ _).RunsAlone started (run started [approved, .advance 5 ()]) :=
  have alone := pallets_run_alone started [approved, .advance 5 ()] (by
    simp [approved, Input.Ordinary, RuntimeCall.Ordinary])
  alone.2.2.2.2.2.2.2.1

/-- What every run of a part keeps true, every chain without raw writes keeps true of the
part. -/
theorem Part.invariant_run {State Error Call : Type} (part : Part H State Error Call)
    {Inv : BlockNumber → State → Prop} (invariant : Invariant part.pallet Inv)
    (start : World BlockNumber (Storage H)) (holds : Inv start.now (part.view start.storage))
    {inputs : List (Input H)} (ordinary : ∀ input ∈ inputs, input.Ordinary) :
    Inv (run start inputs).now (part.view (run start inputs).storage) := by
  obtain ⟨messages, same⟩ := part.runsAlone start ordinary
  have reached := invariant.run (w := part.world start) holds messages
  rw [← same] at reached
  exact reached

/-- What every successful call of a part preserves lasts on every chain without raw writes. -/
theorem Part.lasts {State Error Call : Type} (part : Part H State Error Call)
    {Inv : BlockNumber → State → Prop} (invariant : Invariant part.pallet Inv) (P : State → Prop)
    (kept : ∀ {env : Env AccountId BlockNumber} {origin : RawOrigin AccountId} {call : Call}
      {s s' : State}, Inv env.blockNumber s → part.pallet env origin call s = .ok () s' → P s → P s')
    (start : World BlockNumber (Storage H)) (holds : Inv start.now (part.view start.storage))
    (now : P (part.view start.storage)) {inputs : List (Input H)}
    (ordinary : ∀ input ∈ inputs, input.Ordinary) : P (part.view (run start inputs).storage) := by
  obtain ⟨messages, same⟩ := part.runsAlone start ordinary
  have reached := invariant.lasts (P := P) kept (w := part.world start) holds now messages
  rw [← same] at reached
  exact reached

end Chlom.Runtime
