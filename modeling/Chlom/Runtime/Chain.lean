import Chlom.Access.Chain
import Chlom.Authority.Pallet
import Chlom.Checkpoint.Pallet
import Chlom.Identity.Pallet
import Chlom.Oracle.Pallet
import Chlom.Policy.Pallet
import Chlom.Settlement.Pallet
import Chlom.Tokenization.Pallet
import Chlom.Utility.Pallet

/-!
# The composed runtime

Ten pallets over one storage, with the origins configured for each of them, the
wrappers of the sudo pallet around any call, and the filter that development
chains apply to the call of every extrinsic.  What lies outside the repository,
such as the other pallets with their storage, is a parameter of the runtime.  Root can
write the raw storage of all pallets; a chain is followed until it replaces the code.
-/

namespace Chlom.Runtime

open Chlom.Frame

abbrev AccountId := Id32
abbrev BlockNumber := U32

/-- What the runtime takes from elsewhere: the storage of the remaining pallets,
their calls, which answer nothing when they fail and leave the ten pallets alone, who
may use sudo, what sudo records of the call it dispatched, and BLAKE2-256. -/
structure Host where
  Base : Type
  External : Type
  external : External → RawOrigin AccountId → Base → Option Base
  isSudo : Base → RawOrigin AccountId → Bool
  sudid : Bool → Base → Base
  blake2_256 : List UInt8 → Id32

def Host.settlement (H : Host) : Settlement.Config := ⟨64, H.blake2_256⟩
def Host.utility (H : Host) : Utility.Config := ⟨64, H.blake2_256⟩
def Host.policy (H : Host) : Policy.Config := ⟨64, H.blake2_256⟩

structure Storage (H : Host) where
  base : H.Base
  authority : Authority.Storage BlockNumber
  identity : Identity.Storage BlockNumber
  rights : Rights.Storage BlockNumber
  licensing : Licensing.Storage BlockNumber
  settlement : Settlement.Storage H.settlement
  tokenization : Tokenization.Storage
  oracle : Oracle.Storage BlockNumber
  checkpoint : Checkpoint.Storage
  utility : Utility.Storage H.utility AccountId BlockNumber
  policy : Policy.Storage H.policy BlockNumber

/-- A storage without records of the ten pallets. -/
def Storage.genesis {H : Host} (base : H.Base) : Storage H where
  base
  authority := .empty BlockNumber
  identity := .empty BlockNumber
  rights := .empty BlockNumber
  licensing := .empty BlockNumber
  settlement := .empty H.settlement
  tokenization := .empty
  oracle := .empty BlockNumber
  checkpoint := .empty
  utility := .empty H.utility AccountId BlockNumber
  policy := .empty H.policy BlockNumber

inductive Error where
  | authority (error : Authority.Error)
  | identity (error : Identity.Error)
  | rights (error : Rights.Error)
  | licensing (error : Licensing.Error)
  | settlement (error : Settlement.Error)
  | tokenization (error : Tokenization.Error)
  | oracle (error : Oracle.Error)
  | checkpoint (error : Checkpoint.Error)
  | utility (error : Utility.Error)
  | policy (error : Policy.Error)
  | requireSudo
  | callFiltered
  | external
  deriving DecidableEq

/-- A call of one of the ten pallets. -/
inductive ChlomCall (H : Host) where
  | authority (call : Authority.Call BlockNumber)
  | identity (call : Identity.Call BlockNumber)
  | rights (call : Rights.Call BlockNumber)
  | licensing (call : Licensing.Call BlockNumber)
  | settlement (call : Settlement.Call H.settlement)
  | tokenization (call : Tokenization.Call)
  | oracle (call : Oracle.Call)
  | checkpoint (call : Checkpoint.Call)
  | utility (call : Utility.Call AccountId BlockNumber)
  | policy (call : Policy.Call BlockNumber)

/-- Any call: of the ten pallets, of sudo around another call, one that writes the raw
storage (`set_storage`, `kill_storage` and `kill_prefix` of the system pallet), by what it
leaves of the storage, or one of the rest. -/
inductive RuntimeCall (H : Host) where
  | chlom (call : ChlomCall H)
  | sudo' (call : RuntimeCall H)
  | sudoUncheckedWeight (call : RuntimeCall H)
  | sudoAs (who : AccountId) (call : RuntimeCall H)
  | rawWrite (write : Storage H → Storage H)
  | external (call : H.External)

variable {H : Host}

/-- Nowhere in the call the raw storage is written. -/
def RuntimeCall.Ordinary : RuntimeCall H → Prop
  | .sudo' call | .sudoUncheckedWeight call | .sudoAs _ call => call.Ordinary
  | .rawWrite _ => False
  | .chlom _ | .external _ => True

/-! ## Origins -/

/-- The subject that stands for an account in grants of authority. -/
def accountSubject (H : Host) (account : AccountId) : Id32 :=
  H.blake2_256 (asciiBytes "CHLOM:runtime-account:v1" ++ Encode.encode account)

def roleLabel : Nat → String
  | 1 => "CHLOM:role:identity:v1"
  | 2 => "CHLOM:role:rights:v1"
  | 3 => "CHLOM:role:licensing:v1"
  | 4 => "CHLOM:role:settlement:v1"
  | 5 => "CHLOM:role:tokenization:v1"
  | 6 => "CHLOM:role:oracle:v1"
  | 7 => "CHLOM:role:checkpoint:v1"
  | 8 => "CHLOM:role:utility:v1"
  | 9 => "CHLOM:role:policy:v1"
  | _ => "CHLOM:role:invalid:v1"

def roleId (H : Host) (role : Nat) : Id32 :=
  H.blake2_256 (asciiBytes (roleLabel role))

def ensureRoot : RawOrigin AccountId → Bool
  | .root => true
  | _ => false

/-- Root, or a signer whose newest grant for the role is a running one of class D3. -/
def ensureRootOrRole (H : Host) (role : Nat) (now : BlockNumber)
    (authority : Authority.Storage BlockNumber) : RawOrigin AccountId → Bool
  | .root => true
  | .signed account => 1 ≤ role ∧ role ≤ 9 ∧
      (Authority.activeClass now authority (accountSubject H account) (roleId H role)).any
        fun class' => class'.permits .d3
  | .none => false

/-- The ten pallets. -/
inductive Module where
  | authority | identity | rights | licensing | settlement | tokenization | oracle | checkpoint
  | utility | policy
  deriving DecidableEq, Repr

/-- The role configured for a pallet.  The authority pallet obeys root only, and
the pallets with two origins have the same one twice. -/
def Module.role : Module → Option Nat
  | .authority => none
  | .identity => some 1
  | .rights => some 2
  | .licensing => some 3
  | .settlement => some 4
  | .tokenization => some 5
  | .oracle => some 6
  | .checkpoint => some 7
  | .utility => some 8
  | .policy => some 9

def ChlomCall.module : ChlomCall H → Module
  | .authority _ => .authority
  | .identity _ => .identity
  | .rights _ => .rights
  | .licensing _ => .licensing
  | .settlement _ => .settlement
  | .tokenization _ => .tokenization
  | .oracle _ => .oracle
  | .checkpoint _ => .checkpoint
  | .utility _ => .utility
  | .policy _ => .policy

/-- The privileged origin of a pallet at a block. -/
def Module.permits (module : Module) (now : BlockNumber) (s : Storage H) :
    RawOrigin AccountId → Bool :=
  match module.role with
  | none => ensureRoot
  | some role => ensureRootOrRole H role now s.authority

/-! ## Dispatch -/

/-- The body of a runtime call. -/
abbrev Body (H : Host) (α : Type) :=
  Dispatch (Storage H) (DispatchError Error) α

/-- Each call runs on the storage of its own pallet. -/
def ChlomCall.body (now : BlockNumber) (origin : RawOrigin AccountId) (call : ChlomCall H) :
    Body H Unit := fun s =>
  let env : Env AccountId BlockNumber := ⟨now, call.module.permits now s⟩
  match call with
  | .authority call => Dispatch.zoom Storage.authority (fun s authority => { s with authority })
      (DispatchError.map .authority) (Authority.pallet env origin call) s
  | .identity call => Dispatch.zoom Storage.identity (fun s identity => { s with identity })
      (DispatchError.map .identity) (Identity.pallet env origin call) s
  | .rights call => Dispatch.zoom Storage.rights (fun s rights => { s with rights })
      (DispatchError.map .rights) (Rights.pallet env origin call) s
  | .licensing call => Dispatch.zoom Storage.licensing (fun s licensing => { s with licensing })
      (DispatchError.map .licensing)
      (Licensing.pallet (Access.instrument s.rights) env origin call) s
  | .settlement call =>
      Dispatch.zoom Storage.settlement (fun s settlement => { s with settlement })
        (DispatchError.map .settlement) (Settlement.pallet H.settlement env origin call) s
  | .tokenization call =>
      Dispatch.zoom Storage.tokenization (fun s tokenization => { s with tokenization })
        (DispatchError.map .tokenization) (Tokenization.pallet env origin call) s
  | .oracle call => Dispatch.zoom Storage.oracle (fun s oracle => { s with oracle })
      (DispatchError.map .oracle) (Oracle.pallet env origin call) s
  | .checkpoint call =>
      Dispatch.zoom Storage.checkpoint (fun s checkpoint => { s with checkpoint })
        (DispatchError.map .checkpoint) (Checkpoint.pallet env origin call) s
  | .utility call => Dispatch.zoom Storage.utility (fun s utility => { s with utility })
      (DispatchError.map .utility) (Utility.pallet H.utility env origin call) s
  | .policy call => Dispatch.zoom Storage.policy (fun s policy => { s with policy })
      (DispatchError.map .policy) (Policy.pallet H.policy env origin call) s

/-- A wrapper of sudo around a dispatch, whose outcome it records instead of
passing it on. -/
def asSudo (origin : RawOrigin AccountId) (inner : Body H Unit) : Body H Unit :=
  Dispatch.withStorageLayer do
    ensure (H.isSudo (← Dispatch.read Storage.base) origin = true) Error.requireSudo
    let result ← Dispatch.attempt inner
    Dispatch.write fun s => { s with base := H.sudid result.isOk s.base }

/-- Dispatch a call without looking at the filter. -/
def dispatchBypassFilter (now : BlockNumber) :
    RawOrigin AccountId → RuntimeCall H → Body H Unit
  | origin, .chlom call => Dispatch.withStorageLayer (call.body now origin)
  | origin, .sudo' call => asSudo origin (dispatchBypassFilter now .root call)
  | origin, .sudoUncheckedWeight call => asSudo origin (dispatchBypassFilter now .root call)
  | origin, .sudoAs who call => asSudo origin (dispatchBypassFilter now (.signed who) call)
  | origin, .rawWrite write => Dispatch.withStorageLayer do
      Dispatch.ensure (ensureRoot origin = true) .badOrigin
      Dispatch.write write
  | origin, .external call => Dispatch.withStorageLayer do
      let base ← okOr (H.external call origin (← Dispatch.read Storage.base)) Error.external
      Dispatch.write fun s => { s with base }

/-- The calls a development chain lets through.  Calls inside sudo are looked at too. -/
def DevelopmentCallFilter.contains : RuntimeCall H → Bool
  | .chlom (.licensing (.recordDlaVersion _ value)) => value.offerability ≠ .eligiblePublic
  | .chlom (.licensing (.recordLexOfferVersion _ value)) => value.state ≠ .published
  | .chlom (.tokenization (.recordTokenClass _ value)) =>
      ¬ value.legalApprovedPublic ∧ value.issuanceState ≠ .productionEligible
  | .chlom (.tokenization (.recordChainAdapter _ value)) => ¬ value.productionCertified
  | .chlom (.tokenization (.recordProviderEvent _ details)) =>
      details.eventType ≠ .productionMintConfirmed
  | .sudo' call | .sudoUncheckedWeight call | .sudoAs _ call => contains call
  | _ => true

/-! ## Chains -/

/-- One thing that happens on a chain: the host moves on, by a block or by fees
and the like, or an extrinsic is dispatched. -/
inductive Input (H : Host) where
  | advance (block : BlockNumber) (base : H.Base)
  | extrinsic (signer : Option AccountId) (call : RuntimeCall H)

/-- No call of the input writes the raw storage. -/
def Input.Ordinary : Input H → Prop
  | .advance _ _ => True
  | .extrinsic _ call => call.Ordinary

/-- The origin of an extrinsic. -/
def extrinsicOrigin : Option AccountId → RawOrigin AccountId
  | some account => .signed account
  | none => .none

/-- Take one input.  The filter sees the outer call of an extrinsic. -/
def step (w : World BlockNumber (Storage H)) :
    Input H → World BlockNumber (Storage H) × Option (Except (DispatchError Error) Unit)
  | .advance block base => (⟨max w.now block, { w.storage with base }⟩, none)
  | .extrinsic signer call =>
      if DevelopmentCallFilter.contains call then
        let ran := dispatchBypassFilter w.now (extrinsicOrigin signer) call w.storage
        ({ w with storage := Dispatch.finalState ran }, some (Dispatch.outcome ran))
      else
        (w, some (.error (.module .callFiltered)))

/-- The chain after a list of inputs. -/
abbrev run (w : World BlockNumber (Storage H)) (inputs : List (Input H)) :
    World BlockNumber (Storage H) :=
  Runs.run step w inputs

end Chlom.Runtime
