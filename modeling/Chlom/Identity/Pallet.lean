import Chlom.VersionedRecord

/-!
# The identity pallet: versioned identities and credentials

An identity binds a subject to the hashes of a decentralised identifier and a
fingerprint; a credential is a claim by an issuer about a subject, and is never
transferable.  The arguments of a call are an identifier and the fields of the
version; the block at which an identity version becomes valid is filled in.
-/

namespace Chlom.Identity

open Chlom.Frame

/-- What a caller supplies of an identity version. -/
structure IdentityDetails where
  version : U32
  didHash : Id32
  fingerprintHash : Id32
  controllerSubjectId : Id32
  settlementRouteHash : Option Id32
  state : RecordState
  previousRecordHash : Option Id32
  recordHash : Id32
  deriving DecidableEq

structure IdentityVersion (BlockNumber : Type) extends IdentityDetails where
  validFrom : BlockNumber
  deriving DecidableEq

structure CredentialVersion (BlockNumber : Type) where
  version : U32
  subjectId : Id32
  credentialType : Id32
  issuerSubjectId : Id32
  claimHash : Id32
  nonTransferable : Bool
  state : RecordState
  validUntil : Option BlockNumber
  previousRecordHash : Option Id32
  recordHash : Id32
  deriving DecidableEq

instance identityRevision {BlockNumber : Type} :
    History.Revision (IdentityVersion BlockNumber) Id32 where
  previousHash value := value.previousRecordHash
  recordHash value := value.recordHash

instance credentialRevision {BlockNumber : Type} :
    History.Revision (CredentialVersion BlockNumber) Id32 where
  previousHash := CredentialVersion.previousRecordHash
  recordHash := CredentialVersion.recordHash

inductive Event where
  | identityVersionRecorded (subjectId : Id32) (version : U32) (didHash fingerprintHash : Id32)
      (state : RecordState) (recordHash : Id32)
  | credentialVersionRecorded (credentialId subjectId : Id32) (version : U32) (state : RecordState)
      (nonTransferable : Bool) (recordHash : Id32)
  deriving DecidableEq

inductive Error where
  | invalidIdentifier | invalidVersion | previousHashMismatch | versionAlreadyExists
  | transferableIdentityCredentialForbidden | credentialBindingMismatch
  deriving DecidableEq, Repr

/-- The pallet's storage together with the events deposited so far. -/
structure Storage (BlockNumber : Type) where
  identityHeads : StorageMap Id32 U32
  identityVersions : StorageMap (Id32 × U32) (IdentityVersion BlockNumber)
  credentialHeads : StorageMap Id32 U32
  credentialVersions : StorageMap (Id32 × U32) (CredentialVersion BlockNumber)
  events : List Event

def Storage.empty (BlockNumber : Type) : Storage BlockNumber where
  identityHeads := .empty
  identityVersions := .empty
  credentialHeads := .empty
  credentialVersions := .empty
  events := []

section Calls

variable {AccountId BlockNumber : Type}

/-- The body of an identity call. -/
abbrev Body (BlockNumber α : Type) :=
  Dispatch (Storage BlockNumber) (DispatchError Error) α

def depositEvent (event : Event) : Body BlockNumber Unit :=
  .write fun s => { s with events := s.events ++ [event] }

def recordIdentityVersion (env : Env AccountId BlockNumber) (origin : RawOrigin AccountId)
    (subjectId : Id32) (details : IdentityDetails) : Body BlockNumber Unit := do
  ensureOrigin env origin
  ensure (subjectId ≠ ZERO_ID ∧ details.didHash ≠ ZERO_ID ∧ details.fingerprintHash ≠ ZERO_ID ∧
    details.controllerSubjectId ≠ ZERO_ID ∧ details.recordHash ≠ ZERO_ID) Error.invalidIdentifier
  ensure (← Dispatch.read fun s => s.identityVersions.get (subjectId, details.version)).isNone
    Error.versionAlreadyExists
  ensureNextVersion (← Dispatch.read fun s => s.identityHeads.get subjectId)
    (fun s head => s.identityVersions.get (subjectId, head)) (fun prior => prior.recordHash)
    details.version details.previousRecordHash Error.invalidVersion Error.previousHashMismatch
    fun _ => pure ()
  Dispatch.write fun s => { s with
    identityVersions := s.identityVersions.insert (subjectId, details.version)
      { details with validFrom := env.blockNumber } }
  Dispatch.write fun s => { s with
    identityHeads := s.identityHeads.insert subjectId details.version }
  depositEvent (.identityVersionRecorded subjectId details.version details.didHash
    details.fingerprintHash details.state details.recordHash)

def recordCredentialVersion (env : Env AccountId BlockNumber) (origin : RawOrigin AccountId)
    (credentialId : Id32) (value : CredentialVersion BlockNumber) : Body BlockNumber Unit := do
  ensureOrigin env origin
  ensure (credentialId ≠ ZERO_ID ∧ value.subjectId ≠ ZERO_ID ∧ value.credentialType ≠ ZERO_ID ∧
    value.issuerSubjectId ≠ ZERO_ID ∧ value.claimHash ≠ ZERO_ID ∧ value.recordHash ≠ ZERO_ID)
    Error.invalidIdentifier
  ensure value.nonTransferable Error.transferableIdentityCredentialForbidden
  ensure (← Dispatch.read fun s => s.credentialVersions.get (credentialId, value.version)).isNone
    Error.versionAlreadyExists
  ensureNextVersion (← Dispatch.read fun s => s.credentialHeads.get credentialId)
    (fun s head => s.credentialVersions.get (credentialId, head)) CredentialVersion.recordHash
    value.version value.previousRecordHash Error.invalidVersion Error.previousHashMismatch
    -- another subject, type or issuer requires a new credential
    fun prior => ensure (value.subjectId = prior.subjectId ∧
      value.credentialType = prior.credentialType ∧
      value.issuerSubjectId = prior.issuerSubjectId) Error.credentialBindingMismatch
  Dispatch.write fun s => { s with
    credentialVersions := s.credentialVersions.insert (credentialId, value.version) value }
  Dispatch.write fun s => { s with
    credentialHeads := s.credentialHeads.insert credentialId value.version }
  depositEvent (.credentialVersionRecorded credentialId value.subjectId value.version value.state
    value.nonTransferable value.recordHash)

inductive Call (BlockNumber : Type) where
  | recordIdentityVersion (subjectId : Id32) (details : IdentityDetails)
  | recordCredentialVersion (credentialId : Id32) (value : CredentialVersion BlockNumber)

/-- The body of each call of the pallet. -/
def pallet : Pallet AccountId BlockNumber (Storage BlockNumber) Error (Call BlockNumber) :=
  fun env origin call => match call with
    | .recordIdentityVersion subjectId details =>
        recordIdentityVersion env origin subjectId details
    | .recordCredentialVersion credentialId value =>
        recordCredentialVersion env origin credentialId value

/-- The chain after a list of inputs from empty storage at a genesis block. -/
abbrev run [LinearOrder BlockNumber] (genesis : BlockNumber)
    (inputs : List (Input AccountId BlockNumber (Call BlockNumber))) :
    World BlockNumber (Storage BlockNumber) :=
  Frame.run pallet ⟨genesis, .empty BlockNumber⟩ inputs

end Calls

/-! ## What a successful call appends -/

section Versions

variable {AccountId BlockNumber : Type} {env : Env AccountId BlockNumber}
  {origin : RawOrigin AccountId} {s s' : Storage BlockNumber}

/-- The bindings a credential keeps, and its being nontransferable. -/
def SameCredential (earlier later : CredentialVersion BlockNumber) : Prop :=
  earlier.subjectId = later.subjectId ∧ earlier.credentialType = later.credentialType ∧
    earlier.issuerSubjectId = later.issuerSubjectId

theorem SameCredential.trans {first second third : CredentialVersion BlockNumber}
    (before : SameCredential first second) (after : SameCredential second third) :
    SameCredential first third := by
  obtain ⟨subject, kind, issuer⟩ := before
  exact ⟨subject.trans after.1, kind.trans after.2.1, issuer.trans after.2.2⟩

theorem recordIdentityVersion_ok {subjectId : Id32} {details : IdentityDetails}
    (done : recordIdentityVersion env origin subjectId details s = .ok () s') :
    let value : IdentityVersion BlockNumber := { details with validFrom := env.blockNumber }
    History.Accepts s.identityHeads s.identityVersions subjectId value.version value ∧
      s'.identityHeads = s.identityHeads.insert subjectId value.version ∧
      s'.identityVersions = s.identityVersions.insert (subjectId, value.version) value ∧
      s'.credentialHeads = s.credentialHeads ∧ s'.credentialVersions = s.credentialVersions := by
  simp only [recordIdentityVersion, ensureOrigin_bind_ok, ensure_bind_ok, Dispatch.read_bind,
    ensureNextVersion_bind_ok, Dispatch.write_bind, depositEvent, Dispatch.write_apply] at done
  obtain ⟨_, _, absent, checked, done⟩ := done
  obtain rfl := (EStateM.Result.ok.inj done).2
  exact ⟨accepts_of_checked absent checked, rfl, rfl, rfl, rfl⟩

theorem recordCredentialVersion_ok {credentialId : Id32} {value : CredentialVersion BlockNumber}
    (done : recordCredentialVersion env origin credentialId value s = .ok () s') :
    History.Accepts s.credentialHeads s.credentialVersions credentialId value.version value ∧
      (∀ {prior}, History.current s.credentialHeads s.credentialVersions credentialId = some prior →
        SameCredential prior value) ∧
      value.nonTransferable = true ∧
      s'.credentialHeads = s.credentialHeads.insert credentialId value.version ∧
      s'.credentialVersions = s.credentialVersions.insert (credentialId, value.version) value ∧
      s'.identityHeads = s.identityHeads ∧ s'.identityVersions = s.identityVersions := by
  simp only [recordCredentialVersion, ensureOrigin_bind_ok, ensure_bind_ok, ensure_ok, and_true,
    Dispatch.read_bind, ensureNextVersion_bind_ok, Dispatch.write_bind, depositEvent,
    Dispatch.write_apply] at done
  obtain ⟨_, _, bound, absent, checked, done⟩ := done
  obtain rfl := (EStateM.Result.ok.inj done).2
  have fits : ∀ {prior}, History.current s.credentialHeads s.credentialVersions credentialId =
      some prior → SameCredential prior value := by
    intro prior currentEq
    obtain ⟨head, headEq, priorEq⟩ := Option.bind_eq_some_iff.mp currentEq
    obtain ⟨_, found, foundEq, _, same⟩ := checked.2 head headEq
    obtain rfl := Option.some.inj (priorEq.symm.trans foundEq)
    exact ⟨same.1.symm, same.2.1.symm, same.2.2.symm⟩
  exact ⟨accepts_of_checked absent checked, fits, bound, rfl, rfl, rfl, rfl⟩

/-- An identity carries no binding from one version to the next. -/
theorem identities : Family (@pallet AccountId BlockNumber) Storage.identityHeads
    Storage.identityVersions (fun value => value.version) fun _ _ => True where
  changed {env origin call s s'} done := by
    cases call with
    | recordIdentityVersion subjectId details =>
        obtain ⟨accepts, headsEq, versionsEq, _⟩ := recordIdentityVersion_ok done
        rw [headsEq, versionsEq]
        apply History.Change.append _ _ accepts
        intro prior _
        trivial
    | recordCredentialVersion credentialId value =>
        obtain ⟨_, _, _, _, _, headsEq, versionsEq⟩ := recordCredentialVersion_ok done
        rw [headsEq, versionsEq]
        exact .unchanged

theorem credentials : Family (@pallet AccountId BlockNumber) Storage.credentialHeads
    Storage.credentialVersions CredentialVersion.version SameCredential where
  changed {env origin call s s'} done := by
    cases call with
    | recordIdentityVersion subjectId details =>
        obtain ⟨_, _, _, headsEq, versionsEq⟩ := recordIdentityVersion_ok done
        rw [headsEq, versionsEq]
        exact .unchanged
    | recordCredentialVersion credentialId value =>
        obtain ⟨accepts, fits, _, headsEq, versionsEq, _⟩ := recordCredentialVersion_ok done
        rw [headsEq, versionsEq]
        exact History.Change.append _ _ accepts fits

end Versions

end Chlom.Identity
