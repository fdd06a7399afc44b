import Chlom.VersionedRecord

/-!
# The authority pallet: versioned grants of authority classes

A grant gives a subject an authority class for one role.  Each change of a grant
is a new version filed by the administrator, and only the newest version counts.
The arguments of a call are the key of the grant and the fields of the version.
-/

namespace Chlom.Authority

open Chlom.Frame

structure GrantKey where
  subjectId : Id32
  roleId : Id32
  deriving DecidableEq

structure AuthorityGrant (BlockNumber : Type) where
  version : U32
  class' : AuthorityClass
  active : Bool
  validUntil : Option BlockNumber
  previousRecordHash : Option Id32
  recordHash : Id32
  deriving DecidableEq

instance grantRevision {BlockNumber : Type} :
    History.Revision (AuthorityGrant BlockNumber) Id32 where
  previousHash := AuthorityGrant.previousRecordHash
  recordHash := AuthorityGrant.recordHash

inductive Event where
  | authorityVersionRecorded (subjectId roleId : Id32) (version : U32) (class' : AuthorityClass)
      (active : Bool) (recordHash : Id32)
  deriving DecidableEq

inductive Error where
  | invalidIdentifier | invalidVersion | previousHashMismatch | versionAlreadyExists
  deriving DecidableEq, Repr

/-- The pallet's storage together with the events deposited so far. -/
structure Storage (BlockNumber : Type) where
  grantHeads : StorageMap GrantKey U32
  grantVersions : StorageMap (GrantKey × U32) (AuthorityGrant BlockNumber)
  events : List Event

def Storage.empty (BlockNumber : Type) : Storage BlockNumber where
  grantHeads := .empty
  grantVersions := .empty
  events := []

section Calls

variable {AccountId BlockNumber : Type}

/-- The body of an authority call. -/
abbrev Body (BlockNumber α : Type) :=
  Dispatch (Storage BlockNumber) (DispatchError Error) α

def depositEvent (event : Event) : Body BlockNumber Unit :=
  .write fun s => { s with events := s.events ++ [event] }

def recordGrantVersion (env : Env AccountId BlockNumber) (origin : RawOrigin AccountId)
    (subjectId roleId : Id32) (value : AuthorityGrant BlockNumber) : Body BlockNumber Unit := do
  ensureOrigin env origin
  ensure (subjectId ≠ ZERO_ID ∧ roleId ≠ ZERO_ID ∧ value.recordHash ≠ ZERO_ID)
    Error.invalidIdentifier
  let key : GrantKey := ⟨subjectId, roleId⟩
  ensure (← Dispatch.read fun s => s.grantVersions.get (key, value.version)).isNone
    Error.versionAlreadyExists
  ensureNextVersion (← Dispatch.read fun s => s.grantHeads.get key)
    (fun s head => s.grantVersions.get (key, head)) AuthorityGrant.recordHash value.version
    value.previousRecordHash Error.invalidVersion Error.previousHashMismatch fun _ => pure ()
  Dispatch.write fun s => { s with
    grantVersions := s.grantVersions.insert (key, value.version) value }
  Dispatch.write fun s => { s with grantHeads := s.grantHeads.insert key value.version }
  depositEvent (.authorityVersionRecorded subjectId roleId value.version value.class' value.active
    value.recordHash)

inductive Call (BlockNumber : Type) where
  | recordGrantVersion (subjectId roleId : Id32) (value : AuthorityGrant BlockNumber)

/-- The body of each call of the pallet. -/
def pallet : Pallet AccountId BlockNumber (Storage BlockNumber) Error (Call BlockNumber) :=
  fun env origin call => match call with
    | .recordGrantVersion subjectId roleId value =>
        recordGrantVersion env origin subjectId roleId value

variable [LinearOrder BlockNumber]

/-- The class of the newest grant, while it is active and has not run out. -/
def activeClass (now : BlockNumber) (s : Storage BlockNumber) (subjectId roleId : Id32) :
    Option AuthorityClass :=
  let key : GrantKey := ⟨subjectId, roleId⟩
  (s.grantHeads.get key).bind fun head => (s.grantVersions.get (key, head)).bind fun grant =>
    if ¬ grant.active then none
    else if grant.validUntil.any fun limit => limit < now then none
    else some grant.class'

/-- The class in force is that of the newest grant, which is active and has not run out. -/
theorem activeClass_eq_some {now : BlockNumber} {s : Storage BlockNumber}
    {subjectId roleId : Id32} {class' : AuthorityClass} :
    activeClass now s subjectId roleId = some class' ↔
      ∃ head grant, s.grantHeads.get ⟨subjectId, roleId⟩ = some head ∧
        s.grantVersions.get (⟨subjectId, roleId⟩, head) = some grant ∧
        grant.class' = class' ∧ grant.active = true ∧
          ∀ limit, grant.validUntil = some limit → now ≤ limit := by
  simp only [activeClass, Option.bind_eq_some_iff]
  constructor
  · rintro ⟨head, headEq, grant, grantEq, inForce⟩
    split at inForce
    · cases inForce
    · next active =>
        split at inForce
        · cases inForce
        · next running =>
            refine ⟨head, grant, headEq, grantEq, Option.some.inj inForce, not_not.mp active, ?_⟩
            intro limit limitEq
            simpa [limitEq] using running
  · rintro ⟨head, grant, headEq, grantEq, classEq, active, running⟩
    refine ⟨head, headEq, grant, grantEq, ?_⟩
    rw [if_neg (not_not.mpr active), if_neg, classEq]
    cases limitEq : grant.validUntil with
    | none => simp
    | some limit => simpa using running limit limitEq

/-- The chain after a list of inputs from empty storage at a genesis block. -/
abbrev run (genesis : BlockNumber)
    (inputs : List (Input AccountId BlockNumber (Call BlockNumber))) :
    World BlockNumber (Storage BlockNumber) :=
  Frame.run pallet ⟨genesis, .empty BlockNumber⟩ inputs

end Calls

/-! ## Grants only grow -/

section Grants

variable {AccountId BlockNumber : Type}

theorem recordGrantVersion_ok {env : Env AccountId BlockNumber} {origin : RawOrigin AccountId}
    {subjectId roleId : Id32} {value : AuthorityGrant BlockNumber} {s s' : Storage BlockNumber}
    (done : recordGrantVersion env origin subjectId roleId value s = .ok () s') :
    env.permits origin = true ∧
      History.Accepts s.grantHeads s.grantVersions ⟨subjectId, roleId⟩ value.version value ∧
      s'.grantHeads = s.grantHeads.insert ⟨subjectId, roleId⟩ value.version ∧
      s'.grantVersions = s.grantVersions.insert (⟨subjectId, roleId⟩, value.version) value := by
  simp only [recordGrantVersion, ensureOrigin_bind_ok, ensure_bind_ok, Dispatch.read_bind,
    ensureNextVersion_bind_ok, Dispatch.write_bind, depositEvent, Dispatch.write_apply] at done
  obtain ⟨permitted, _, absent, checked, done⟩ := done
  obtain rfl := (EStateM.Result.ok.inj done).2
  exact ⟨permitted, accepts_of_checked absent checked, rfl, rfl⟩

/-- A grant carries no binding from one version to the next. -/
theorem grants : Family (@pallet AccountId BlockNumber) Storage.grantHeads Storage.grantVersions
    AuthorityGrant.version fun _ _ => True where
  changed {env origin call s s'} done := by
    cases call with
    | recordGrantVersion subjectId roleId value =>
        obtain ⟨_, accepts, headsEq, versionsEq⟩ := recordGrantVersion_ok done
        rw [headsEq, versionsEq]
        apply History.Change.append _ _ accepts
        intro prior _
        trivial

end Grants

end Chlom.Authority
