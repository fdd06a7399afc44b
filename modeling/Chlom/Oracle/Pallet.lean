import Chlom.Frame
import Chlom.Library.Checked
import Chlom.Library.History
import Chlom.Library.StorageMap
import Chlom.Primitives

/-!
# The oracle pallet: signals and the review of cases

A signal may open a review case, and decisions revise the case afterwards.  Each
revision is kept in a versioned history, whose head version the map of cases
projects.  Cases that were stored before histories existed get their first
version together with their first new decision.
-/

namespace Chlom.Oracle

open Chlom.Frame

inductive SignalState where
  | reported | acknowledged | underReview | dismissed | confirmed | superseded
  deriving DecidableEq, Repr

inductive CaseState where
  | opened | triage | evidenceHold | review | resolved | dismissed | appealed | superseded
  deriving DecidableEq, Repr

/-- The states that a decision may put a case into. -/
def CaseState.Decided (state : CaseState) : Prop :=
  state = .resolved ∨ state = .dismissed ∨ state = .appealed ∨ state = .evidenceHold ∨
    state = .review

instance (state : CaseState) : Decidable state.Decided :=
  inferInstanceAs (Decidable (_ ∨ _))

/-- What a caller supplies of a signal. -/
structure SignalDetails where
  oracleSubjectId : Id32
  targetType : Id32
  targetId : Id32
  signalType : Id32
  riskBasisPoints : BasisPoints
  confidenceBasisPoints : BasisPoints
  recommendedAction : SignalAction
  evidenceHash : Id32
  recordHash : Id32
  deriving DecidableEq

structure OracleSignal extends SignalDetails where
  state : SignalState
  autonomousLegalEffect : Bool
  deriving DecidableEq

structure ReviewCase where
  signalId : Id32
  targetType : Id32
  targetId : Id32
  state : CaseState
  authorityRequired : AuthorityClass
  consequentialActionTaken : Bool
  decisionHash : Option Id32
  recordHash : Id32
  deriving DecidableEq

structure ReviewCaseRevision (BlockNumber : Type) where
  reviewCase : ReviewCase
  previousRecordHash : Option Id32
  recordedAt : BlockNumber
  deriving DecidableEq

instance reviewCaseRevision {BlockNumber : Type} :
    History.Revision (ReviewCaseRevision BlockNumber) Id32 where
  previousHash revision := revision.previousRecordHash
  recordHash revision := revision.reviewCase.recordHash

/-- What a caller supplies of a review decision. -/
structure DecisionDetails where
  reviewerAuthority : AuthorityClass
  state : CaseState
  decisionHash : Id32
  consequentialActionTaken : Bool
  recordHash : Id32
  deriving DecidableEq

inductive Event where
  | oracleSignalReported (signalId targetId : Id32) (riskBasisPoints : BasisPoints)
      (recommendedAction : SignalAction) (autonomousLegalEffect : Bool)
  | reviewCaseOpened (caseId signalId : Id32) (authorityRequired : AuthorityClass)
      (consequentialActionTaken : Bool)
  | reviewDecisionRecorded (caseId : Id32) (state : CaseState) (decisionHash : Id32)
      (consequentialActionTaken : Bool)
  | reviewCaseVersionRecorded (caseId : Id32) (version : U32)
      (previousRecordHash : Option Id32) (recordHash : Id32)
  deriving DecidableEq

inductive Error where
  | invalidIdentifier | invalidScore | recordAlreadyExists | signalMissing | caseMissing
  | decisionRequired | insufficientReviewAuthority | invalidRevision
  deriving DecidableEq, Repr

/-- The pallet's storage together with the events deposited so far. -/
structure Storage (BlockNumber : Type) where
  oracleSignals : StorageMap Id32 OracleSignal
  reviewCases : StorageMap Id32 ReviewCase
  reviewCaseHeads : StorageMap Id32 U32
  reviewCaseVersions : StorageMap (Id32 × U32) (ReviewCaseRevision BlockNumber)
  events : List Event

def Storage.empty (BlockNumber : Type) : Storage BlockNumber where
  oracleSignals := .empty
  reviewCases := .empty
  reviewCaseHeads := .empty
  reviewCaseVersions := .empty
  events := []

section Calls

variable {AccountId BlockNumber : Type}

/-- The body of an oracle call. -/
abbrev Body (BlockNumber α : Type) :=
  Dispatch (Storage BlockNumber) (DispatchError Error) α

def depositEvent (event : Event) : Body BlockNumber Unit :=
  .write fun s => { s with events := s.events ++ [event] }

def appendCaseRevision (env : Env AccountId BlockNumber) (caseId : Id32) (version : U32)
    (previousRecordHash : Option Id32) (reviewCase : ReviewCase) : Body BlockNumber Unit := do
  Dispatch.write fun s => { s with
    reviewCaseVersions := s.reviewCaseVersions.insert (caseId, version)
      { reviewCase, previousRecordHash, recordedAt := env.blockNumber } }
  Dispatch.write fun s => { s with
    reviewCaseHeads := s.reviewCaseHeads.insert caseId version }
  Dispatch.write fun s => { s with reviewCases := s.reviewCases.insert caseId reviewCase }
  depositEvent (.reviewCaseVersionRecorded caseId version previousRecordHash
    reviewCase.recordHash)

/-- The check of the identifier of a case to be opened. -/
def ensureNewCase (caseId : Id32) : Body BlockNumber Unit := do
  ensure (caseId ≠ ZERO_ID) Error.invalidIdentifier
  let reviewCase ← Dispatch.read fun s => s.reviewCases.get caseId
  let head ← Dispatch.read fun s => s.reviewCaseHeads.get caseId
  ensure (reviewCase.isNone ∧ head.isNone) Error.recordAlreadyExists

/-- The case that a signal opens. -/
def openedCase (signalId : Id32) (details : SignalDetails)
    (authorityRequired : AuthorityClass) : ReviewCase where
  signalId
  targetType := details.targetType
  targetId := details.targetId
  state := .opened
  authorityRequired
  consequentialActionTaken := false
  decisionHash := none
  recordHash := details.recordHash

/-- The first version of a case that a signal opens. -/
def openCase (env : Env AccountId BlockNumber) (signalId : Id32) (details : SignalDetails)
    (caseId : Id32) (authorityRequired : AuthorityClass) : Body BlockNumber Unit := do
  appendCaseRevision env caseId 1 none (openedCase signalId details authorityRequired)
  depositEvent (.reviewCaseOpened caseId signalId authorityRequired false)

/-- The origin is the one configured for signals.  The review case to be opened
is given by its identifier and the authority it requires. -/
def reportSignal (env : Env AccountId BlockNumber) (origin : RawOrigin AccountId)
    (signalId : Id32) (details : SignalDetails) (reviewCase : Option (Id32 × AuthorityClass)) :
    Body BlockNumber Unit := do
  ensureOrigin env origin
  ensure (signalId ≠ ZERO_ID ∧ details.oracleSubjectId ≠ ZERO_ID ∧
    details.targetType ≠ ZERO_ID ∧ details.targetId ≠ ZERO_ID ∧ details.signalType ≠ ZERO_ID ∧
    details.evidenceHash ≠ ZERO_ID ∧ details.recordHash ≠ ZERO_ID) Error.invalidIdentifier
  ensure (details.riskBasisPoints ≤ 10000 ∧ details.confidenceBasisPoints ≤ 10000)
    Error.invalidScore
  ensure (← Dispatch.read fun s => s.oracleSignals.get signalId).isNone
    Error.recordAlreadyExists
  Dispatch.ifSome reviewCase fun opened => ensureNewCase opened.1
  Dispatch.write fun s => { s with
    oracleSignals := s.oracleSignals.insert signalId
      { details with state := .reported, autonomousLegalEffect := false } }
  depositEvent (.oracleSignalReported signalId details.targetId details.riskBasisPoints
    details.recommendedAction false)
  Dispatch.ifSome reviewCase fun opened => openCase env signalId details opened.1 opened.2

/-- What a decision requires of the history of its case.  A case without a
history gets its first version here. -/
def ensureHistory (env : Env AccountId BlockNumber) (caseId : Id32) (prior : ReviewCase)
    (head : Option U32) (priorVersion : U32) : Body BlockNumber Unit :=
  match head with
  | none => do
      ensure (← Dispatch.read fun s => s.reviewCaseVersions.get (caseId, 1)).isNone
        Error.invalidRevision
      -- the block observed here is the time of custody, not of creation
      appendCaseRevision env caseId 1 none prior
  | some _ => do
      let previous ← okOr
        (← Dispatch.read fun s => s.reviewCaseVersions.get (caseId, priorVersion))
        Error.invalidRevision
      ensure (previous.reviewCase.recordHash = prior.recordHash) Error.invalidRevision

/-- The case as a decision leaves it. -/
def decidedCase (prior : ReviewCase) (details : DecisionDetails) : ReviewCase where
  signalId := prior.signalId
  targetType := prior.targetType
  targetId := prior.targetId
  state := details.state
  authorityRequired := prior.authorityRequired
  consequentialActionTaken := details.consequentialActionTaken
  decisionHash := some details.decisionHash
  recordHash := details.recordHash

/-- The origin is the one configured for reviews. -/
def recordReviewDecision (env : Env AccountId BlockNumber) (origin : RawOrigin AccountId)
    (caseId : Id32) (details : DecisionDetails) : Body BlockNumber Unit := do
  ensureOrigin env origin
  ensure (caseId ≠ ZERO_ID ∧ details.decisionHash ≠ ZERO_ID ∧ details.recordHash ≠ ZERO_ID)
    Error.invalidIdentifier
  let prior ← okOr (← Dispatch.read fun s => s.reviewCases.get caseId) Error.caseMissing
  ensure (details.reviewerAuthority.permits prior.authorityRequired)
    Error.insufficientReviewAuthority
  ensure details.state.Decided Error.decisionRequired
  ensure (details.recordHash ≠ prior.recordHash) Error.invalidRevision
  let head ← Dispatch.read fun s => s.reviewCaseHeads.get caseId
  let priorVersion := head.getD 1
  let nextVersion ← okOr (Checked.add priorVersion 1) Error.invalidRevision
  ensure (← Dispatch.read fun s => s.reviewCaseVersions.get (caseId, nextVersion)).isNone
    Error.invalidRevision
  ensureHistory env caseId prior head priorVersion
  appendCaseRevision env caseId nextVersion (some prior.recordHash) (decidedCase prior details)
  depositEvent (.reviewDecisionRecorded caseId details.state details.decisionHash
    details.consequentialActionTaken)

inductive Call where
  | reportSignal (signalId : Id32) (details : SignalDetails)
      (reviewCase : Option (Id32 × AuthorityClass))
  | recordReviewDecision (caseId : Id32) (details : DecisionDetails)

/-- The body of each call of the pallet.  A submission's verdict is the one of
the origin configured for its call. -/
def pallet : Pallet AccountId BlockNumber (Storage BlockNumber) Error Call :=
  fun env origin call => match call with
    | .reportSignal signalId details reviewCase =>
        reportSignal env origin signalId details reviewCase
    | .recordReviewDecision caseId details => recordReviewDecision env origin caseId details

/-- The chain after a list of inputs from given storage at a given block. -/
abbrev run [LinearOrder BlockNumber] (start : World BlockNumber (Storage BlockNumber))
    (inputs : List (Input AccountId BlockNumber Call)) :
    World BlockNumber (Storage BlockNumber) :=
  Frame.run pallet start inputs

end Calls

end Chlom.Oracle
