import Chlom.Oracle.Pallet

/-!
# The history of every review case

A case may have been stored before histories existed.  Whatever the storage held
then, once a case has a head its history is complete and linked, starts with the
case as it stood, and ends with the case as it stands.  A rejected call leaves
nothing behind.
-/

namespace Chlom.Oracle

open Chlom.Frame

/-- A decision leaves what a case is about as it was. -/
def SameCase (first second : ReviewCase) : Prop :=
  first.signalId = second.signalId ∧ first.targetType = second.targetType ∧
    first.targetId = second.targetId ∧ first.authorityRequired = second.authorityRequired

theorem SameCase.refl (reviewCase : ReviewCase) : SameCase reviewCase reviewCase :=
  ⟨rfl, rfl, rfl, rfl⟩

theorem SameCase.symm {first second : ReviewCase} (same : SameCase first second) :
    SameCase second first :=
  ⟨same.1.symm, same.2.1.symm, same.2.2.1.symm, same.2.2.2.symm⟩

theorem SameCase.trans {first second third : ReviewCase} (before : SameCase first second)
    (after : SameCase second third) : SameCase first third :=
  ⟨before.1.trans after.1, before.2.1.trans after.2.1, before.2.2.1.trans after.2.2.1,
    before.2.2.2.trans after.2.2.2⟩

theorem SameCase.decided (prior : ReviewCase) (details : DecisionDetails) :
    SameCase prior (decidedCase prior details) :=
  ⟨rfl, rfl, rfl, rfl⟩

variable {AccountId BlockNumber : Type}

/-- A revision changes the record of its case, and not what the case is about. -/
def Revises (earlier later : ReviewCaseRevision BlockNumber) : Prop :=
  later.reviewCase.recordHash ≠ earlier.reviewCase.recordHash ∧
    SameCase earlier.reviewCase later.reviewCase

/-! ## Rejected calls -/

section Rejected

variable (env : Env AccountId BlockNumber)

instance appendCaseRevision_infallible (caseId : Id32) (version : U32)
    (previousRecordHash : Option Id32) (reviewCase : ReviewCase) :
    Dispatch.Infallible
      (appendCaseRevision env caseId version previousRecordHash reviewCase) := by
  unfold appendCaseRevision depositEvent
  infer_instance

instance openCase_infallible (signalId : Id32) (details : SignalDetails) (caseId : Id32)
    (authorityRequired : AuthorityClass) :
    Dispatch.Infallible (openCase env signalId details caseId authorityRequired) := by
  unfold openCase depositEvent
  infer_instance

instance ensureNewCase_atomic (caseId : Id32) :
    Dispatch.Atomic (ensureNewCase caseId : Body BlockNumber Unit) := by
  unfold ensureNewCase
  repeat refine .check fun _ => ?_
  infer_instance

instance ensureNewCase_readOnly (caseId : Id32) :
    Dispatch.ReadOnly (ensureNewCase caseId : Body BlockNumber Unit) := by
  unfold ensureNewCase
  infer_instance

/-- The check of a history and the write of a missing first version are atomic
together. -/
instance ensureHistory_atomic (caseId : Id32) (prior : ReviewCase) (head : Option U32)
    (priorVersion : U32) :
    Dispatch.Atomic (ensureHistory env caseId prior head priorVersion) := by
  cases head with
  | none =>
      unfold ensureHistory
      repeat refine .check fun _ => ?_
      infer_instance
  | some head =>
      unfold ensureHistory
      repeat refine .check fun _ => ?_
      infer_instance

theorem reportSignal_atomic (origin : RawOrigin AccountId) (signalId : Id32)
    (details : SignalDetails) (reviewCase : Option (Id32 × AuthorityClass)) :
    Dispatch.Atomic (reportSignal env origin signalId details reviewCase) := by
  unfold reportSignal depositEvent
  repeat refine .check fun _ => ?_
  infer_instance

theorem recordReviewDecision_atomic (origin : RawOrigin AccountId) (caseId : Id32)
    (details : DecisionDetails) :
    Dispatch.Atomic (recordReviewDecision env origin caseId details) := by
  unfold recordReviewDecision depositEvent
  dsimp only
  repeat refine .check fun _ => ?_
  infer_instance

/-- A rejected call leaves nothing behind. -/
theorem pallet_rejected {origin : RawOrigin AccountId} {call : Call} {s s' : Storage BlockNumber}
    {failure : DispatchError Error} (failed : pallet env origin call s = .error failure s') :
    s' = s := by
  cases call with
  | reportSignal signalId details reviewCase =>
      exact (reportSignal_atomic env origin signalId details reviewCase).unchanged failed
  | recordReviewDecision caseId details =>
      exact (recordReviewDecision_atomic env origin caseId details).unchanged failed

end Rejected

/-! ## What a call does to the histories -/

/-- The cases, heads and versions after a run that started from the cases
`before`, without heads and versions. -/
structure Reviewed (before cases : StorageMap Id32 ReviewCase) (heads : StorageMap Id32 U32)
    (versions : StorageMap (Id32 × U32) (ReviewCaseRevision BlockNumber)) : Prop where
  linked : History.Linked heads versions
  projected : ∀ {caseId revision}, History.current heads versions caseId = some revision →
    cases.get caseId = some revision.reviewCase
  legacy : ∀ {caseId}, heads.get caseId = none → cases.get caseId = before.get caseId
  first : ∀ {caseId revision old}, versions.get (caseId, 1) = some revision →
    before.get caseId = some old → revision.reviewCase = old
  adjacent : History.Adjacent versions Revises

variable {before cases : StorageMap Id32 ReviewCase} {heads : StorageMap Id32 U32}
  {versions : StorageMap (Id32 × U32) (ReviewCaseRevision BlockNumber)}

/-- Without heads and versions, the cases are those stored before. -/
theorem reviewed_start (noHeads : ∀ caseId, heads.get caseId = none)
    (noVersions : ∀ entry, versions.get entry = none) : Reviewed cases cases heads versions where
  linked :=
    { absent := fun _ version => noVersions (_, version)
      positive := by simp [noHeads]
      stored := by simp [noHeads]
      first := by simp [noVersions]
      linked := by simp [noVersions] }
  projected := by simp [History.current, noHeads]
  legacy _ := rfl
  first := by simp [noVersions]
  adjacent := by
    intro caseId version next value later stored
    simp [noVersions] at stored

/-- The version right after the start of every case that has no head yet is the
first one, so an old case must be stored there as it stood. -/
theorem Reviewed.append (reviewed : Reviewed before cases heads versions) {caseId : Id32}
    {version : U32} {revision : ReviewCaseRevision BlockNumber}
    (next : History.Next heads versions caseId version revision)
    (fits : ∀ {prior}, History.current heads versions caseId = some prior → Revises prior revision)
    (agrees : heads.get caseId = none → ∀ old, before.get caseId = some old →
      revision.reviewCase = old) :
    Reviewed before (cases.insert caseId revision.reviewCase) (heads.insert caseId version)
      (versions.insert (caseId, version) revision) where
  linked := reviewed.linked.append (by decide) next
  projected {other found} currentEq := by
    by_cases same : other = caseId
    · subst same
      have stored : revision = found := by simpa [History.current] using currentEq
      simp [stored]
    · have older : History.current heads versions other = some found := by
        simpa [History.current, StorageMap.get_insert, same] using currentEq
      rw [StorageMap.get_insert_of_ne _ _ same]
      exact reviewed.projected older
  legacy {other} absent := by
    rw [StorageMap.get_insert] at absent
    split at absent
    · cases absent
    · next different =>
        rw [StorageMap.get_insert_of_ne _ _ different]
        exact reviewed.legacy absent
  first {other found old} stored oldEq := by
    rcases StorageMap.get_insert_eq_some.mp stored with ⟨same, rfl⟩ | ⟨_, older⟩
    · obtain ⟨rfl, rfl⟩ := Prod.mk.inj same
      cases next with
      | first absent => exact agrees absent old oldEq
      | later head prior headEq _ successor =>
          have positive := reviewed.linked.positive headEq
          have one : (1 : U32).toNat = 1 := rfl
          omega
    · exact reviewed.first older oldEq
  adjacent := reviewed.adjacent.append reviewed.linked next fits

section Calls

variable {env : Env AccountId BlockNumber} {origin : RawOrigin AccountId}
  {s s' : Storage BlockNumber}

/-- The storage keeps the invariant and every version stored before. -/
structure Advances (before : StorageMap Id32 ReviewCase) (s s' : Storage BlockNumber) :
    Prop where
  reviewed : Reviewed before s'.reviewCases s'.reviewCaseHeads s'.reviewCaseVersions
  kept : ∀ entry revision, s.reviewCaseVersions.get entry = some revision →
    s'.reviewCaseVersions.get entry = some revision

theorem Advances.trans {t : Storage BlockNumber} (first : Advances before s t)
    (second : Advances before t s') : Advances before s s' where
  reviewed := second.reviewed
  kept _ _ stored := second.kept _ _ (first.kept _ _ stored)

/-- Appending the next revision advances the storage, whatever event is deposited
and whatever signal is stored with it. -/
theorem Reviewed.advances
    (reviewed : Reviewed before s.reviewCases s.reviewCaseHeads s.reviewCaseVersions)
    {caseId : Id32} {version : U32} (revision : ReviewCaseRevision BlockNumber)
    (next : History.Next s.reviewCaseHeads s.reviewCaseVersions caseId version revision)
    (fits : ∀ {prior}, History.current s.reviewCaseHeads s.reviewCaseVersions caseId =
      some prior → Revises prior revision)
    (agrees : s.reviewCaseHeads.get caseId = none → ∀ old, before.get caseId = some old →
      revision.reviewCase = old)
    (signals : StorageMap Id32 OracleSignal) (events : List Event) :
    Advances before s
      { oracleSignals := signals
        reviewCases := s.reviewCases.insert caseId revision.reviewCase
        reviewCaseHeads := s.reviewCaseHeads.insert caseId version
        reviewCaseVersions := s.reviewCaseVersions.insert (caseId, version) revision
        events } where
  reviewed := reviewed.append next fits agrees
  kept _ _ stored := s.reviewCaseVersions.get_insert_of_some _ (next.fresh reviewed.linked) stored

theorem reportSignal_advances {signalId : Id32} {details : SignalDetails}
    {reviewCase : Option (Id32 × AuthorityClass)}
    (reviewed : Reviewed before s.reviewCases s.reviewCaseHeads s.reviewCaseVersions)
    (done : reportSignal env origin signalId details reviewCase s = .ok () s') :
    Advances before s s' := by
  cases reviewCase with
  | none =>
      simp only [reportSignal, depositEvent, ensureOrigin_bind_ok, ensure_bind_ok,
        Dispatch.read_bind, Dispatch.ifSome, pure_bind, Dispatch.write_bind,
        Dispatch.pure_apply] at done
      obtain ⟨_, _, _, _, done⟩ := done
      obtain rfl := (EStateM.Result.ok.inj done).2
      exact ⟨reviewed, fun _ _ stored => stored⟩
  | some opened =>
      simp only [reportSignal, depositEvent, ensureOrigin_bind_ok, ensure_bind_ok,
        Dispatch.read_bind, Dispatch.ifSome, ensureNewCase, bind_assoc, openCase,
        appendCaseRevision, Dispatch.write_bind, Dispatch.write_apply,
        Option.isNone_iff_eq_none] at done
      obtain ⟨_, _, _, _, _, ⟨caseAbsent, headAbsent⟩, done⟩ := done
      obtain rfl := (EStateM.Result.ok.inj done).2
      apply reviewed.advances
        ⟨openedCase signalId details opened.2, none, env.blockNumber⟩
        (.first headAbsent rfl rfl)
      · intro prior currentEq
        simp [History.current, headAbsent] at currentEq
      · intro _ old oldEq
        rw [← reviewed.legacy headAbsent, caseAbsent] at oldEq
        cases oldEq

/-- After the check of its history a case has a head, whose version is the case as
it stands. -/
theorem ensureHistory_advances {caseId : Id32} {prior : ReviewCase}
    (reviewed : Reviewed before s.reviewCases s.reviewCaseHeads s.reviewCaseVersions)
    (priorEq : s.reviewCases.get caseId = some prior)
    (done : ensureHistory env caseId prior (s.reviewCaseHeads.get caseId)
      ((s.reviewCaseHeads.get caseId).getD 1) s = .ok () s') :
    Advances before s s' ∧
      s'.reviewCaseHeads.get caseId = some ((s.reviewCaseHeads.get caseId).getD 1) ∧
      ∃ revision, revision.reviewCase = prior ∧
        s'.reviewCaseVersions.get (caseId, (s.reviewCaseHeads.get caseId).getD 1) =
          some revision := by
  cases headEq : s.reviewCaseHeads.get caseId with
  | none =>
      rw [headEq] at done
      simp only [ensureHistory, appendCaseRevision, depositEvent, ensure_bind_ok,
        Dispatch.read_bind, Dispatch.write_bind, Dispatch.write_apply] at done
      obtain ⟨_, done⟩ := done
      obtain rfl := (EStateM.Result.ok.inj done).2
      refine ⟨?_, by simp, ⟨prior, none, env.blockNumber⟩, rfl, by simp⟩
      apply reviewed.advances ⟨prior, none, env.blockNumber⟩
        (.first headEq rfl rfl)
      · intro found currentEq
        simp [History.current, headEq] at currentEq
      · intro _ old oldEq
        rw [← reviewed.legacy headEq, priorEq] at oldEq
        exact Option.some.inj oldEq
  | some head =>
      rw [headEq] at done
      simp only [ensureHistory, Dispatch.read_bind, okOr_bind_ok, ensure_ok,
        Option.getD_some] at done
      obtain ⟨revision, found, _, rfl⟩ := done
      refine ⟨⟨reviewed, fun _ _ stored => stored⟩, headEq, revision, ?_, found⟩
      have currentEq : History.current s'.reviewCaseHeads s'.reviewCaseVersions caseId =
          some revision := by
        simp [History.current, headEq, found]
      exact Option.some.inj ((reviewed.projected currentEq).symm.trans priorEq)

theorem recordReviewDecision_advances {caseId : Id32} {details : DecisionDetails}
    (reviewed : Reviewed before s.reviewCases s.reviewCaseHeads s.reviewCaseVersions)
    (done : recordReviewDecision env origin caseId details s = .ok () s') :
    Advances before s s' := by
  simp only [recordReviewDecision, ensureOrigin_bind_ok, ensure_bind_ok, Dispatch.read_bind,
    okOr_bind_ok] at done
  obtain ⟨_, _, prior, priorEq, _, _, changed, version, added, _, done⟩ := done
  obtain ⟨middle, checked, done⟩ := Dispatch.bind_unit_ok.mp done
  obtain ⟨advances, headEq, revision, rfl, found⟩ := ensureHistory_advances reviewed priorEq checked
  simp only [appendCaseRevision, depositEvent, bind_assoc, Dispatch.write_bind,
    Dispatch.write_apply] at done
  obtain rfl := (EStateM.Result.ok.inj done).2
  refine advances.trans (advances.reviewed.advances
    ⟨decidedCase revision.reviewCase details,
      some revision.reviewCase.recordHash, env.blockNumber⟩
    (.later _ revision headEq found (Checked.add_eq_some.mp added) rfl) ?_ ?_ _ _)
  · intro last currentEq
    rw [History.current, headEq, Option.bind_some, found] at currentEq
    obtain rfl := Option.some.inj currentEq
    exact ⟨changed, .decided _ _⟩
  · intro absent
    simp [headEq] at absent

theorem pallet_advances {call : Call}
    (reviewed : Reviewed before s.reviewCases s.reviewCaseHeads s.reviewCaseVersions)
    (done : pallet env origin call s = .ok () s') : Advances before s s' := by
  cases call with
  | reportSignal => exact reportSignal_advances reviewed done
  | recordReviewDecision => exact recordReviewDecision_advances reviewed done

end Calls

/-! ## Runs -/

section Runs

variable [LinearOrder BlockNumber] (before) in
theorem reviews_invariant : Invariant (@pallet AccountId BlockNumber) fun _ s =>
    Reviewed before s.reviewCases s.reviewCaseHeads s.reviewCaseVersions where
  passes _ reviewed := reviewed
  keeps reviewed done := (pallet_advances reviewed done).reviewed

variable [LinearOrder BlockNumber]

/-- In every run from storage whose cases have no histories yet, a case with a
head has a complete and linked history: it starts with the case as it stood, ends
with the case as it stands, always concerns the same thing under the same
authority, and is never rewritten.  A rejected call leaves nothing behind. -/
theorem reviews_versioned (genesis : BlockNumber) (start : Storage BlockNumber)
    (noHeads : ∀ caseId, start.reviewCaseHeads.get caseId = none)
    (noVersions : ∀ entry, start.reviewCaseVersions.get entry = none)
    (inputs : List (Input AccountId BlockNumber Call)) :
    let s := (run ⟨genesis, start⟩ inputs).storage
    (∀ caseId head, s.reviewCaseHeads.get caseId = some head →
      (∀ version, s.reviewCaseVersions.get (caseId, version) ≠ none ↔
        1 ≤ version ∧ version ≤ head) ∧
      (∃ revision, s.reviewCaseVersions.get (caseId, head) = some revision ∧
        s.reviewCases.get caseId = some revision.reviewCase) ∧
      (∀ revision, s.reviewCaseVersions.get (caseId, 1) = some revision →
        revision.previousRecordHash = none ∧
          ∀ legacy, start.reviewCases.get caseId = some legacy → revision.reviewCase = legacy) ∧
      (∀ version next earlier later,
        s.reviewCaseVersions.get (caseId, version) = some earlier →
          s.reviewCaseVersions.get (caseId, next) = some later →
            next.toNat = version.toNat + 1 →
              later.previousRecordHash = some earlier.reviewCase.recordHash ∧
                later.reviewCase.recordHash ≠ earlier.reviewCase.recordHash) ∧
      (∀ i j one other, s.reviewCaseVersions.get (caseId, i) = some one →
        s.reviewCaseVersions.get (caseId, j) = some other →
          SameCase one.reviewCase other.reviewCase) ∧
      (∀ later version revision, s.reviewCaseVersions.get (caseId, version) = some revision →
        (run ⟨genesis, start⟩ (inputs ++ later)).storage.reviewCaseVersions.get
          (caseId, version) = some revision)) ∧
    (∀ (env : Env AccountId BlockNumber) (origin : RawOrigin AccountId) (call : Call)
      (failure : DispatchError Error) (s' : Storage BlockNumber),
      pallet env origin call s = .error failure s' → s' = s) := by
  intro s
  have reviewed : Reviewed start.reviewCases s.reviewCases s.reviewCaseHeads
      s.reviewCaseVersions :=
    (reviews_invariant start.reviewCases).run (reviewed_start noHeads noVersions) inputs
  have linked := reviewed.linked
  have neighbours : History.Adjacent s.reviewCaseVersions fun earlier later =>
      SameCase earlier.reviewCase later.reviewCase := by
    intro caseId version next earlier later stored follows successor
    exact (reviewed.adjacent _ _ _ _ _ stored follows successor).2
  have sameCases := neighbours.related linked SameCase.trans
  refine ⟨?_, fun env origin call failure s' failed => pallet_rejected env failed⟩
  intro caseId head headEq
  obtain ⟨last, lastEq⟩ := linked.exists_current headEq
  have currentEq : History.current s.reviewCaseHeads s.reviewCaseVersions caseId = some last := by
    simp [History.current, headEq, lastEq]
  refine ⟨?_, ⟨last, lastEq, reviewed.projected currentEq⟩, ?_, ?_, ?_, ?_⟩
  · intro version
    rw [linked.stored headEq version, BitVec.le_def, BitVec.le_def]
    rfl
  · intro revision stored
    exact ⟨linked.first stored, fun legacy legacyEq => reviewed.first stored legacyEq⟩
  · intro version next earlier later stored follows successor
    exact ⟨linked.linked stored follows successor,
      (reviewed.adjacent _ _ _ _ _ stored follows successor).1⟩
  · intro i j one other oneEq otherEq
    exact sameCases.all (fun revision => .refl revision.reviewCase) SameCase.symm oneEq otherEq
  · intro later version revision stored
    rw [run, run_append]
    exact (reviews_invariant start.reviewCases).lasts
      (P := fun s => s.reviewCaseVersions.get (caseId, version) = some revision)
      (fun before done => (pallet_advances before done).kept _ _) reviewed stored later

end Runs

/-! ## A case from before histories existed -/

namespace Sample

def legacyCase : ReviewCase where
  signalId := .repeated 1
  targetType := .repeated 2
  targetId := .repeated 3
  state := .triage
  authorityRequired := .d2
  consequentialActionTaken := false
  decisionHash := none
  recordHash := .repeated 4

def legacy : Storage U32 :=
  { Storage.empty U32 with reviewCases := StorageMap.empty.insert (.repeated 5) legacyCase }

def decision : DecisionDetails where
  reviewerAuthority := .d3
  state := .resolved
  decisionHash := .repeated 6
  consequentialActionTaken := false
  recordHash := .repeated 7

def inputs : List (Input Id32 U32 Call) :=
  [.submit (fun _ => true) .root (.recordReviewDecision (.repeated 5) decision)]

end Sample

open Sample in
theorem reviews_versioned_sample :
    ∃ revision, (run ⟨9, legacy⟩ inputs).storage.reviewCaseVersions.get (.repeated 5, 1) =
      some revision ∧ revision.reviewCase = legacyCase := by
  have versioned := (reviews_versioned 9 legacy (fun _ => rfl) (fun _ => rfl) inputs).1
    (.repeated 5) 2 (by decide +kernel)
  obtain ⟨stored, _, first, _⟩ := versioned
  obtain ⟨revision, found⟩ := Option.ne_none_iff_exists'.mp ((stored 1).mpr (by decide))
  exact ⟨revision, found, (first revision found).2 legacyCase (by decide +kernel)⟩

end Chlom.Oracle
