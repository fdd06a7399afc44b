import Chlom.Checkpoint.Pallet
import Chlom.Library.Spans

/-!
# The log of checkpoints

No storage holds the order in which checkpoints were recorded; it is the order
of the accepted calls.  Listed in that order the checkpoints form a chain of
spans linked by their roots, whose last entry is the head, and each anchor agrees
with the checkpoint it goes back to.
-/

namespace Chlom.Checkpoint

open Chlom.Frame

variable {AccountId BlockNumber : Type}

/-- The sequence numbers a checkpoint covers and the events it counts. -/
def span : Spans.Span (Id32 × CheckpointRecord) where
  start entry := entry.2.startSequenceId.toNat
  stop entry := entry.2.endSequenceId.toNat
  count entry := entry.2.eventCount.toNat

/-- A checkpoint comes after the one before it and names its root. -/
def Follows (first second : Id32 × CheckpointRecord) : Prop :=
  first.2.endSequenceId < second.2.startSequenceId ∧
    second.2.previousCheckpointRoot = some first.2.merkleRoot

/-- The checkpoints that a list of calls records. -/
def recorded (calls : List Call) : List (Id32 × CheckpointRecord) :=
  calls.filterMap fun call => match call with
    | .recordCheckpoint checkpointId value => some (checkpointId, value)
    | _ => none

/-- Everything a successful call can do. -/
inductive Effect (s : Storage) : Call → Storage → Prop
  | checkpoint (checkpointId : Id32) (value : CheckpointRecord)
      (valid : Spans.Valid span (checkpointId, value))
      (fresh : s.checkpoints.get checkpointId = none)
      (first : s.checkpointHead = none → value.previousCheckpointRoot = none)
      (later : ∀ priorId, s.checkpointHead = some priorId →
        ∃ prior, s.checkpoints.get priorId = some prior ∧
          Follows (priorId, prior) (checkpointId, value)) :
      Effect s (.recordCheckpoint checkpointId value)
        { s with
          checkpoints := s.checkpoints.insert checkpointId value
          checkpointHead := some checkpointId
          events := s.events ++ [.checkpointRecorded checkpointId value.startSequenceId
            value.endSequenceId value.eventCount value.merkleRoot value.signatureVerified] }
  | intent (intentId : Id32) (details : AnchorIntentDetails) (checkpoint : CheckpointRecord)
      (fresh : s.anchorIntents.get intentId = none)
      (found : s.checkpoints.get details.checkpointId = some checkpoint) :
      Effect s (.recordAnchorIntent intentId details)
        { s with
          anchorIntents := s.anchorIntents.insert intentId
            { details with root := checkpoint.merkleRoot }
          events := s.events ++ [.anchorIntentRecorded intentId details.checkpointId
            checkpoint.merkleRoot details.productionGated] }
  | receipt (receiptId : Id32) (details : AnchorReceiptDetails) (intent : AnchorIntent)
      (fresh : s.anchorReceipts.get receiptId = none)
      (found : s.anchorIntents.get details.intentId = some intent)
      (network : details.networkId = intent.targetNetwork) :
      Effect s (.recordAnchorReceipt receiptId details)
        { s with
          anchorReceipts := s.anchorReceipts.insert receiptId { details with root := intent.root }
          events := s.events ++ [.anchorReceiptRecorded receiptId details.intentId intent.root
            details.providerReadbackVerified] }

section Specifications

variable {env : Env AccountId BlockNumber} {origin : RawOrigin AccountId} {s s' : Storage}

theorem ensureFollows_bind_ok {value : CheckpointRecord} {next : Unit → Body Unit} :
    (ensureFollows value >>= next) s = .ok () s' ↔
      ((s.checkpointHead = none → value.previousCheckpointRoot = none) ∧
        ∀ priorId, s.checkpointHead = some priorId →
          ∃ prior, s.checkpoints.get priorId = some prior ∧
            prior.endSequenceId < value.startSequenceId ∧
            value.previousCheckpointRoot = some prior.merkleRoot) ∧ next () s = .ok () s' := by
  simp only [ensureFollows, bind_assoc, Dispatch.read_bind]
  cases s.checkpointHead with
  | none => simp
  | some priorId =>
      simp only [bind_assoc, Dispatch.read_bind, okOr_bind_ok, ensure_bind_ok, reduceCtorEq,
        false_implies, true_and, Option.some.injEq, forall_eq']
      constructor
      · rintro ⟨prior, found, after, named, rest⟩
        exact ⟨⟨prior, found, after, named⟩, rest⟩
      · rintro ⟨⟨prior, found, after, named⟩, rest⟩
        exact ⟨prior, found, after, named, rest⟩

/-- The range checks in natural numbers: the span never overflows, since a range
starts above zero. -/
theorem valid_of_checks {checkpointId : Id32} {value : CheckpointRecord} {length : U64}
    (range : 0 < value.startSequenceId ∧ value.startSequenceId ≤ value.endSequenceId ∧
      0 < value.eventCount)
    (computed : ((Checked.sub value.endSequenceId value.startSequenceId).bind fun difference =>
      Checked.add difference 1) = some length)
    (counted : value.eventCount.setWidth 64 ≤ length) :
    Spans.Valid span (checkpointId, value) := by
  obtain ⟨difference, subtracted, added⟩ := Option.bind_eq_some_iff.mp computed
  have subtractedNat := Checked.sub_eq_some.mp subtracted
  have addedNat := Checked.add_eq_some.mp added
  obtain ⟨started, ordered, positive⟩ := range
  rw [BitVec.lt_def] at started positive
  rw [BitVec.le_def] at ordered counted
  have small := value.eventCount.isLt
  have widened : (value.eventCount.setWidth 64).toNat = value.eventCount.toNat := by
    rw [BitVec.toNat_setWidth]
    apply Nat.mod_eq_of_lt
    omega
  have one : (1 : U64).toNat = 1 := rfl
  rw [one] at addedNat
  rw [widened] at counted
  exact
    { start_pos := started
      start_le_stop := ordered
      count_pos := positive
      count_le := by
        change value.eventCount.toNat ≤
          value.endSequenceId.toNat - value.startSequenceId.toNat + 1
        omega }

theorem recordCheckpoint_effect {checkpointId : Id32} {value : CheckpointRecord}
    (done : recordCheckpoint env origin checkpointId value s = .ok () s') :
    Effect s (.recordCheckpoint checkpointId value) s' := by
  simp only [recordCheckpoint, ensureOrigin_bind_ok, ensure_bind_ok, Dispatch.read_bind,
    okOr_bind_ok, ensureFollows_bind_ok, Dispatch.write_bind, depositEvent,
    Dispatch.write_apply] at done
  obtain ⟨_, _, range, length, computed, counted, _, absent, _, _, ⟨first, later⟩, done⟩ := done
  have fresh := Option.isNone_iff_eq_none.mp absent
  obtain rfl := (EStateM.Result.ok.inj done).2
  exact .checkpoint checkpointId value (valid_of_checks range computed counted) fresh first later

theorem recordAnchorIntent_effect {intentId : Id32} {details : AnchorIntentDetails}
    (done : recordAnchorIntent env origin intentId details s = .ok () s') :
    Effect s (.recordAnchorIntent intentId details) s' := by
  simp only [recordAnchorIntent, ensureOrigin_bind_ok, ensure_bind_ok, Dispatch.read_bind,
    okOr_bind_ok, Dispatch.write_bind, depositEvent, Dispatch.write_apply] at done
  obtain ⟨_, _, absent, _, checkpoint, found, done⟩ := done
  have fresh := Option.isNone_iff_eq_none.mp absent
  obtain rfl := (EStateM.Result.ok.inj done).2
  exact .intent intentId details checkpoint fresh found

theorem recordAnchorReceipt_effect {receiptId : Id32} {details : AnchorReceiptDetails}
    (done : recordAnchorReceipt env origin receiptId details s = .ok () s') :
    Effect s (.recordAnchorReceipt receiptId details) s' := by
  simp only [recordAnchorReceipt, ensureOrigin_bind_ok, ensure_bind_ok, Dispatch.read_bind,
    okOr_bind_ok, Dispatch.write_bind, depositEvent, Dispatch.write_apply] at done
  obtain ⟨_, _, absent, _, intent, found, network, done⟩ := done
  have fresh := Option.isNone_iff_eq_none.mp absent
  obtain rfl := (EStateM.Result.ok.inj done).2
  exact .receipt receiptId details intent fresh found network

/-- Every successful call has one of the listed effects. -/
theorem pallet_effect {call : Call} (done : pallet env origin call s = .ok () s') :
    Effect s call s' := by
  cases call with
  | recordCheckpoint => exact recordCheckpoint_effect done
  | recordAnchorIntent => exact recordAnchorIntent_effect done
  | recordAnchorReceipt => exact recordAnchorReceipt_effect done

end Specifications

/-! ## What the storage represents -/

/-- The checkpoints stored are those of the log, which is a linked chain of valid
spans that ends in the head. -/
structure Represents (log : List (Id32 × CheckpointRecord)) (s : Storage) : Prop where
  stored : ∀ checkpointId value, s.checkpoints.get checkpointId = some value ↔
    (checkpointId, value) ∈ log
  head : s.checkpointHead = log.getLast?.map Prod.fst
  valid : ∀ entry ∈ log, Spans.Valid span entry
  chain : log.IsChain Follows
  unlinked : ∀ entry, log.head? = some entry → entry.2.previousCheckpointRoot = none

/-- Every anchor agrees with the checkpoint it goes back to. -/
structure Anchored (s : Storage) : Prop where
  intents : ∀ {intentId intent}, s.anchorIntents.get intentId = some intent →
    ∃ checkpoint, s.checkpoints.get intent.checkpointId = some checkpoint ∧
      intent.root = checkpoint.merkleRoot
  receipts : ∀ {receiptId receipt}, s.anchorReceipts.get receiptId = some receipt →
    ∃ intent, s.anchorIntents.get receipt.intentId = some intent ∧
      receipt.root = intent.root ∧ receipt.networkId = intent.targetNetwork

/-- The second storage holds every record that the first one does. -/
structure Keeps (s s' : Storage) : Prop where
  checkpoints : ∀ checkpointId value, s.checkpoints.get checkpointId = some value →
    s'.checkpoints.get checkpointId = some value
  intents : ∀ intentId intent, s.anchorIntents.get intentId = some intent →
    s'.anchorIntents.get intentId = some intent
  receipts : ∀ receiptId receipt, s.anchorReceipts.get receiptId = some receipt →
    s'.anchorReceipts.get receiptId = some receipt

theorem Keeps.refl (s : Storage) : Keeps s s :=
  ⟨fun _ _ => id, fun _ _ => id, fun _ _ => id⟩

theorem Keeps.trans {s t u : Storage} (first : Keeps s t) (second : Keeps t u) : Keeps s u where
  checkpoints _ _ stored := second.checkpoints _ _ (first.checkpoints _ _ stored)
  intents _ _ stored := second.intents _ _ (first.intents _ _ stored)
  receipts _ _ stored := second.receipts _ _ (first.receipts _ _ stored)

section Steps

variable {log : List (Id32 × CheckpointRecord)} {calls : List Call} {call : Call}
  {s s' : Storage}

theorem represents_empty : Represents [] .empty where
  stored _ _ := by simp [Storage.empty]
  head := rfl
  valid _ member := by cases member
  chain := List.isChain_nil
  unlinked _ found := by cases found

theorem anchored_empty : Anchored .empty where
  intents stored := by cases stored
  receipts stored := by cases stored

theorem Effect.keeps (effect : Effect s call s') : Keeps s s' := by
  cases effect with
  | checkpoint checkpointId value _ fresh =>
      exact ⟨fun _ _ => s.checkpoints.get_insert_of_some _ fresh, fun _ _ => id, fun _ _ => id⟩
  | intent intentId details checkpoint fresh =>
      exact ⟨fun _ _ => id, fun _ _ => s.anchorIntents.get_insert_of_some _ fresh, fun _ _ => id⟩
  | receipt receiptId details intent fresh =>
      exact ⟨fun _ _ => id, fun _ _ => id, fun _ _ => s.anchorReceipts.get_insert_of_some _ fresh⟩

/-- Recording a checkpoint appends it to the log. -/
theorem Represents.append (represents : Represents log s) {checkpointId : Id32}
    {value : CheckpointRecord}
    (effect : Effect s (.recordCheckpoint checkpointId value) s') :
    Represents (log ++ [(checkpointId, value)]) s' := by
  cases effect with
  | checkpoint _ _ valid fresh first later =>
      refine ⟨?_, ?_, ?_, ?_, ?_⟩
      · intro other found
        simp only [List.mem_append, List.mem_singleton, Prod.mk.injEq,
          StorageMap.get_insert_eq_some, represents.stored]
        constructor
        · rintro (⟨rfl, rfl⟩ | ⟨_, member⟩)
          · exact .inr ⟨rfl, rfl⟩
          · exact .inl member
        · rintro (member | ⟨rfl, rfl⟩)
          · refine .inr ⟨?_, member⟩
            rintro rfl
            rw [(represents.stored other found).mpr member] at fresh
            cases fresh
          · exact .inl ⟨rfl, rfl⟩
      · simp
      · intro entry member
        rcases List.mem_append.mp member with old | new
        · exact represents.valid entry old
        · obtain rfl := List.mem_singleton.mp new
          exact valid
      · apply List.isChain_append.mpr
        refine ⟨represents.chain, List.isChain_singleton _, ?_⟩
        intro last lastMember next nextMember
        obtain rfl : (checkpointId, value) = next := by simpa using nextMember
        have lastEq : log.getLast? = some last := lastMember
        have headEq : s.checkpointHead = some last.1 := by rw [represents.head, lastEq]; rfl
        obtain ⟨prior, priorEq, follows⟩ := later last.1 headEq
        have lastStored := (represents.stored last.1 last.2).mpr (List.mem_of_getLast? lastEq)
        obtain rfl := Option.some.inj (lastStored.symm.trans priorEq)
        exact follows
      · intro entry entryEq
        cases log with
        | nil =>
            obtain rfl : (checkpointId, value) = entry := by simpa using entryEq
            apply first
            rw [represents.head]
            rfl
        | cons oldest rest => exact represents.unlinked entry entryEq

theorem Represents.effect (represents : Represents (recorded calls) s)
    (effect : Effect s call s') : Represents (recorded (calls ++ [call])) s' := by
  have split : recorded (calls ++ [call]) = recorded calls ++ recorded [call] :=
    List.filterMap_append
  rw [split]
  cases call with
  | recordCheckpoint checkpointId value => exact represents.append effect
  | recordAnchorIntent intentId details =>
      change Represents (recorded calls ++ []) s'
      rw [List.append_nil]
      cases effect
      exact ⟨represents.stored, represents.head, represents.valid, represents.chain,
        represents.unlinked⟩
  | recordAnchorReceipt receiptId details =>
      change Represents (recorded calls ++ []) s'
      rw [List.append_nil]
      cases effect
      exact ⟨represents.stored, represents.head, represents.valid, represents.chain,
        represents.unlinked⟩

theorem Anchored.effect (anchored : Anchored s) (effect : Effect s call s') : Anchored s' := by
  have keeps := effect.keeps
  have oldIntent : ∀ {intentId intent}, s.anchorIntents.get intentId = some intent →
      ∃ checkpoint, s'.checkpoints.get intent.checkpointId = some checkpoint ∧
        intent.root = checkpoint.merkleRoot := by
    intro intentId intent stored
    obtain ⟨checkpoint, found, root⟩ := anchored.intents stored
    exact ⟨checkpoint, keeps.checkpoints _ _ found, root⟩
  have oldReceipt : ∀ {receiptId receipt}, s.anchorReceipts.get receiptId = some receipt →
      ∃ intent, s'.anchorIntents.get receipt.intentId = some intent ∧
        receipt.root = intent.root ∧ receipt.networkId = intent.targetNetwork := by
    intro receiptId receipt stored
    obtain ⟨intent, found, agrees⟩ := anchored.receipts stored
    exact ⟨intent, keeps.intents _ _ found, agrees⟩
  cases effect with
  | checkpoint => exact ⟨oldIntent, oldReceipt⟩
  | intent intentId details checkpoint fresh found =>
      refine ⟨?_, oldReceipt⟩
      intro other intent stored
      rcases StorageMap.get_insert_eq_some.mp stored with ⟨_, rfl⟩ | ⟨_, before⟩
      · exact ⟨checkpoint, found, rfl⟩
      · exact oldIntent before
  | receipt receiptId details intent fresh found network =>
      refine ⟨oldIntent, ?_⟩
      intro other receipt stored
      rcases StorageMap.get_insert_eq_some.mp stored with ⟨_, rfl⟩ | ⟨_, before⟩
      · exact ⟨intent, found, rfl, network⟩
      · exact oldReceipt before

end Steps

/-! ## Runs from empty storage -/

section Runs

variable [LinearOrder BlockNumber]

theorem represents_run (genesis : BlockNumber) (inputs : List (Input AccountId BlockNumber Call)) :
    Represents (recorded (accepted (trace pallet ⟨genesis, .empty⟩ inputs)))
      (run genesis inputs).storage := by
  have invariant : LogInvariant (@pallet AccountId BlockNumber) fun calls s =>
      Represents (recorded calls) s :=
    ⟨fun represents done => represents.effect (pallet_effect done)⟩
  have start : Represents (recorded []) .empty := represents_empty
  exact invariant.run (w := ⟨genesis, .empty⟩) start inputs

theorem anchored_run (genesis : BlockNumber) (inputs : List (Input AccountId BlockNumber Call)) :
    Anchored (run genesis inputs).storage := by
  have invariant : Invariant (@pallet AccountId BlockNumber) fun _ s => Anchored s :=
    ⟨fun _ anchored => anchored, fun anchored done => anchored.effect (pallet_effect done)⟩
  exact invariant.run anchored_empty inputs

/-- Listed in the order in which they were recorded, the stored checkpoints cover
disjoint increasing ranges, each names the root of the one before it, the last one
is the head, and their event counts fit their ranges and add up to at most the
last number covered.  Every anchor receipt agrees with its intent and its
checkpoint, and no record changes afterwards. -/
theorem checkpoints_partition (genesis : BlockNumber)
    (inputs later : List (Input AccountId BlockNumber Call)) :
    let s := (run genesis inputs).storage
    let log := recorded (accepted (trace pallet ⟨genesis, .empty⟩ inputs))
    (∀ checkpointId value, s.checkpoints.get checkpointId = some value ↔
      (checkpointId, value) ∈ log) ∧
    (∀ entry ∈ log, entry.2.startSequenceId ≤ entry.2.endSequenceId) ∧
    (log.Pairwise fun first second => first.2.endSequenceId < second.2.startSequenceId) ∧
    (∀ entry, log.head? = some entry → entry.2.previousCheckpointRoot = none) ∧
    (log.IsChain fun first second =>
      second.2.previousCheckpointRoot = some first.2.merkleRoot) ∧
    s.checkpointHead = log.getLast?.map Prod.fst ∧
    (∀ entry ∈ log, 0 < entry.2.eventCount.toNat ∧
      entry.2.eventCount.toNat ≤
        entry.2.endSequenceId.toNat - entry.2.startSequenceId.toNat + 1) ∧
    (∀ last, log.getLast? = some last →
      (log.map fun entry => entry.2.eventCount.toNat).sum ≤ last.2.endSequenceId.toNat) ∧
    (∀ receiptId receipt, s.anchorReceipts.get receiptId = some receipt →
      ∃ intent checkpoint, s.anchorIntents.get receipt.intentId = some intent ∧
        s.checkpoints.get intent.checkpointId = some checkpoint ∧
        receipt.root = intent.root ∧ receipt.root = checkpoint.merkleRoot ∧
        receipt.networkId = intent.targetNetwork) ∧
    Keeps s (run genesis (inputs ++ later)).storage := by
  intro s log
  have represents : Represents log s := represents_run genesis inputs
  have anchored : Anchored s := anchored_run genesis inputs
  have spans : log.IsChain fun first second => span.stop first < span.start second :=
    represents.chain.imp fun _ _ follows => BitVec.lt_def.mp follows.1
  have disjoint := Spans.pairwise_of_chain represents.valid spans
  have kept : Keeps s (run genesis (inputs ++ later)).storage :=
    preorder_run Keeps.refl Keeps.trans (fun done => (pallet_effect done).keeps) inputs later
  refine ⟨represents.stored, ?_, ?_, represents.unlinked, ?_, represents.head, ?_, ?_, ?_, kept⟩
  · intro entry member
    exact BitVec.le_def.mpr (represents.valid entry member).start_le_stop
  · exact disjoint.imp fun before => BitVec.lt_def.mpr before
  · exact represents.chain.imp fun _ _ follows => follows.2
  · intro entry member
    have valid := represents.valid entry member
    exact ⟨valid.count_pos, valid.count_le⟩
  · intro last lastEq
    exact Spans.sum_le_stop represents.valid spans lastEq
  · intro receiptId receipt stored
    obtain ⟨intent, intentEq, root, network⟩ := anchored.receipts stored
    obtain ⟨checkpoint, checkpointEq, intentRoot⟩ := anchored.intents intentEq
    exact ⟨intent, checkpoint, intentEq, checkpointEq, root, root.trans intentRoot, network⟩

end Runs

end Chlom.Checkpoint
