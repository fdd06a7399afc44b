import Chlom.Dispatcher.Outcomes
import Chlom.Library.Locking.Learned

/-!
# Later calls of the second dispatcher

No call takes away a version of an operator or a stored result.  So once an account has an
operator and a result under a key, the calls of the second dispatcher for that key that it
issues from then on find both.
-/

namespace Chlom.Dispatcher

open Assurance (Text text Timestamp Uuid SqlError)
open Locking

variable {B : Builtins} {r : Request} {key : ReceiptKey} {t : Tables}

/-- An account has an operator, in some version. -/
def Known (uid : Uuid) (t : Tables) : Prop :=
  ∃ o ∈ t.operators, o.userId = uid

/-- The account of a key has an operator, and the key has a result. -/
structure Served (key : ReceiptKey) (t : Tables) : Prop where
  known : Known key.1 t
  stored : (priorOf t key).isSome = true

/-! ## What all calls write -/

/-- The kind has all updates that leave the operators and the stored results alone. -/
def Neutral (W : (Tables → Tables) → Prop) : Prop :=
  ∀ f : Tables → Tables, (∀ t, (f t).operators = t.operators ∧
    (f t).idempotencyReceipts = t.idempotencyReceipts) → W f

/-- The kind has all updates that store a result for an account. -/
def Storing (uid : Uuid) (W : (Tables → Tables) → Prop) : Prop :=
  ∀ row : IdempotencyReceipt, row.operatorUserId = uid →
    W fun t => { t with idempotencyReceipts := t.idempotencyReceipts ++ [row] }

section Writes

variable {W : (Tables → Tables) → Prop} {α : Type} {uid : Uuid}

theorem writes_ofCalled {called : Except SqlError α} : Writes W (ofCalled called) := by
  cases called <;> trivial

theorem writes_judge : Writes W (judge r) := by
  refine writes_okOr.bind fun uid => writes_ensure.bind fun _ => writes_query.bind fun latest => ?_
  refine writes_okOr.bind fun operator => writes_okOr.bind fun required => ?_
  exact writes_ensure.bind fun _ => writes_ensure.bind fun _ => writes_pure

theorem writes_dispatchV1 (neutral : Neutral W) : Writes W (dispatchV1 B r) := by
  refine writes_judge.bind fun a => ?_
  split
  · refine writes_ofCalled.bind fun result => writes_ofCalled.bind fun receiptEvent => ?_
    refine Writes.bind ?_ fun _ => writes_okOr.bind fun ok => writes_pure
    refine writes_acquire.bind fun _ => writes_query.bind fun _ => writes_ensure.bind fun _ => ?_
    refine writes_acquire.bind fun _ => writes_query.bind fun _ => writes_ensure.bind fun _ => ?_
    exact writes_update (neutral _ fun _ => ⟨rfl, rfl⟩)
  · exact writes_pure

theorem writes_mutateV2 (neutral : Neutral W) (storing : Storing uid W) {given : Text} :
    Writes W (mutateV2 B r uid given) := by
  refine writes_ensure.bind fun _ => writes_ensure.bind fun _ => writes_query.bind fun latest => ?_
  refine writes_okOr.bind fun operator => writes_acquire.bind fun _ => ?_
  refine writes_query.bind fun prior => ?_
  cases prior with
  | some prior => exact writes_ensure.bind fun _ => writes_pure
  | none =>
      refine (writes_dispatchV1 neutral).bind fun result => Writes.bind ?_ fun _ => writes_pure
      refine writes_acquire.bind fun _ => writes_query.bind fun _ => writes_ensure.bind fun _ => ?_
      refine writes_acquire.bind fun _ => writes_query.bind fun _ => writes_ensure.bind fun _ => ?_
      exact writes_update (storing _ rfl)

theorem writes_dispatchV2 (neutral : Neutral W) (storing : ∀ uid, Storing uid W)
    {given : Option Text} : Writes W (dispatchV2 B r given) := by
  refine writes_okOr.bind fun uid => ?_
  split
  · exact writes_mutateV2 neutral (storing uid)
  · exact writes_dispatchV1 neutral

theorem writes_countRequest (neutral : Neutral W) {action : Text} {clock : Timestamp} :
    Writes W (countRequest uid action clock) := by
  refine writes_acquire.bind fun _ => writes_query.bind fun stored => ?_
  refine Writes.bind ?_ fun _ => writes_ensure
  exact writes_update (neutral _ fun _ => ⟨rfl, rfl⟩)

theorem writes_mutateV3 (neutral : Neutral W) {given : Text} :
    Writes W (mutateV3 B r uid given) := by
  refine writes_ensure.bind fun _ => writes_acquire.bind fun _ => writes_query.bind fun stored => ?_
  cases stored with
  | some stored =>
      exact writes_ensure.bind fun _ => writes_ensure.bind fun _ => writes_okOr.bind fun _ =>
        writes_pure
  | none =>
      refine writes_acquire.bind fun _ => writes_query.bind fun _ => writes_ensure.bind fun _ => ?_
      refine Writes.bind (writes_update (neutral _ ?_)) fun _ => ?_
      · exact fun _ => ⟨rfl, rfl⟩
      · refine (writes_dispatchV1 neutral).bind fun response => ?_
        refine Writes.bind (writes_update (neutral _ ?_)) fun _ => writes_pure
        exact fun _ => ⟨rfl, rfl⟩

theorem writes_dispatchV3 (neutral : Neutral W) {given : Option Text} :
    Writes W (dispatchV3 B r given) := by
  refine writes_okOr.bind fun uid => writes_ensure.bind fun _ => ?_
  refine (writes_countRequest neutral).bind fun _ => ?_
  split
  · exact writes_mutateV3 neutral
  · exact (writes_dispatchV1 neutral).bind fun _ => writes_pure

theorem writes_appendOperator {row : OperatorVersion}
    (inserts : W fun t => { t with operators := t.operators.insert row }) :
    Writes W (appendOperator row) := by
  refine writes_acquire.bind fun _ => writes_query.bind fun _ => writes_ensure.bind fun _ => ?_
  exact (writes_update inserts).bind fun _ => writes_pure

theorem writes_perform (neutral : Neutral W) (storing : ∀ uid, Storing uid W)
    (inserts : ∀ row, W fun t => { t with operators := t.operators.insert row }) (call : Call) :
    Writes W (perform B call) := by
  cases call with
  | operator row => exact writes_appendOperator (inserts row)
  | v1 request => exact writes_dispatchV1 neutral
  | v2 request given => exact writes_dispatchV2 neutral storing
  | v3 request given => exact writes_dispatchV3 neutral

end Writes

/-! ## What all calls keep -/

theorem neutral_operators (operators : Table OperatorVersion.key) :
    Neutral (Keeps (·.operators = operators)) :=
  fun _ same t kept => (same t).1.trans kept

theorem storing_operators (operators : Table OperatorVersion.key) (uid : Uuid) :
    Storing uid (Keeps (·.operators = operators)) :=
  fun _ _ _ kept => kept

/-- No call takes away an operator or a stored result. -/
theorem steady_perform (call : Call) : Steady (Served key) (perform B call) := by
  apply writes_perform
  · rintro f same t ⟨known, stored⟩
    obtain ⟨operators, receipts⟩ := same t
    refine ⟨?_, ?_⟩
    · rwa [Known, operators]
    · rwa [priorOf, receipts]
  · rintro uid row _ t ⟨known, stored⟩
    refine ⟨known, ?_⟩
    rw [priorOf, List.find?_append, Option.isSome_or]
    exact Bool.or_eq_true_iff.mpr (.inl stored)
  · rintro row t ⟨⟨o, member, owned⟩, stored⟩
    exact ⟨⟨o, Table.mem_insert_of_mem member, owned⟩, stored⟩

/-! ## The operator behind a result -/

/-- The versions of the operator of an account, each under its own lock. -/
def operatorFacts (B : Builtins) (uid : Uuid) :
    Facts (parts B) { o : OperatorVersion // o.userId = uid } where
  name o := .operator o.1.key
  holds o := fun stored : Option OperatorVersion => stored = some o.1

theorem operatorFacts_known {uid : Uuid} : (operatorFacts B uid).Known t ↔ Known uid t := by
  constructor
  · rintro ⟨⟨o, owned⟩, found⟩
    exact ⟨o, Table.mem_iff_find.mpr found, owned⟩
  · rintro ⟨o, member, owned⟩
    exact ⟨⟨o, owned⟩, Table.mem_iff_find.mp member⟩

theorem steady_operatorFacts {uid : Uuid} (o : { o : OperatorVersion // o.userId = uid })
    (call : Call) : Steady ((operatorFacts B uid).At o) (perform B call) := by
  apply writes_perform
  · intro f same t (found : t.operators.find o.1.key = some o.1)
    change (f t).operators.find o.1.key = some o.1
    rw [(same t).1, found]
  · exact fun _ _ _ _ found => found
  · intro row t (found : t.operators.find o.1.key = some o.1)
    change (t.operators.insert row).find o.1.key = some o.1
    rw [Table.find_insert, found]
    rfl

/-- A key has a result. -/
def HasResult (key : ReceiptKey) (t : Tables) : Prop :=
  (priorOf t key).isSome = true

theorem neutral_hasResult : Neutral (Avoids (HasResult key)) := by
  intro f same t stored
  rwa [HasResult, priorOf, (same t).2] at stored

/-- A result for another account is none under the key. -/
theorem storing_hasResult {uid : Uuid} (other : uid ≠ key.1) :
    Storing uid (Avoids (HasResult key)) := by
  intro row named t stored
  have apart : row.key ≠ key := by
    rintro rfl
    exact other named.symm
  rw [HasResult, priorOf, List.find?_append, Option.isSome_or, Bool.or_eq_true_iff] at stored
  rcases stored with earlier | last
  · exact earlier
  · simp [apart] at last

theorem known_of_latestOperator {met : Text × Int → Int} {uid : Uuid} {o : OperatorVersion}
    (latest : latestOperator met t.operators uid = some o) : Known uid t := by
  obtain ⟨member, owned⟩ := List.mem_filter.mp (List.argmax_mem latest)
  exact ⟨o, member, of_decide_eq_true owned⟩

/-- The second dispatcher stores a result after it has read an operator of the account. -/
theorem learns_dispatchV2 {given : Option Text} :
    Learns (operatorFacts B key.1) (HasResult key) (dispatchV2 B r given) := by
  refine learns_okOr_bind fun uid _ => ?_
  split
  · by_cases own : uid = key.1
    · subst own
      refine learns_ensure_bind (learns_ensure_bind (learns_query_bind fun seen => ?_))
      cases latest : latestOperator r.met seen.operators key.1 with
      | none => exact .inr trivial
      | some operator => exact .inl (operatorFacts_known.mpr (known_of_latestOperator latest))
    · exact .of_writes (writes_mutateV2 neutral_hasResult (storing_hasResult own))
  · exact .of_writes (writes_dispatchV1 neutral_hasResult)

theorem learns_perform (call : Call) :
    Learns (operatorFacts B key.1) (HasResult key) (perform B call) := by
  cases call with
  | operator row => exact .of_writes (writes_appendOperator fun _ stored => stored)
  | v1 request => exact .of_writes (writes_dispatchV1 neutral_hasResult)
  | v2 request given => exact learns_dispatchV2
  | v3 request given => exact .of_writes (writes_dispatchV3 neutral_hasResult)

/-- Where a key has a committed result, its account has a committed operator. -/
theorem known_of_hasResult {Session : Type} [DecidableEq Session]
    (schedule : List (Action Call Session))
    (stored : HasResult key (sessions B schedule).committed) :
    Known key.1 (sessions B schedule).committed := by
  refine operatorFacts_known.mp (known_of_committed (guarded_perform (B := B))
    steady_operatorFacts learns_perform ?_ schedule stored)
  exact fun none => by cases none

/-! ## How later calls fail -/

theorem latestOperator_isSome (met : Text × Int → Int) {uid : Uuid} (known : Known uid t) :
    (latestOperator met t.operators uid).isSome = true := by
  obtain ⟨o, member, owned⟩ := known
  rw [Option.isSome_iff_ne_none]
  intro none_
  have nothing := List.argmax_eq_none.mp none_
  have found : o ∈ t.operators.rows.filter fun o => o.userId = uid :=
    List.mem_filter.mpr ⟨member, decide_eq_true owned⟩
  rw [nothing] at found
  cases found

/-- A call for a key that has a result does not miss its operator. -/
theorem raises_dispatchV2 {uid : Uuid} {given : Option Text} (signed : r.uid = some uid)
    (mutation : Mutation r.name) :
    Raises (Served (receiptKey B r uid (trimmedKey given))) (· ≠ operatorNotActive)
      (dispatchV2 B r given) := by
  rw [dispatchV2, signed]
  refine raises_okOr_bind_of_isSome rfl fun uid same => ?_
  obtain rfl := Option.some.inj same
  rw [if_pos mutation]
  refine (raises_ensure (by decide)).bind fun _ => (raises_ensure (by decide)).bind fun _ => ?_
  refine raises_query_bind fun seen served => ?_
  refine raises_okOr_bind_of_isSome (latestOperator_isSome _ served.known) fun operator _ => ?_
  refine raises_acquire.bind fun _ => raises_query_bind fun seen served => ?_
  obtain ⟨prior, found⟩ := Option.isSome_iff_exists.mp served.stored
  rw [receiptKey] at found
  rw [found]
  exact (raises_ensure (by decide)).bind fun _ => raises_pure

end Chlom.Dispatcher
