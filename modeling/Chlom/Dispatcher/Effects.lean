import Mathlib.Data.List.DropRight
import Chlom.Dispatcher.Functions

/-!
# What the dispatchers do

Every call writes only under the locks that it acquires.  The first dispatcher leaves the
stored requests alone; the other two answer from what is stored under a key, or store
what the first one answers.
-/

namespace Chlom.Dispatcher

open Assurance (Text text btrim lower Timestamp Uuid SqlError)
open Locking

variable {B : Builtins} {s s' : Tables} {held held' : List Lock}

/-! ## Names of actions -/

theorem toLower_of_upper {c : Char} (upper : c.val ≥ 'A'.val ∧ c.val ≤ 'Z'.val) :
    c.toLower.val = c.val + 32 := by
  have lowered : c.toLower = _ := dif_pos upper
  rw [lowered]
  rfl

theorem toLower_of_not_upper {c : Char} (other : ¬ (c.val ≥ 'A'.val ∧ c.val ≤ 'Z'.val)) :
    c.toLower = c :=
  dif_neg other

theorem toLower_eq_space {c : Char} : c.toLower = ' ' ↔ c = ' ' := by
  by_cases upper : c.val ≥ 'A'.val ∧ c.val ≤ 'Z'.val
  · have low := UInt32.le_iff_toNat_le.mp upper.1
    have high := UInt32.le_iff_toNat_le.mp upper.2
    rw [Char.ext_iff, Char.ext_iff, toLower_of_upper upper]
    simp [← UInt32.toNat_inj] at low high ⊢
    omega
  · rw [toLower_of_not_upper upper]

theorem toLower_toLower (c : Char) : c.toLower.toLower = c.toLower := by
  by_cases upper : c.val ≥ 'A'.val ∧ c.val ≤ 'Z'.val
  · have low := UInt32.le_iff_toNat_le.mp upper.1
    have high := UInt32.le_iff_toNat_le.mp upper.2
    refine toLower_of_not_upper ?_
    rw [toLower_of_upper upper]
    simp [UInt32.le_iff_toNat_le] at low high ⊢
    omega
  · rw [toLower_of_not_upper upper, toLower_of_not_upper upper]

theorem lower_btrim (value : Text) : lower (btrim value) = btrim (lower value) := by
  have spaces : (fun c : Char => decide (c = ' ')) ∘ Char.toLower = fun c => decide (c = ' ') :=
    funext fun c => decide_eq_decide.mpr toLower_eq_space
  simp only [lower, btrim, List.dropWhile_map, ← List.map_reverse, spaces]

theorem lower_lower (value : Text) : lower (lower value) = lower value := by
  simp only [lower, List.map_map]
  exact List.map_congr_left fun c _ => toLower_toLower c

theorem btrim_btrim (value : Text) : btrim (btrim value) = btrim value := by
  change List.rdropWhile _ (List.dropWhile _ (btrim value)) = _
  have kept : (btrim value).dropWhile (fun c => decide (c = ' ')) = btrim value := by
    cases trimmed : btrim value with
    | nil => rfl
    | cons c rest =>
        have front : btrim value <+: value.dropWhile fun c => decide (c = ' ') :=
          List.rdropWhile_prefix ..
        obtain ⟨more, whole⟩ := front
        have first := List.head?_dropWhile_not (fun c => decide (c = ' ')) value
        rw [← whole, trimmed] at first
        exact List.dropWhile_cons_of_neg (by simpa using first)
  rw [kept]
  exact List.rdropWhile_idempotent ..

/-- A dispatcher passes the request on under the same name. -/
@[simp]
theorem name_passOn (r : Request) : r.passOn.name = r.name := by
  change lower (btrim (lower (btrim _))) = lower (btrim _)
  rw [lower_btrim, lower_lower, lower_btrim, btrim_btrim]

/-! ## Locks -/

theorem local_insertOperator {row : OperatorVersion} (member : Lock.operator row.key ∈ held) :
    Local (parts B) held fun t => { t with operators := t.operators.insert row } := by
  apply Local.of_cases
  intro name
  cases name with
  | operator key =>
      by_cases same : row.key = key
      · subst same
        refine .inr ⟨member, fun stored => stored.or (some row), fun t => ?_⟩
        exact Table.find_insert.trans (by rw [if_pos rfl]; rfl)
      · refine .inl fun t => Table.find_insert.trans ?_
        rw [if_neg same, Option.or_none]
        rfl
  | _ => exact .inl fun _ => rfl

theorem local_putRateBucket {row : RateBucket} (member : Lock.rateBucket row.key ∈ held) :
    Local (parts B) held fun t => { t with rateBuckets := t.rateBuckets.put row } := by
  apply Local.of_cases
  intro name
  cases name with
  | rateBucket key =>
      by_cases same : row.key = key
      · subst same
        exact .inr ⟨member, fun _ => some row, fun _ => Table.find_put_self⟩
      · exact .inl fun _ => Table.find_put_of_ne same
  | _ => exact .inl fun _ => rfl

theorem local_putRegistry {row : RegistryRow} (member : Lock.registry row.key ∈ held)
    (advisory : Lock.advisory (registryLock B row.key) ∈ held) :
    Local (parts B) held fun t => { t with registry := t.registry.put row } := by
  apply Local.of_cases
  intro name
  cases name with
  | registry key =>
      by_cases same : row.key = key
      · subst same
        exact .inr ⟨member, fun _ => some row, fun _ => Table.find_put_self⟩
      · exact .inl fun _ => Table.find_put_of_ne same
  | advisory lock =>
      by_cases same : registryLock B row.key = lock
      · subst same
        refine .inr ⟨advisory, fun part =>
          (fun key => if row.key = key then some row else part.1 key, part.2), fun t => ?_⟩
        refine Prod.ext (funext fun key => ?_) rfl
        by_cases here : row.key = key
        · subst here
          simp [parts]
        · simp [parts, here, Table.find_put_of_ne here]
      · refine .inl fun t => Prod.ext (funext fun key => ?_) rfl
        by_cases here : row.key = key
        · subst here
          simp [parts, same]
        · simp [parts, Table.find_put_of_ne here]
  | _ => exact .inl fun _ => rfl

theorem local_appendDispatchReceipt {row : DispatchReceipt}
    (member : Lock.dispatchReceipt row.dispatchReceiptId ∈ held)
    (request : Lock.dispatchRequest row.requestId ∈ held) :
    Local (parts B) held fun t => { t with dispatchReceipts := t.dispatchReceipts ++ [row] } := by
  apply Local.of_cases
  intro name
  cases name with
  | dispatchReceipt id =>
      by_cases same : row.dispatchReceiptId = id
      · subst same
        exact .inr ⟨member, fun part : List DispatchReceipt => part ++ [row].filter _,
          fun _ => List.filter_append ..⟩
      · exact .inl fun _ => filter_concat (by simp [same])
  | dispatchRequest id =>
      by_cases same : row.requestId = id
      · subst same
        exact .inr ⟨request, fun part : List DispatchReceipt => part ++ [row].filter _,
          fun _ => List.filter_append ..⟩
      · exact .inl fun _ => filter_concat (by simp [same])
  | _ => exact .inl fun _ => rfl

theorem local_appendIdempotencyReceipt {row : IdempotencyReceipt}
    (member : Lock.idempotencyReceipt row.idempotencyReceiptId ∈ held)
    (keyed : Lock.idempotencyKey row.key ∈ held)
    (advisory : Lock.advisory (receiptLock B row.key) ∈ held) :
    Local (parts B) held fun t =>
      { t with idempotencyReceipts := t.idempotencyReceipts ++ [row] } := by
  apply Local.of_cases
  intro name
  cases name with
  | idempotencyReceipt id =>
      by_cases same : row.idempotencyReceiptId = id
      · subst same
        exact .inr ⟨member, fun part : List IdempotencyReceipt => part ++ [row].filter _,
          fun _ => List.filter_append ..⟩
      · exact .inl fun _ => filter_concat (by simp [same])
  | idempotencyKey key =>
      by_cases same : row.key = key
      · subst same
        exact .inr ⟨keyed, fun part : List IdempotencyReceipt => part ++ [row].filter _,
          fun _ => List.filter_append ..⟩
      · exact .inl fun _ => filter_concat (by simp [same])
  | advisory lock =>
      by_cases same : receiptLock B row.key = lock
      · subst same
        exact .inr ⟨advisory, fun part => (part.1, part.2 ++ [row].filter _),
          fun _ => Prod.ext rfl (List.filter_append ..)⟩
      · exact .inl fun _ => Prod.ext rfl (filter_concat (by simp [same]))
  | _ => exact .inl fun _ => rfl

@[simp]
theorem placeholder_key {r : Request} {key : RegistryKey} : (placeholder B r key).key = key :=
  rfl

@[simp]
theorem completed_key {r : Request} {key : RegistryKey} {response : Json} :
    (completed B r key response).key = key :=
  rfl

@[simp]
theorem receiptOf_key {r : Request} {key : ReceiptKey} {subject : Text} {result : Json} :
    (receiptOf B r key subject result).key = key :=
  rfl

section Safe

variable {ends : List Lock → Json → Prop} {r : Request} {uid : Uuid}

theorem safe_ofCalled {α : Type} {ends : List Lock → α → Prop} {called : Except SqlError α} :
    Safe (parts B) ends held (ofCalled called) ↔ ∀ value, called = .ok value → ends held value := by
  cases called <;> simp [ofCalled]

theorem safe_insertDispatchReceipt {ends : List Lock → Unit → Prop} {row : DispatchReceipt}
    (every : ∀ more, held ⊆ more → ends more ()) :
    Safe (parts B) ends held (insertDispatchReceipt row) := by
  simp only [insertDispatchReceipt, safe_bind, safe_acquire, safe_query, safe_ensure, safe_update]
  intro _ _ _ _
  exact ⟨local_appendDispatchReceipt (by simp) (by simp), every _ fun _ member => by simp [member]⟩

/-- The first dispatcher is safe under any locks, and gives none of them back. -/
theorem safe_dispatchV1 (every : ∀ more value, held ⊆ more → ends more value) :
    Safe (parts B) ends held (dispatchV1 B r) := by
  simp only [dispatchV1, judge, safe_bind, safe_okOr, safe_query, safe_ensure, safe_pure]
  intro uid _ _ _ operator _ required _ _ _
  split
  · simp only [execute, safe_bind, safe_ofCalled]
    intro result _ receiptEvent _
    apply safe_insertDispatchReceipt
    intro more subset
    simp only [safe_okOr, safe_pure]
    exact fun ok _ => every more _ subset
  · exact every held _ (List.Subset.refl held)

theorem safe_mutateV2 {key : Text} : Safe (parts B) (fun _ _ => True) held (mutateV2 B r uid key) := by
  simp only [mutateV2, safe_bind, safe_ensure, safe_query, safe_okOr, safe_acquire]
  intro _ _ _ operator _ seen
  split
  · simp only [againV2, safe_bind, safe_ensure, safe_pure, implies_true]
  · simp only [firstV2, safe_bind]
    apply safe_dispatchV1
    intro more result subset
    simp only [insertIdempotencyReceipt, safe_bind, safe_acquire, safe_query, safe_ensure,
      safe_update, safe_pure]
    intro _ _ _ _
    refine ⟨local_appendIdempotencyReceipt (by simp) (by simp) ?_, trivial⟩
    have advisory := subset List.mem_cons_self
    exact List.mem_cons_of_mem _ (List.mem_cons_of_mem _ advisory)

theorem safe_countRequest {ends : List Lock → Unit → Prop} {action : Text} {clock : Timestamp}
    (every : ∀ more, held ⊆ more → ends more ()) :
    Safe (parts B) ends held (countRequest uid action clock) := by
  simp only [countRequest, safe_bind, safe_acquire, safe_query, safe_update, safe_ensure]
  intro _
  exact ⟨local_putRateBucket (by simp [RateBucket.key]),
    fun _ => every _ (List.subset_cons_self _ held)⟩

theorem safe_mutateV3 {key : Text} : Safe (parts B) (fun _ _ => True) held (mutateV3 B r uid key) := by
  simp only [mutateV3, safe_bind, safe_ensure, safe_query, safe_acquire]
  intro _ seen
  split
  · simp only [againV3, safe_bind, safe_ensure, safe_okOr, safe_pure, implies_true]
  · simp only [firstV3, safe_bind, safe_acquire, safe_query, safe_ensure, safe_update, safe_pure]
    intro _ _
    refine ⟨local_putRegistry (by simp) (by simp), ?_⟩
    apply safe_dispatchV1
    intro more response subset
    exact ⟨local_putRegistry (subset (by simp)) (subset (by simp)), trivial⟩

theorem guarded_perform (call : Call) : Guarded (parts B) (perform B call) := by
  unfold Guarded
  cases call with
  | operator row =>
      simp only [perform, appendOperator, safe_bind, safe_acquire, safe_query, safe_ensure,
        safe_update, safe_pure]
      exact fun _ _ => ⟨local_insertOperator (by simp), trivial⟩
  | v1 request => exact safe_dispatchV1 fun _ _ _ => trivial
  | v2 request key =>
      simp only [perform, dispatchV2, safe_bind, safe_okOr]
      intro uid _
      split
      · exact safe_mutateV2
      · exact safe_dispatchV1 fun _ _ _ => trivial
  | v3 request key =>
      simp only [perform, dispatchV3, safe_bind, safe_okOr, safe_ensure]
      intro uid _ _
      apply safe_countRequest
      intro more _
      split
      · exact safe_mutateV3
      · simp only [readV3, safe_bind, safe_pure]
        exact safe_dispatchV1 fun _ _ _ => trivial

end Safe

/-! ## The first dispatcher -/

variable {r : Request} {answer : Json}

/-- The listed actions but the two reads change something. -/
theorem requirement_mutation {action : Text} {required : Requirement}
    (listed : requirement action = some required) : required.mutation = decide (Mutation action) := by
  obtain ⟨entry, found, rfl⟩ := Option.map_eq_some_iff.mp listed
  have every : ∀ entry ∈ requirements, entry.2.mutation = decide (Mutation entry.1) := by decide
  have named : entry.1 = action := by simpa using List.find?_some found
  rw [← named]
  exact every entry (List.mem_of_find?_eq_some found)

theorem runs_ofCalled {α : Type} {called : Except SqlError α} {value : α} :
    Runs (parts B) (ofCalled called) s held ⟨s', held', .ok value⟩ ↔
      called = .ok value ∧ s' = s ∧ held' = held := by
  cases called with
  | ok found =>
      rw [ofCalled, runs_pure, Ended.mk.injEq]
      simp only [Except.ok.injEq]
      tauto
  | error failure => simp [ofCalled]

theorem insertDispatchReceipt_ok {row : DispatchReceipt}
    (runs : Runs (parts B) (insertDispatchReceipt row) s held ⟨s', held', .ok ()⟩) :
    s' = { s with dispatchReceipts := s.dispatchReceipts ++ [row] } := by
  rw [insertDispatchReceipt, runs_acquire_bind, runs_query_bind] at runs
  obtain ⟨_, _, runs⟩ := runs
  rw [runs_ensure_bind_ok, runs_acquire_bind, runs_query_bind] at runs
  obtain ⟨_, _, _, runs⟩ := runs
  obtain ⟨_, ended⟩ := runs_ensure_bind_ok.mp runs
  cases ended
  rfl

/-- What the first dispatcher does: a mutation leaves one receipt and answers with an
object, and a read leaves nothing. -/
theorem dispatchV1_ok (runs : Runs (parts B) (dispatchV1 B r) s held ⟨s', held', .ok answer⟩) :
    Mutation r.name ∧ (∃ row, s' = { s with dispatchReceipts := s.dispatchReceipts ++ [row] }) ∧
        (∃ fields, answer = .object fields) ∨
      ¬ Mutation r.name ∧ s' = s := by
  rw [dispatchV1, runs_bind_ok] at runs
  obtain ⟨middle, held₁, a, admitted, runs⟩ := runs
  rw [judge, runs_okOr_bind_ok] at admitted
  obtain ⟨uid, _, admitted⟩ := admitted
  rw [runs_ensure_bind_ok, runs_query_bind] at admitted
  obtain ⟨_, seen, _, admitted⟩ := admitted
  simp only [runs_okOr_bind_ok, runs_ensure_bind_ok] at admitted
  obtain ⟨operator, _, required, listed, _, _, ended⟩ := admitted
  cases ended
  have mutation := requirement_mutation listed
  dsimp only at runs
  split at runs
  · next changes =>
      rw [changes] at mutation
      refine .inl ⟨of_decide_eq_true mutation.symm, ?_⟩
      rw [execute, runs_bind_ok] at runs
      obtain ⟨_, _, result, called, runs⟩ := runs
      obtain ⟨_, rfl, rfl⟩ := runs_ofCalled.mp called
      dsimp only at runs
      rw [runs_bind_ok] at runs
      obtain ⟨_, _, receiptEvent, called, runs⟩ := runs
      obtain ⟨_, rfl, rfl⟩ := runs_ofCalled.mp called
      rw [runs_bind_ok] at runs
      obtain ⟨_, _, _, inserted, runs⟩ := runs
      obtain rfl := insertDispatchReceipt_ok inserted
      rw [runs_okOr_bind_ok] at runs
      obtain ⟨ok, _, ended⟩ := runs
      cases ended
      exact ⟨⟨_, rfl⟩, _, rfl⟩
  · next reads =>
      rw [Bool.not_eq_true] at reads
      rw [reads] at mutation
      cases runs
      exact .inr ⟨of_decide_eq_false mutation.symm, rfl⟩

end Chlom.Dispatcher
