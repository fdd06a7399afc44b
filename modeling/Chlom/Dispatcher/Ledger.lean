import Chlom.Dispatcher.Outcomes

/-!
# What is stored under a key, and by whom

An answered call that is no replay stores its answer under its key, where nothing was
stored before.  So after any calls, one after the other, each key has the answer of the
one call that carried its mutation out, or none.
-/

namespace Chlom.Dispatcher

open Assurance (Text text Timestamp Uuid SqlError)
open Locking

variable {B : Builtins} {s s' : Tables} {held held' : List Lock} {r : Request} {answer : Json}

/-! ## Calls that carry a mutation out -/

abbrev Entry := Call × Json

/-- An answer that says it is no replay. -/
def fresh (answer : Json) : Bool :=
  match answer.get (text "idempotent_replay") with
  | some (.bool replay) => !replay
  | _ => false

/-- A call of the third dispatcher for a mutation under a key. -/
def namesV3 (key : RegistryKey) : Call → Bool
  | .v3 r k => decide (Mutation r.name ∧ r.uid = some key.1 ∧ trimmedKey k = key.2)
  | _ => false

/-- A call of the second dispatcher for a mutation under a key. -/
def namesV2 (B : Builtins) (key : ReceiptKey) : Call → Bool
  | .v2 r k => decide (Mutation r.name ∧ r.uid = some key.1 ∧
      receiptKey B r key.1 (trimmedKey k) = key)
  | _ => false

def executesV3 (key : RegistryKey) (entry : Entry) : Bool :=
  namesV3 key entry.1 && fresh entry.2

def executesV2 (B : Builtins) (key : ReceiptKey) (entry : Entry) : Bool :=
  namesV2 B key entry.1 && fresh entry.2

/-- The first dispatcher carried out the mutation of a call. -/
def executes : Entry → Bool
  | (.operator _, _) => false
  | (.v1 r, _) => decide (Mutation r.name)
  | (.v2 r _, answer) => decide (Mutation r.name) && fresh answer
  | (.v3 r _, answer) => decide (Mutation r.name) && fresh answer

theorem namesV3_iff {key : RegistryKey} {k : Option Text} :
    namesV3 key (.v3 r k) = true ↔
      Mutation r.name ∧ r.uid = some key.1 ∧ trimmedKey k = key.2 :=
  decide_eq_true_iff

theorem namesV2_iff {key : ReceiptKey} {k : Option Text} :
    namesV2 B key (.v2 r k) = true ↔
      Mutation r.name ∧ r.uid = some key.1 ∧ receiptKey B r key.1 (trimmedKey k) = key :=
  decide_eq_true_iff

theorem executes_of_executesV3 {key : RegistryKey} {entry : Entry}
    (executed : executesV3 key entry = true) : executes entry = true := by
  obtain ⟨call, answer⟩ := entry
  rw [executesV3, Bool.and_eq_true] at executed
  obtain ⟨named, flag⟩ := executed
  cases call with
  | v3 r k => simp [executes, (namesV3_iff.mp named).1, flag]
  | _ => cases named

theorem executes_of_executesV2 {key : ReceiptKey} {entry : Entry}
    (executed : executesV2 B key entry = true) : executes entry = true := by
  obtain ⟨call, answer⟩ := entry
  rw [executesV2, Bool.and_eq_true] at executed
  obtain ⟨named, flag⟩ := executed
  cases call with
  | v2 r k => simp [executes, (namesV2_iff.mp named).1, flag]
  | _ => cases named

/-! ## Answers -/

/-- A field of the second of two documents is the one of both, when it is found there. -/
theorem fresh_concat_replay {response : Json} {fields : List (Text × Json)}
    (flag : Json.field (text "idempotent_replay") fields = some (.bool true)) :
    fresh (response.concat (.object fields)) = false := by
  cases response with
  | object first => rw [fresh, Json.get_concat, flag]; rfl
  | _ => rfl

theorem fresh_concat_first {first fields : List (Text × Json)}
    (flag : Json.field (text "idempotent_replay") fields = some (.bool false)) :
    fresh ((Json.object first).concat (.object fields)) = true := by
  rw [fresh, Json.get_concat, flag]
  rfl

theorem fresh_replayV2 {row : IdempotencyReceipt} : fresh (replayV2 B row) = false :=
  fresh_concat_replay rfl

theorem fresh_replayV3 {row : RegistryRow} {response : Json} {limit : Nat} :
    fresh (replayV3 B row response limit) = false :=
  fresh_concat_replay rfl

theorem fresh_answerV2 {row : IdempotencyReceipt} {fields : List (Text × Json)}
    (object : row.result = .object fields) : fresh (answerV2 row) = true := by
  rw [answerV2, object]
  exact fresh_concat_first rfl

theorem fresh_answerV3 {key : Text} {fields : List (Text × Json)} {limit : Nat} :
    fresh (answerV3 B key (.object fields) limit) = true :=
  fresh_concat_first rfl

/-! ## What an answered call leaves -/

/-- What a call that answers does to the stored requests and the receipts. -/
inductive Effect (B : Builtins) (s s' : Tables) : Entry → Prop
  | quiet {entry} (silent : executes entry = false) (registry : s'.registry = s.registry)
      (receipts : s'.idempotencyReceipts = s.idempotencyReceipts)
      (dispatched : s'.dispatchReceipts.length = s.dispatchReceipts.length) : Effect B s s' entry
  | direct {request reply} (mutation : Mutation request.name) (registry : s'.registry = s.registry)
      (receipts : s'.idempotencyReceipts = s.idempotencyReceipts)
      (dispatched : s'.dispatchReceipts.length = s.dispatchReceipts.length + 1) :
      Effect B s s' (.v1 request, reply)
  | firstV2 {first k uid subject fields} (mutation : Mutation first.name)
      (signed : first.uid = some uid) (present : trimmedKey k ≠ [])
      (short : (trimmedKey k).length ≤ 128)
      (free : priorOf s (receiptKey B first uid (trimmedKey k)) = none)
      (registry : s'.registry = s.registry)
      (receipts : s'.idempotencyReceipts = s.idempotencyReceipts ++
        [receiptOf B first (receiptKey B first uid (trimmedKey k)) subject (.object fields)])
      (dispatched : s'.dispatchReceipts.length = s.dispatchReceipts.length + 1) :
      Effect B s s' (.v2 first k, answerV2
        (receiptOf B first (receiptKey B first uid (trimmedKey k)) subject (.object fields)))
  | firstV3 {first k uid fields} (mutation : Mutation first.name) (signed : first.uid = some uid)
      (small : first.document.octets ≤ 1048576) (valid : ValidKey (trimmedKey k))
      (free : s.registry.find (uid, trimmedKey k) = none)
      (registry : s'.registry =
        (s.registry.put (placeholder B first (uid, trimmedKey k))).put
          (completed B first (uid, trimmedKey k) (.object fields)))
      (receipts : s'.idempotencyReceipts = s.idempotencyReceipts)
      (dispatched : s'.dispatchReceipts.length = s.dispatchReceipts.length + 1) :
      Effect B s s' (.v3 first k,
        answerV3 B (trimmedKey k) (.object fields) (rateLimit first.name))

theorem appendOperator_ok {row : OperatorVersion}
    (runs : Runs (parts B) (appendOperator row) s held ⟨s', held', .ok answer⟩) :
    s' = { s with operators := s.operators.insert row } := by
  rw [appendOperator, runs_acquire_bind, runs_query_bind] at runs
  obtain ⟨_, _, runs⟩ := runs
  rw [runs_ensure_bind_ok, runs_update_bind] at runs
  obtain ⟨_, ended⟩ := runs
  cases ended
  rfl

/-- The first dispatcher changes nothing that is stored under a key. -/
theorem dispatchV1_effect (runs : Runs (parts B) (dispatchV1 B r) s held ⟨s', held', .ok answer⟩) :
    s'.registry = s.registry ∧ s'.idempotencyReceipts = s.idempotencyReceipts ∧
      (Mutation r.name ∧ s'.dispatchReceipts.length = s.dispatchReceipts.length + 1 ∧
          (∃ fields, answer = .object fields) ∨
        ¬ Mutation r.name ∧ s'.dispatchReceipts.length = s.dispatchReceipts.length) := by
  rcases dispatchV1_ok runs with ⟨mutation, ⟨row, rfl⟩, object⟩ | ⟨read, rfl⟩
  · exact ⟨rfl, rfl, .inl ⟨mutation, List.length_append, object⟩⟩
  · exact ⟨rfl, rfl, .inr ⟨read, rfl⟩⟩

theorem endV2_ok {prior : IdempotencyReceipt} (ended : endV2 B r prior = .ok answer) :
    answer = replayV2 B prior := by
  unfold endV2 at ended
  split at ended
  · exact (Except.ok.inj ended).symm
  · cases ended

theorem endV3_ok {stored : RegistryRow} (ended : endV3 B r stored = .ok answer) :
    ∃ response, stored.response = some response ∧
      answer = replayV3 B stored response (rateLimit r.name) := by
  unfold endV3 at ended
  split at ended
  · split at ended
    · next found => exact ⟨_, found, (Except.ok.inj ended).symm⟩
    · cases ended
  · cases ended

theorem dispatchV2_effect {k : Option Text}
    (runs : Runs (parts B) (dispatchV2 B r k) s held ⟨s', held', .ok answer⟩) :
    Effect B s s' (.v2 r k, answer) := by
  by_cases mutation : Mutation r.name
  · cases signed : r.uid with
    | none =>
        rw [dispatchV2, signed, runs_okOr_bind_ok] at runs
        obtain ⟨_, missing, _⟩ := runs
        cases missing
    | some uid =>
        generalize ended : (⟨s', held', .ok answer⟩ : Ended Tables Lock Failure Json) = out at runs
        cases dispatchV2_runs signed mutation runs with
        | refused refused => cases ended
        | @again kept prior found =>
            obtain ⟨rfl, rfl, result⟩ := Ended.mk.inj ended
            obtain rfl := endV2_ok result.symm
            exact .quiet (by simp [executes, fresh_replayV2]) rfl rfl rfl
        | first present short free first =>
            cases first with
            | failed runs => cases ended
            | taken => cases ended
            | stored carried =>
                cases ended
                obtain ⟨registry, receipts, ⟨_, dispatched, fields, rfl⟩ | ⟨read, _⟩⟩ :=
                  dispatchV1_effect carried
                · exact .firstV2 mutation signed present short free registry (by rw [receipts]) dispatched
                · rw [name_passOn] at read
                  exact absurd mutation read
  · rw [dispatchV2, runs_okOr_bind_ok] at runs
    obtain ⟨uid, _, runs⟩ := runs
    rw [if_neg mutation] at runs
    obtain ⟨registry, receipts, ⟨changes, _⟩ | ⟨_, dispatched⟩⟩ := dispatchV1_effect runs
    · rw [name_passOn] at changes
      exact absurd changes mutation
    · exact .quiet (by simp [executes, mutation]) registry receipts dispatched

theorem dispatchV3_effect {k : Option Text}
    (runs : Runs (parts B) (dispatchV3 B r k) s held ⟨s', held', .ok answer⟩) :
    Effect B s s' (.v3 r k, answer) := by
  by_cases mutation : Mutation r.name
  · cases signed : r.uid with
    | none =>
        rw [dispatchV3, signed, runs_okOr_bind_ok] at runs
        obtain ⟨_, missing, _⟩ := runs
        cases missing
    | some uid =>
        generalize ended : (⟨s', held', .ok answer⟩ : Ended Tables Lock Failure Json) = out at runs
        cases dispatchV3_runs signed mutation runs with
        | refused refused => cases ended
        | again found =>
            obtain ⟨rfl, rfl, result⟩ := Ended.mk.inj ended
            obtain ⟨response, _, rfl⟩ := endV3_ok result.symm
            exact .quiet (by simp [executes, fresh_replayV3]) rfl rfl rfl
        | first small valid free first =>
            cases first with
            | failed runs => cases ended
            | stored carried =>
                cases ended
                obtain ⟨registry, receipts, ⟨_, dispatched, fields, rfl⟩ | ⟨read, _⟩⟩ :=
                  dispatchV1_effect carried
                · exact .firstV3 mutation signed small valid free (by rw [registry]) receipts
                    dispatched
                · rw [name_passOn] at read
                  exact absurd mutation read
  · rw [dispatchV3, runs_okOr_bind_ok] at runs
    obtain ⟨uid, _, runs⟩ := runs
    rw [runs_ensure_bind_ok, runs_bind_ok] at runs
    obtain ⟨_, _, _, _, counted, runs⟩ := runs
    obtain ⟨⟨rateBuckets, rfl⟩, _⟩ := countRequest_runs counted
    rw [if_neg mutation, readV3, runs_bind_ok] at runs
    obtain ⟨_, _, response, runs, ended⟩ := runs
    cases ended
    obtain ⟨registry, receipts, ⟨changes, _⟩ | ⟨_, dispatched⟩⟩ := dispatchV1_effect runs
    · rw [name_passOn] at changes
      exact absurd changes mutation
    · exact .quiet (by simp [executes, mutation]) registry receipts dispatched

theorem perform_effect {call : Call}
    (runs : Runs (parts B) (perform B call) s held ⟨s', held', .ok answer⟩) :
    Effect B s s' (call, answer) := by
  cases call with
  | operator row =>
      obtain rfl := appendOperator_ok runs
      exact .quiet rfl rfl rfl rfl
  | v1 r =>
      obtain ⟨registry, receipts, ⟨mutation, dispatched, _⟩ | ⟨read, dispatched⟩⟩ :=
        dispatchV1_effect runs
      · exact .direct mutation registry receipts dispatched
      · exact .quiet (by simp [executes, read]) registry receipts dispatched
  | v2 r k => exact dispatchV2_effect runs
  | v3 r k => exact dispatchV3_effect runs

/-! ## What is stored, and by whom -/

/-- What is stored under a key, if anything, with the entries that stored something. -/
inductive Once {Row Stored : Type} (Stores : Row → Stored → Prop) :
    Option Row → List Stored → Prop
  | free : Once Stores none []
  | stored {row entry} (stores : Stores row entry) : Once Stores (some row) [entry]

/-- An entry of the third dispatcher stored a row. -/
inductive StoresV3 (B : Builtins) (key : RegistryKey) : RegistryRow → Entry → Prop
  | intro {first k fields} (named : namesV3 key (.v3 first k) = true)
      (small : first.document.octets ≤ 1048576) (valid : ValidKey key.2) :
      StoresV3 B key (completed B first key (.object fields))
        (.v3 first k, answerV3 B key.2 (.object fields) (rateLimit first.name))

/-- An entry of the second dispatcher stored a row. -/
inductive StoresV2 (B : Builtins) (key : ReceiptKey) : IdempotencyReceipt → Entry → Prop
  | intro {first k subject fields} (named : namesV2 B key (.v2 first k) = true)
      (present : trimmedKey k ≠ []) (short : (trimmedKey k).length ≤ 128) :
      StoresV2 B key (receiptOf B first key subject (.object fields))
        (.v2 first k, answerV2 (receiptOf B first key subject (.object fields)))

/-- What is stored after some calls: under each key what the one call stored that carried
its mutation out, and one receipt for each mutation that was carried out. -/
structure Ledger (B : Builtins) (past : List Entry) (t : Tables) : Prop where
  registry : ∀ key, Once (StoresV3 B key) (t.registry.find key) (past.filter (executesV3 key))
  receipts : ∀ key, Once (StoresV2 B key) (priorOf t key) (past.filter (executesV2 B key))
  dispatched : t.dispatchReceipts.length = past.countP executes

variable {past : List Entry} {t t' : Tables} {entry : Entry}

theorem ledger_empty : Ledger B [] .empty where
  registry _ := .free
  receipts _ := .free
  dispatched := rfl

theorem executesV3_of_silent {key : RegistryKey} (silent : executes entry = false) :
    executesV3 key entry = false := by
  cases executed : executesV3 key entry with
  | false => rfl
  | true => rw [executes_of_executesV3 executed] at silent; cases silent

theorem executesV2_of_silent {key : ReceiptKey} (silent : executes entry = false) :
    executesV2 B key entry = false := by
  cases executed : executesV2 B key entry with
  | false => rfl
  | true => rw [executes_of_executesV2 executed] at silent; cases silent

theorem countP_concat_executes (executed : executes entry = true) :
    (past ++ [entry]).countP executes = past.countP executes + 1 := by
  rw [List.countP_append, List.countP_singleton, if_pos executed]

theorem priorOf_append {row : IdempotencyReceipt} {key : ReceiptKey}
    (appended : t'.idempotencyReceipts = t.idempotencyReceipts ++ [row]) :
    priorOf t' key = (priorOf t key).or (if row.key = key then some row else none) := by
  rw [priorOf, appended, List.find?_append, priorOf, List.find?_singleton]
  simp

theorem Once.first {Row Stored : Type} {Stores : Row → Stored → Prop} {p : Stored → Bool}
    {past : List Stored} {row : Row} {entry : Stored} (once : Once Stores none (past.filter p))
    (executed : p entry = true) (stores : Stores row entry) :
    Once Stores (some row) ((past ++ [entry]).filter p) := by
  generalize before : past.filter p = entries at once
  cases once
  rw [List.filter_append, before, List.nil_append, List.filter_singleton, executed]
  exact .stored stores

/-- A stored result is the one of its key, and of no other. -/
theorem executesV2_first {first : Request} {k : Option Text} {uid : Uuid} {reply : Json}
    (key : ReceiptKey) (mutation : Mutation first.name) (signed : first.uid = some uid)
    (flag : fresh reply = true) :
    executesV2 B key (.v2 first k, reply) = true ↔ receiptKey B first uid (trimmedKey k) = key := by
  rw [executesV2, flag, Bool.and_true, namesV2_iff]
  constructor
  · rintro ⟨_, same, digest⟩
    obtain rfl := Option.some.inj (signed.symm.trans same)
    exact digest
  · rintro rfl
    exact ⟨mutation, signed, rfl⟩

theorem executesV3_first {first : Request} {k : Option Text} {uid : Uuid} {reply : Json}
    (key : RegistryKey) (mutation : Mutation first.name) (signed : first.uid = some uid)
    (flag : fresh reply = true) :
    executesV3 key (.v3 first k, reply) = true ↔ (uid, trimmedKey k) = key := by
  rw [executesV3, flag, Bool.and_true, namesV3_iff]
  constructor
  · rintro ⟨_, same, trimmed⟩
    obtain rfl := Option.some.inj (signed.symm.trans same)
    exact Prod.ext rfl trimmed
  · rintro rfl
    exact ⟨mutation, signed, rfl⟩

/-- One more call keeps the ledger. -/
theorem Effect.ledger (effect : Effect B t t' entry) (ledger : Ledger B past t) :
    Ledger B (past ++ [entry]) t' := by
  obtain ⟨registered, stored, counted⟩ := ledger
  cases effect with
  | quiet silent registry receipts dispatched =>
      constructor
      · intro key
        rw [registry, filter_concat (executesV3_of_silent silent)]
        exact registered key
      · intro key
        rw [priorOf, receipts, filter_concat (executesV2_of_silent silent)]
        exact stored key
      · rw [dispatched, counted, List.countP_append, List.countP_singleton, silent]
        simp
  | direct mutation registry receipts dispatched =>
      constructor
      · intro key
        rw [registry, filter_concat rfl]
        exact registered key
      · intro key
        rw [priorOf, receipts, filter_concat rfl]
        exact stored key
      · rw [dispatched, counted, countP_concat_executes]
        exact decide_eq_true mutation
  | @firstV2 first k uid subject fields mutation signed present short free registry receipts
      dispatched =>
      let row := receiptOf B first (receiptKey B first uid (trimmedKey k)) subject (.object fields)
      have flag : fresh (answerV2 row) = true := fresh_answerV2 rfl
      have names (key : ReceiptKey) : executesV2 B key (.v2 first k, answerV2 row) = true ↔
          receiptKey B first uid (trimmedKey k) = key :=
        executesV2_first key mutation signed flag
      constructor
      · intro key
        rw [registry, filter_concat rfl]
        exact registered key
      · intro key
        have before := stored key
        rw [priorOf_append receipts, receiptOf_key]
        split
        · next same =>
            subst same
            rw [free] at before ⊢
            exact before.first ((names _).mpr rfl) (.intro (namesV2_iff.mpr ⟨mutation, signed, rfl⟩)
              present short)
        · next other =>
            rw [Option.or_none, filter_concat (Bool.eq_false_iff.mpr (mt (names key).mp other))]
            exact before
      · rw [dispatched, counted, countP_concat_executes]
        exact executes_of_executesV2 ((names _).mpr rfl)
  | @firstV3 first k uid fields mutation signed small valid free registry receipts dispatched =>
      have flag : fresh (answerV3 B (trimmedKey k) (.object fields) (rateLimit first.name)) = true :=
        fresh_answerV3
      have names (key : RegistryKey) : executesV3 key (.v3 first k,
            answerV3 B (trimmedKey k) (.object fields) (rateLimit first.name)) = true ↔
          (uid, trimmedKey k) = key :=
        executesV3_first key mutation signed flag
      constructor
      · intro key
        have before := registered key
        rw [registry, Table.find_put, Table.find_put, completed_key, placeholder_key]
        split
        · next same =>
            subst same
            rw [free] at before
            exact before.first ((names _).mpr rfl) (.intro (namesV3_iff.mpr ⟨mutation, signed, rfl⟩)
              small valid)
        · next other =>
            rw [filter_concat (Bool.eq_false_iff.mpr (mt (names key).mp other))]
            exact before
      · intro key
        rw [priorOf, receipts, filter_concat rfl]
        exact stored key
      · rw [dispatched, counted, countP_concat_executes]
        exact executes_of_executesV3 ((names _).mpr rfl)

theorem Ledger.serial {start : Tables} {before : List Entry} (ledger : Ledger B before start)
    (serial : Serial (parts B) (perform B) start past t) : Ledger B (before ++ past) t := by
  induction serial with
  | nil => rwa [List.append_nil]
  | snoc earlier runs ih =>
      rw [← List.append_assoc]
      exact (perform_effect runs).ledger ih

theorem Once.of_mem {Row Stored : Type} {Stores : Row → Stored → Prop} {p : Stored → Bool}
    {past : List Stored} {found : Option Row} {entry : Stored}
    (once : Once Stores found (past.filter p)) (member : entry ∈ past) (executed : p entry = true) :
    ∃ row, found = some row ∧ Stores row entry := by
  have filtered : entry ∈ past.filter p := List.mem_filter.mpr ⟨member, executed⟩
  generalize past.filter p = entries at once filtered
  cases once with
  | free => cases filtered
  | stored stores =>
      obtain rfl := List.mem_singleton.mp filtered
      exact ⟨_, rfl, stores⟩

theorem Once.of_countP {Row Stored : Type} {Stores : Row → Stored → Prop} {p : Stored → Bool}
    {past : List Stored} {found : Option Row} (once : Once Stores found (past.filter p))
    (unused : past.countP p = 0) : found = none := by
  rw [List.countP_eq_length_filter] at unused
  generalize past.filter p = entries at once unused
  cases once with
  | free => rfl
  | stored stores => cases unused

theorem Once.isSome_of_countP {Row Stored : Type} {Stores : Row → Stored → Prop}
    {p : Stored → Bool} {past : List Stored} {found : Option Row}
    (once : Once Stores found (past.filter p)) (used : 0 < past.countP p) :
    found.isSome = true := by
  rw [List.countP_eq_length_filter] at used
  generalize past.filter p = entries at once used
  cases once with
  | free => cases used
  | stored stores => rfl

theorem Once.countP_le {Row Stored : Type} {Stores : Row → Stored → Prop} {p : Stored → Bool}
    {past : List Stored} {found : Option Row} (once : Once Stores found (past.filter p)) :
    past.countP p ≤ 1 := by
  rw [List.countP_eq_length_filter]
  generalize past.filter p = entries at once
  cases once with
  | free => exact Nat.zero_le 1
  | stored stores => exact Nat.le_refl 1

end Chlom.Dispatcher
