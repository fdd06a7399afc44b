import Chlom.Dispatcher.Idempotency

/-!
# Authorised answers

Calls come one after the other.  A mutation that reaches the first dispatcher is judged by
the latest version of its operator, except that a null among its scopes passes for any
scope.  A mutation whose answer is stored is answered without being judged, so it is
authorised exactly when nothing was taken from its operator since the answer was stored.
-/

namespace Chlom.Dispatcher

open Assurance (Text text Timestamp Uuid SqlError)
open Locking

variable {B : Builtins} {t t' : Tables} {r : Request} {answer : Json}

/-! ## The property -/

def serially (B : Builtins) (t : Tables) (call : Call) : Tables × Except Failure Json :=
  (perform B call).statement t

/-- The tables after some calls. -/
abbrev after (B : Builtins) (calls : List Call) : Tables :=
  Runs.run (serially B) .empty calls

/-- A version of an operator may do what is asked. -/
structure OperatorVersion.Permits (o : OperatorVersion) (required : Requirement) : Prop where
  active : o.active = true
  scope : some required.scope ∈ o.scopes ∨ some wildcard ∈ o.scopes
  authority : authorityRank required.authority ≤ authorityRank o.authorityClass

/-- The latest version of the operator of a request may do what its action asks. -/
def Authorised (t : Tables) (r : Request) : Prop :=
  ∃ uid o required, r.uid = some uid ∧ latestOperator r.met t.operators uid = some o ∧
    requirement r.name = some required ∧ o.Permits required

/-- The mutation that a call asks for. -/
def Call.mutation : Call → Option Request
  | .operator _ => none
  | .v1 r | .v2 r _ | .v3 r _ => if Mutation r.name then some r else none

/-- Every mutation that is answered is authorised when it is. -/
def AlwaysAuthorised (B : Builtins) (calls : List Call) : Prop :=
  ∀ before call later r t' answer, calls = before ++ call :: later → call.mutation = some r →
    serially B (after B before) call = (t', .ok answer) → Authorised t' r

/-! ## When it holds -/

/-- An answer is stored under the key of a call. -/
def Stored (B : Builtins) (t : Tables) : Call → Prop
  | .operator _ | .v1 _ => False
  | .v2 r k => ∃ uid prior, r.uid = some uid ∧
      priorOf t (receiptKey B r uid (trimmedKey k)) = some prior
  | .v3 r k => ∃ uid stored, r.uid = some uid ∧
      t.registry.find (uid, trimmedKey k) = some stored

/-- The answer that is stored under the key of a call was given to the same request. -/
def Replayed (B : Builtins) (t : Tables) : Call → Prop
  | .operator _ | .v1 _ => False
  | .v2 r k => ∃ uid prior, r.uid = some uid ∧
      priorOf t (receiptKey B r uid (trimmedKey k)) = some prior ∧
      prior.requestPayloadSha256 = B.canonicalSha256 r.document
  | .v3 r k => ∃ uid stored, r.uid = some uid ∧
      t.registry.find (uid, trimmedKey k) = some stored ∧
      stored.action = r.name ∧ stored.requestSha256 = requestSha256 B r

/-- No null stands for a scope that the latest version of an operator lacks. -/
def ScopesKnown (t : Tables) (r : Request) : Prop :=
  ∀ uid o required, r.uid = some uid → latestOperator r.met t.operators uid = some o →
    requirement r.name = some required → none ∈ o.scopes →
      some required.scope ∈ o.scopes ∨ some wildcard ∈ o.scopes

/-- A version takes something away that an action asks for. -/
inductive OperatorVersion.Withdraws (o : OperatorVersion) (required : Requirement) : Prop
  | deactivates (inactive : o.active = false)
  | narrows (scope : some required.scope ∉ o.scopes) (all : some wildcard ∉ o.scopes)
  | downgrades (below : authorityRank o.authorityClass < authorityRank required.authority)

/-- An entry carried out the mutation that a call repeats under its key. -/
def Repeats (B : Builtins) (entry : Entry) : Call → Prop
  | .operator _ | .v1 _ => False
  | .v2 r k => ∃ uid, r.uid = some uid ∧
      executesV2 B (receiptKey B r uid (trimmedKey k)) entry = true
  | .v3 r k => ∃ uid, r.uid = some uid ∧ executesV3 (uid, trimmedKey k) entry = true

/-- A call carried out the mutation that another repeats, and a version of the operator
was the latest then. -/
structure Execution (B : Builtins) (before : List Call) (first call : Call) (r : Request)
    (o : OperatorVersion) : Prop where
  answered : ∃ t reply, serially B (after B before) first = (t, .ok reply) ∧
    Repeats B (first, reply) call
  mutation : first.mutation = some r
  latest : ∃ uid, r.uid = some uid ∧
    latestOperator r.met (after B before).operators uid = some o

/-- What the calls between an execution and its repetition leave of an operator, when one
version was the latest at the first and another is at the second.  None that was appended
in between takes anything away, nor one with the number and the time of the first. -/
structure Unrevoked (between : List Call) (first last : OperatorVersion) (required : Requirement) :
    Prop where
  appended : .operator last ∈ between → ¬ last.Withdraws required
  tied : last.version = first.version → last.recordedAt = first.recordedAt → last ≠ first →
    ¬ last.Withdraws required
  kept : last = first → none ∈ last.scopes →
    some required.scope ∈ last.scopes ∨ some wildcard ∈ last.scopes

/-- A mutation that is replayed comes after calls that left its operator what it needs, and
one under an unused key from an operator without a null for a missing scope. -/
structure Sound (B : Builtins) (calls : List Call) (call : Call) (r : Request) : Prop where
  replayed : Replayed B (after B calls) call →
    ∀ before first between r₁ o₁ uid o required, calls = before ++ first :: between →
      Execution B before first call r₁ o₁ → r.uid = some uid →
      latestOperator r.met (after B calls).operators uid = some o →
      requirement r.name = some required → Unrevoked between o₁ o required
  unstored : ¬ Stored B (after B calls) call → ScopesKnown (after B calls) r

/-- What holds of the calls of a run.  The next mutation that is answered is authorised if
and only if it is sound, and if all are sound then all answered ones are authorised.  What
is replayed was carried out before for the same action and account, authorised unless a
null stood for its scope. -/
structure AuthorisedWhenSound (B : Builtins) (calls : List Call) : Prop where
  next : ∀ call r t' answer, call.mutation = some r →
    serially B (after B calls) call = (t', .ok answer) →
      (Authorised t' r ↔ Sound B calls call r)
  all : (∀ before call later r, calls = before ++ call :: later → call.mutation = some r →
    Sound B before call r) → AlwaysAuthorised B calls
  stored : ∀ call r, call.mutation = some r → Replayed B (after B calls) call →
    ∃ before first between r₁ o₁, calls = before ++ first :: between ∧
      Execution B before first call r₁ o₁ ∧ r₁.name = r.name ∧ r₁.uid = r.uid ∧
      (ScopesKnown (after B before) r₁ → Authorised (after B before) r₁)

/-! ## The first dispatcher -/

/-- What the first dispatcher finds before it carries anything out. -/
structure Admitted (t : Tables) (r : Request) (a : Admission) : Prop where
  signed : r.uid = some a.uid
  latest : latestOperator r.met t.operators a.uid = some a.operator
  active : a.operator.active = true
  listed : requirement r.name = some a.required
  scopes : a.operator.scopes.all (lacks a.required.scope) = false
  authority : authorityRank a.required.authority ≤ authorityRank a.operator.authorityClass

theorem judge_ok {a : Admission} (ran : (judge r).eval t = (.ok a, t')) :
    t' = t ∧ Admitted t r a := by
  rw [judge, Prog.eval_okOr_bind_ok] at ran
  obtain ⟨uid, signed, ran⟩ := ran
  rw [Prog.eval_ensure_bind_ok, Prog.eval_query_bind, Prog.eval_okOr_bind_ok] at ran
  obtain ⟨_, operator, found, ran⟩ := ran
  rw [Prog.eval_okOr_bind_ok] at ran
  obtain ⟨required, listed, ran⟩ := ran
  rw [Prog.eval_ensure_bind_ok, Prog.eval_ensure_bind_ok, Prog.eval_pure] at ran
  obtain ⟨scopes, authority, ended⟩ := ran
  cases ended
  obtain ⟨latest, active⟩ := Option.filter_eq_some_iff.mp found
  exact ⟨rfl, signed, latest, active, listed, scopes, authority⟩

theorem dispatchV1_admitted (ran : (dispatchV1 B r).eval t = (.ok answer, t')) :
    ∃ a, Admitted t r a := by
  rw [dispatchV1, Prog.eval_bind_ok] at ran
  obtain ⟨a, _, admitted, _⟩ := ran
  exact ⟨a, (judge_ok admitted).2⟩

/-- A request is passed on with the same account and name. -/
theorem Admitted.of_passOn {start : Tables} {a : Admission} (admitted : Admitted start r.passOn a)
    (operators : start.operators = t.operators) : Admitted t r a := by
  obtain ⟨signed, latest, active, listed, scopes, authority⟩ := admitted
  rw [operators] at latest
  rw [name_passOn] at listed
  exact ⟨signed, latest, active, listed, scopes, authority⟩

/-- A scope is not known to be missing if it is there or a null is. -/
theorem lacks_iff {scopes : List (Option Text)} {required : Text} :
    scopes.all (lacks required) = false ↔
      none ∈ scopes ∨ some required ∈ scopes ∨ some wildcard ∈ scopes := by
  rw [List.all_eq_false]
  constructor
  · rintro ⟨scope, member, found⟩
    cases scope with
    | none => exact .inl member
    | some value =>
        by_cases same : value = required
        · exact .inr (.inl (same ▸ member))
        · by_cases all : value = wildcard
          · exact .inr (.inr (all ▸ member))
          · simp [lacks, same, all] at found
  · rintro (member | member | member)
    · exact ⟨none, member, by simp [lacks]⟩
    · exact ⟨some required, member, by simp [lacks]⟩
    · exact ⟨some wildcard, member, by simp [lacks]⟩

/-- An admitted request is authorised unless a null passed for its scope. -/
theorem Admitted.authorised_iff {a : Admission} (admitted : Admitted t r a) :
    Authorised t r ↔ ScopesKnown t r := by
  obtain ⟨signed, latest, active, listed, scopes, authority⟩ := admitted
  constructor
  · rintro ⟨uid, o, required, signed', latest', listed', permits⟩ uid' o' required' signed''
      latest'' listed'' _
    obtain rfl := Option.some.inj (signed'.symm.trans signed'')
    obtain rfl := Option.some.inj (latest'.symm.trans latest'')
    obtain rfl := Option.some.inj (listed'.symm.trans listed'')
    exact permits.scope
  · intro known
    refine ⟨a.uid, a.operator, a.required, signed, latest, listed, active, ?_, authority⟩
    rcases lacks_iff.mp scopes with null | found
    · exact known _ _ _ signed latest listed null
    · exact found

/-! ## Every call -/

/-- Only the operators matter. -/
theorem authorised_congr (same : t'.operators = t.operators) : Authorised t' r ↔ Authorised t r := by
  simp only [Authorised, same]

/-- How a mutation comes to its answer: it is replayed, or its key is unused and the first
dispatcher admits it. -/
def Judged (B : Builtins) (t : Tables) (call : Call) (r : Request) : Prop :=
  Stored B t call ∧ Replayed B t call ∨ ¬ Stored B t call ∧ ∃ a, Admitted t r a

theorem mutateV2_judged {uid : Uuid} {k : Option Text} (signed : r.uid = some uid)
    (ran : (mutateV2 B r uid (trimmedKey k)).eval t = (.ok answer, t')) :
    Judged B t (.v2 r k) r := by
  rw [mutateV2, Prog.eval_ensure_bind_ok, Prog.eval_ensure_bind_ok, Prog.eval_query_bind,
    Prog.eval_okOr_bind_ok] at ran
  obtain ⟨_, _, operator, _, ran⟩ := ran
  rw [Prog.eval_acquire_bind, Prog.eval_query_bind] at ran
  cases found : priorOf t (receiptKey B r uid (trimmedKey k)) with
  | some prior =>
      have again := found
      rw [receiptKey] at again
      rw [again] at ran
      obtain ⟨same, _⟩ := Prog.eval_ensure_bind_ok.mp ran
      exact .inl ⟨⟨uid, prior, signed, found⟩, uid, prior, signed, found, same⟩
  | none =>
      have free := found
      rw [receiptKey] at free
      rw [free] at ran
      obtain ⟨result, _, carried, _⟩ := Prog.eval_bind_ok.mp ran
      obtain ⟨a, admitted⟩ := dispatchV1_admitted carried
      refine .inr ⟨?_, a, admitted.of_passOn rfl⟩
      rintro ⟨uid', prior, signed', stored⟩
      obtain rfl := Option.some.inj (signed.symm.trans signed')
      rw [found] at stored
      cases stored

theorem mutateV3_judged {start : Tables} {uid : Uuid} {k : Option Text} (signed : r.uid = some uid)
    (operators : start.operators = t.operators) (registry : start.registry = t.registry)
    (ran : (mutateV3 B r uid (trimmedKey k)).eval start = (.ok answer, t')) :
    Judged B t (.v3 r k) r := by
  rw [mutateV3, Prog.eval_ensure_bind_ok, Prog.eval_acquire_bind, Prog.eval_query_bind,
    registry] at ran
  obtain ⟨_, ran⟩ := ran
  cases found : t.registry.find (uid, trimmedKey k) with
  | some stored =>
      rw [found] at ran
      obtain ⟨⟨action, digest⟩, _⟩ := Prog.eval_ensure_bind_ok.mp ran
      exact .inl ⟨⟨uid, stored, signed, found⟩, uid, stored, signed, found, action, digest⟩
  | none =>
      rw [found] at ran
      dsimp only at ran
      rw [firstV3, Prog.eval_acquire_bind, Prog.eval_query_bind, Prog.eval_ensure_bind_ok,
        Prog.eval_update_bind] at ran
      obtain ⟨response, _, carried, _⟩ := Prog.eval_bind_ok.mp ran.2
      obtain ⟨a, admitted⟩ := dispatchV1_admitted carried
      refine .inr ⟨?_, a, admitted.of_passOn operators⟩
      rintro ⟨uid', stored, signed', taken⟩
      obtain rfl := Option.some.inj (signed.symm.trans signed')
      rw [found] at taken
      cases taken

/-- Counting a request changes neither operators nor what is stored. -/
theorem countRequest_eval {uid : Uuid} {action : Text} {clock : Timestamp}
    (ran : (countRequest uid action clock).eval t = (.ok (), t')) :
    t'.operators = t.operators ∧ t'.registry = t.registry := by
  rw [countRequest, Prog.eval_acquire_bind, Prog.eval_query_bind] at ran
  dsimp only at ran
  rw [Prog.eval_update_bind, Prog.eval_ensure] at ran
  split at ran
  · cases ran
    exact ⟨rfl, rfl⟩
  · cases ran

theorem perform_judged {call : Call} (mutation : call.mutation = some r)
    (ran : (perform B call).eval t = (.ok answer, t')) : Judged B t call r := by
  cases call with
  | operator row => cases mutation
  | v1 request =>
      obtain ⟨_, same⟩ := Option.ite_none_right_eq_some.mp mutation
      cases same
      exact .inr ⟨id, dispatchV1_admitted ran⟩
  | v2 request k =>
      obtain ⟨changes, same⟩ := Option.ite_none_right_eq_some.mp mutation
      cases same
      rw [perform, dispatchV2, Prog.eval_okOr_bind_ok] at ran
      obtain ⟨uid, signed, ran⟩ := ran
      rw [if_pos changes] at ran
      exact mutateV2_judged signed ran
  | v3 request k =>
      obtain ⟨changes, same⟩ := Option.ite_none_right_eq_some.mp mutation
      cases same
      rw [perform, dispatchV3, Prog.eval_okOr_bind_ok] at ran
      obtain ⟨uid, signed, ran⟩ := ran
      rw [Prog.eval_ensure_bind_ok, Prog.eval_bind_ok] at ran
      obtain ⟨_, _, start, counted, ran⟩ := ran
      obtain ⟨operators, registry⟩ := countRequest_eval counted
      rw [if_pos changes] at ran
      exact mutateV3_judged signed operators registry ran

theorem mutation_ne_operator {call : Call} (mutation : call.mutation = some r)
    (row : OperatorVersion) : call ≠ .operator row := by
  rintro rfl
  cases mutation

/-- No dispatcher changes an operator. -/
theorem perform_operators {call : Call} (dispatch : ∀ row, call ≠ .operator row)
    (ran : (perform B call).eval t = (.ok answer, t')) : t'.operators = t.operators := by
  have neutral := neutral_operators t.operators
  have kept : ((perform B call).eval t).2.operators = t.operators := by
    cases call with
    | operator row => exact absurd rfl (dispatch row)
    | v1 request => exact Steady.eval (writes_dispatchV1 neutral) rfl
    | v2 request k => exact Steady.eval (writes_dispatchV2 neutral (storing_operators _)) rfl
    | v3 request k => exact Steady.eval (writes_dispatchV3 neutral) rfl
  rwa [ran] at kept

theorem Replayed.stored {call : Call} (replayed : Replayed B t call) : Stored B t call := by
  cases call with
  | operator row => exact replayed
  | v1 request => exact replayed
  | v2 request k =>
      obtain ⟨uid, prior, signed, found, _⟩ := replayed
      exact ⟨uid, prior, signed, found⟩
  | v3 request k =>
      obtain ⟨uid, stored, signed, found, _⟩ := replayed
      exact ⟨uid, stored, signed, found⟩

/-! ## Operators -/

theorem permits_iff {o : OperatorVersion} {required : Requirement} :
    o.Permits required ↔ ¬ o.Withdraws required := by
  constructor
  · rintro ⟨active, scope, authority⟩ withdraws
    cases withdraws with
    | deactivates inactive =>
        rw [active] at inactive
        cases inactive
    | narrows absent all => exact scope.elim absent all
    | downgrades below => omega
  · intro keeps
    refine ⟨?_, ?_, ?_⟩
    · by_contra inactive
      exact keeps (.deactivates (Bool.eq_false_iff.mpr inactive))
    · by_contra neither
      rw [not_or] at neither
      exact keeps (.narrows neither.1 neither.2)
    · by_contra below
      exact keeps (.downgrades (Int.not_le.mp below))

section Latest

variable {met met' : Text × Int → Int} {operators operators' : Table OperatorVersion.key}
  {uid : Uuid} {o o' : OperatorVersion}

theorem mem_of_latestOperator (latest : latestOperator met operators uid = some o) :
    o ∈ operators ∧ o.userId = uid := by
  obtain ⟨member, owned⟩ := List.mem_filter.mp (List.argmax_mem latest)
  exact ⟨member, of_decide_eq_true owned⟩

/-- No version of the account comes after the latest one. -/
theorem latestOperator_order (latest : latestOperator met operators uid = some o)
    (member : o' ∈ operators) (owned : o'.userId = uid) :
    o'.version < o.version ∨ o'.version = o.version ∧ o'.recordedAt ≤ o.recordedAt := by
  have listed : o' ∈ operators.rows.filter fun o => o.userId = uid :=
    List.mem_filter.mpr ⟨member, decide_eq_true owned⟩
  have le := List.le_of_mem_argmax listed latest
  rcases Prod.Lex.toLex_le_toLex.mp le with lt | ⟨same, le⟩
  · exact .inl lt
  · refine .inr ⟨same, ?_⟩
    rcases Prod.Lex.toLex_le_toLex.mp le with lt | ⟨same, _⟩
    · exact Int.le_of_lt lt
    · exact Int.le_of_eq same

/-- While versions are only added, the latest one is new or ties with the one before. -/
theorem latestOperator_tied (before : latestOperator met operators uid = some o)
    (now : latestOperator met' operators' uid = some o') (kept : ∀ o ∈ operators, o ∈ operators')
    (old : o' ∈ operators) : o'.version = o.version ∧ o'.recordedAt = o.recordedAt := by
  obtain ⟨member, owned⟩ := mem_of_latestOperator before
  obtain ⟨_, owned'⟩ := mem_of_latestOperator now
  rcases latestOperator_order before old owned' with lt | ⟨same, le⟩
  · rcases latestOperator_order now (kept o member) owned with lt' | ⟨same', _⟩
    · omega
    · omega
  · rcases latestOperator_order now (kept o member) owned with lt' | ⟨_, le'⟩
    · omega
    · exact ⟨same, Int.le_antisymm le le'⟩

end Latest

/-- A statement that raises changes nothing, and one that answers does what its call does. -/
theorem serially_cases {call : Call} {result : Except Failure Json}
    (ran : serially B t call = (t', result)) :
    t' = t ∨ ∃ answer, result = .ok answer ∧ Effect B t t' (call, answer) := by
  cases result with
  | ok answer =>
      obtain ⟨_, runs⟩ := runs_of_statement (parts B) ran
      exact .inr ⟨answer, rfl, perform_effect runs⟩
  | error failure => exact .inl (Prog.statement_error ran)

/-- A call adds at most the version of an operator that it names. -/
theorem serially_operators (call : Call) : (serially B t call).1.operators = t.operators ∨
    ∃ row, call = .operator row ∧
      (serially B t call).1.operators = t.operators.insert row := by
  generalize ran : serially B t call = ended
  obtain ⟨t', result⟩ := ended
  cases result with
  | error failure => exact .inl (congrArg Tables.operators (Prog.statement_error ran))
  | ok answer =>
      by_cases appends : ∃ row, call = .operator row
      · obtain ⟨row, rfl⟩ := appends
        obtain ⟨_, runs⟩ := runs_of_statement (parts B) ran
        obtain rfl := appendOperator_ok runs
        exact .inr ⟨row, rfl, rfl⟩
      · exact .inl (perform_operators (fun row same => appends ⟨row, same⟩)
          (Prog.statement_ok.mp ran))

/-! ## Executions -/

variable {calls before more : List Call} {call : Call} {o : OperatorVersion}

theorem after_append : after B (before ++ more) = Runs.run (serially B) (after B before) more :=
  Runs.run_append ..

/-- Versions of operators stay. -/
theorem mem_operators_append (member : o ∈ (after B before).operators) :
    o ∈ (after B (before ++ more)).operators := by
  rw [after_append]
  refine Runs.invariant_run (fun t : Tables => o ∈ t.operators) ?_ member more
  intro t call member
  rcases serially_operators (B := B) (t := t) call with same | ⟨row, _, inserted⟩
  · rwa [same]
  · rw [inserted]
    exact Table.mem_insert_of_mem member

/-- A version that came was appended by a call. -/
theorem operator_mem_of_mem_operators (absent : o ∉ (after B before).operators)
    (member : o ∈ (after B (before ++ more)).operators) : .operator o ∈ more := by
  rw [after_append] at member
  obtain ⟨earlier, call, later, rfl, missing, came⟩ :=
    Runs.exists_onset (P := fun t : Tables => o ∈ t.operators) absent member
  rcases serially_operators (B := B) (t := Runs.run (serially B) (after B before) earlier) call
    with same | ⟨row, rfl, inserted⟩
  · rw [same] at came
    exact absurd came missing
  · rw [inserted] at came
    rcases Table.mem_or_eq_of_mem_insert came with old | rfl
    · exact absurd old missing
    · simp

/-- What the registry has under a key was stored by the execution of the mutation. -/
theorem executed_v3 {key : RegistryKey} {stored : RegistryRow}
    (found : (after B calls).registry.find key = some stored) :
    ∃ before first k between t reply, calls = before ++ .v3 first k :: between ∧
      serially B (after B before) (.v3 first k) = (t, .ok reply) ∧
      executesV3 key (.v3 first k, reply) = true ∧ stored.action = first.name ∧
      (after B before).registry.find key = none := by
  obtain ⟨before, call, between, rfl, absent, came⟩ := Runs.exists_onset
    (P := fun t : Tables => t.registry.find key = some stored) (by rintro ⟨⟩) found
  generalize ran : serially B (Runs.run (serially B) .empty before) call = ended at came
  obtain ⟨t, result⟩ := ended
  rcases serially_cases ran with rfl | ⟨reply, rfl, effect⟩
  · exact absurd came absent
  · cases effect with
    | quiet _ registry =>
        rw [registry] at came
        exact absurd came absent
    | direct _ registry =>
        rw [registry] at came
        exact absurd came absent
    | firstV2 _ _ _ _ _ registry =>
        rw [registry] at came
        exact absurd came absent
    | @firstV3 first k uid fields mutation signed small valid free registry =>
        rw [registry, Table.find_put, Table.find_put, completed_key, placeholder_key] at came
        split at came
        · next same =>
            subst same
            cases came
            exact ⟨before, first, k, between, t, _, rfl, ran,
              (executesV3_first _ mutation signed fresh_answerV3).mpr rfl, rfl, free⟩
        · exact absurd came absent

/-- A stored result was stored by the execution of the mutation. -/
theorem executed_v2 {key : ReceiptKey} {prior : IdempotencyReceipt}
    (found : priorOf (after B calls) key = some prior) :
    ∃ before first k between t reply, calls = before ++ .v2 first k :: between ∧
      serially B (after B before) (.v2 first k) = (t, .ok reply) ∧
      executesV2 B key (.v2 first k, reply) = true ∧ priorOf (after B before) key = none := by
  obtain ⟨before, call, between, rfl, absent, came⟩ := Runs.exists_onset
    (P := fun t : Tables => priorOf t key = some prior) (by rintro ⟨⟩) found
  generalize ran : serially B (Runs.run (serially B) .empty before) call = ended at came
  obtain ⟨t, result⟩ := ended
  rcases serially_cases ran with rfl | ⟨reply, rfl, effect⟩
  · exact absurd came absent
  · cases effect with
    | quiet _ _ receipts =>
        rw [priorOf, receipts] at came
        exact absurd came absent
    | direct _ _ receipts =>
        rw [priorOf, receipts] at came
        exact absurd came absent
    | firstV3 _ _ _ _ _ _ receipts =>
        rw [priorOf, receipts] at came
        exact absurd came absent
    | @firstV2 first k uid subject fields mutation signed present short free registry receipts =>
        rw [priorOf_append receipts, receiptOf_key] at came
        split at came
        · next same =>
            subst same
            exact ⟨before, first, k, between, t, _, rfl, ran,
              (executesV2_first _ mutation signed (fresh_answerV2 rfl)).mpr rfl, free⟩
        · rw [Option.or_none] at came
          exact absurd came absent

/-- A replayed mutation was carried out by an earlier call, for the same account and action
and under an unused key. -/
theorem executed_of_replayed (mutation : call.mutation = some r)
    (replayed : Replayed B (after B calls) call) :
    ∃ before first between r₁, calls = before ++ first :: between ∧
      (∃ t reply, serially B (after B before) first = (t, .ok reply) ∧
        Repeats B (first, reply) call) ∧
      first.mutation = some r₁ ∧ r₁.name = r.name ∧ r₁.uid = r.uid ∧
      ¬ Stored B (after B before) first := by
  cases call with
  | operator row => cases mutation
  | v1 request => exact replayed.elim
  | v2 request k =>
      obtain ⟨_, same⟩ := Option.ite_none_right_eq_some.mp mutation
      cases same
      obtain ⟨uid, prior, signed, found, _⟩ := replayed
      obtain ⟨before, first, k', between, t, reply, split, ran, executed, free⟩ :=
        executed_v2 found
      have named := executed
      rw [executesV2, Bool.and_eq_true] at named
      obtain ⟨changes, signed', key⟩ := namesV2_iff.mp named.1
      refine ⟨before, _, between, first, split, ⟨t, reply, ran, uid, signed, executed⟩,
        if_pos changes, ?_, signed'.trans signed.symm, ?_⟩
      · exact congrArg (fun key : ReceiptKey => key.2.1) key
      · rintro ⟨uid', prior', signed'', taken⟩
        obtain rfl := Option.some.inj (signed'.symm.trans signed'')
        rw [key, free] at taken
        cases taken
  | v3 request k =>
      obtain ⟨_, same⟩ := Option.ite_none_right_eq_some.mp mutation
      cases same
      obtain ⟨uid, stored, signed, found, action, _⟩ := replayed
      obtain ⟨before, first, k', between, t, reply, split, ran, executed, same, free⟩ :=
        executed_v3 found
      have named := executed
      rw [executesV3, Bool.and_eq_true] at named
      obtain ⟨changes, signed', key⟩ := namesV3_iff.mp named.1
      refine ⟨before, _, between, first, split, ⟨t, reply, ran, uid, signed, executed⟩,
        if_pos changes, same.symm.trans action, signed'.trans signed.symm, ?_⟩
      rintro ⟨uid', stored', signed'', taken⟩
      obtain rfl := Option.some.inj (signed'.symm.trans signed'')
      rw [key, free] at taken
      cases taken

/-- The execution of a replayed mutation was admitted. -/
theorem execution_of_replayed (mutation : call.mutation = some r)
    (replayed : Replayed B (after B calls) call) :
    ∃ before first between r₁ a, calls = before ++ first :: between ∧
      Execution B before first call r₁ a.operator ∧ r₁.name = r.name ∧ r₁.uid = r.uid ∧
      Admitted (after B before) r₁ a := by
  obtain ⟨before, first, between, r₁, split, ⟨t, reply, ran, repeats⟩, changes, name, account,
    free⟩ := executed_of_replayed mutation replayed
  rcases perform_judged changes (Prog.statement_ok.mp ran) with ⟨stored, _⟩ | ⟨_, a, admitted⟩
  · exact absurd stored free
  · exact ⟨before, first, between, r₁, a, split, ⟨⟨t, reply, ran, repeats⟩, changes,
      a.uid, admitted.signed, admitted.latest⟩, name, account, admitted⟩

/-- A replay is authorised if nothing was taken from the operator since the execution. -/
theorem Sound.authorised (sound : Sound B calls call r) (mutation : call.mutation = some r)
    (replayed : Replayed B (after B calls) call) : Authorised (after B calls) r := by
  obtain ⟨before, first, between, r₁, a, rfl, execution, name, account, admitted⟩ :=
    execution_of_replayed mutation replayed
  obtain ⟨signed, latest, active, listed, scopes, authority⟩ := admitted
  obtain ⟨member, owned⟩ := mem_of_latestOperator latest
  rw [name] at listed
  rw [account] at signed
  have known : Known a.uid (after B (before ++ first :: between)) :=
    ⟨a.operator, mem_operators_append member, owned⟩
  obtain ⟨o, now⟩ := Option.isSome_iff_exists.mp (latestOperator_isSome r.met known)
  have kept := sound.replayed replayed before first between r₁ a.operator a.uid o a.required rfl
    execution signed now listed
  refine ⟨a.uid, o, a.required, signed, now, listed, ?_⟩
  by_cases old : o ∈ (after B before).operators
  · by_cases same : o = a.operator
    · rw [same] at kept ⊢
      refine ⟨active, ?_, authority⟩
      rcases lacks_iff.mp scopes with null | found
      · exact kept.kept rfl null
      · exact found
    · obtain ⟨version, time⟩ := latestOperator_tied latest now
        (fun _ member => mem_operators_append member) old
      exact permits_iff.mpr (kept.tied version time same)
  · have appended := operator_mem_of_mem_operators old (mem_of_latestOperator now).1
    rcases List.mem_cons.mp appended with rfl | between
    · cases execution.mutation
    · exact permits_iff.mpr (kept.appended between)

/-- From an authorised operator nothing was taken. -/
theorem Authorised.sound (authorised : Authorised (after B calls) r)
    (known : ¬ Stored B (after B calls) call → ScopesKnown (after B calls) r) :
    Sound B calls call r := by
  refine ⟨?_, known⟩
  intro _ before first between r₁ o₁ uid o required _ _ signed latest listed
  obtain ⟨uid', o', required', signed', latest', listed', permits⟩ := authorised
  obtain rfl := Option.some.inj (signed.symm.trans signed')
  obtain rfl := Option.some.inj (latest.symm.trans latest')
  obtain rfl := Option.some.inj (listed.symm.trans listed')
  exact ⟨fun _ => permits_iff.mp permits, fun _ _ _ => permits_iff.mp permits,
    fun _ _ => permits.scope⟩

theorem Judged.authorised_iff (mutation : call.mutation = some r)
    (judged : Judged B (after B calls) call r) :
    Authorised (after B calls) r ↔ Sound B calls call r := by
  rcases judged with ⟨stored, replayed⟩ | ⟨unstored, a, admitted⟩
  · exact ⟨fun authorised => authorised.sound fun free => absurd stored free,
      fun sound => sound.authorised mutation replayed⟩
  · constructor
    · exact fun authorised => authorised.sound fun _ => admitted.authorised_iff.mp authorised
    · exact fun sound => admitted.authorised_iff.mpr (sound.unstored unstored)

/-! ## Every run of calls -/

/-- An answered mutation is authorised if and only if it is sound. -/
theorem authorised_iff_sound (mutation : call.mutation = some r)
    (ran : serially B (after B calls) call = (t', .ok answer)) :
    Authorised t' r ↔ Sound B calls call r := by
  have evaluated := Prog.statement_ok.mp ran
  rw [authorised_congr (perform_operators (mutation_ne_operator mutation) evaluated)]
  exact (perform_judged mutation evaluated).authorised_iff mutation

/-- In every run of calls, exactly the sound mutations are authorised when they are
answered. -/
theorem authorisedWhenSound (B : Builtins) (calls : List Call) : AuthorisedWhenSound B calls where
  next _ _ _ _ mutation ran := authorised_iff_sound mutation ran
  all sound before call later r _ _ split mutation ran :=
    (authorised_iff_sound mutation ran).mpr (sound before call later r split mutation)
  stored call r mutation replayed := by
    obtain ⟨before, first, between, r₁, a, split, execution, name, account, admitted⟩ :=
      execution_of_replayed mutation replayed
    exact ⟨before, first, between, r₁, a.operator, split, execution, name, account,
      admitted.authorised_iff.mpr⟩

/-! ## A retry of a deactivated operator -/

namespace Sample

/-- A mutation is carried out, and then its operator is deactivated. -/
def deactivated : List Call :=
  [.operator (operator 1 true), .v3 (request 0) (some retryKey), .operator (operator 2 false)]

def retry : Call :=
  .v3 (request 1) (some retryKey)

theorem retry_answered :
    (serially builtins (after builtins deactivated) retry).2.toOption.isSome = true := by
  decide +kernel

theorem retry_latest : latestOperator (request 1).met
    (serially builtins (after builtins deactivated) retry).1.operators 7 =
      some (operator 2 false) := by
  decide +kernel

end Sample

/-- A mutation is answered again after its operator was deactivated. -/
theorem not_alwaysAuthorised :
    ¬ AlwaysAuthorised Sample.builtins (Sample.deactivated ++ [Sample.retry]) := by
  intro always
  have answered := Sample.retry_answered
  have latest := Sample.retry_latest
  generalize ran : serially Sample.builtins (after Sample.builtins Sample.deactivated)
    Sample.retry = ended at answered latest
  obtain ⟨t', result⟩ := ended
  cases result with
  | error failure => cases answered
  | ok answer =>
      have mutation : Sample.retry.mutation = some (Sample.request 1) := rfl
      obtain ⟨uid, o, required, signed, stored, _, permits⟩ :=
        always Sample.deactivated Sample.retry [] _ t' answer rfl mutation ran
      obtain rfl : uid = 7 := Option.some.inj signed.symm
      obtain rfl := Option.some.inj (latest.symm.trans stored)
      exact absurd permits.active (by decide)

end Chlom.Dispatcher
