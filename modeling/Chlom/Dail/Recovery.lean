import Chlom.Dail.Restore

/-!
# Going on from a restored ledger

A ledger restored from its own events and anchors is the ledger it was, so nothing that
is called on it later can tell the two apart.  A ledger restored from other accepted
events stays accepted as long as no identifier and no key of these is padded: the index
is built from what is stored, and verification compares what is normalized.
-/

namespace Chlom.Dail

open Python

variable {F : Type} [FloatFormat F] {host : Host} {now : DateTime}

/-! ## The round trip -/

theorem exists_fullStateSha256 {shape : Value F → List Str → Prop}
    {related : Event F → Reading → Prop} {l : Ledger F} {readings : List Reading}
    (indexed : Indexed host now shape related l readings)
    (unicode : ∀ e ∈ l.events, e.toValue.Unicode) :
    ∃ hash, l.fullStateSha256 host = .ok hash := by
  have json : (Value.list (l.events.map Event.toValue)).IsJson := by
    refine .list fun v member => ?_
    obtain ⟨e, inside, rfl⟩ := List.mem_map.mp member
    obtain ⟨index, found⟩ := List.mem_iff_getElem?.mp inside
    obtain ⟨r, _, reads⟩ := indexed.getElem? found
    exact reads.json
  have strings : (Value.list (l.events.map Event.toValue)).Unicode := by
    refine .list fun v member => ?_
    obtain ⟨e, inside, rfl⟩ := List.mem_map.mp member
    exact unicode e inside
  exact exists_hashJson host json strings

omit [FloatFormat F] in
theorem filterMap_toValue (events : List (Event F)) :
    (events.map Event.toValue).filterMap Event.ofValue = events := by
  induction events with
  | nil => rfl
  | cons e rest ih => simp [ih]

/-- A ledger in step with its log is what its own events are restored to. -/
theorem Indexed.restored_eq {shape : Value F → List Str → Prop} {l : Ledger F}
    {readings : List Reading} (indexed : Indexed host now shape StoredAs l readings) :
    restored (l.events.map Event.toValue) = l := by
  have keyed : List.Forall₂ Keyed ((l.events.map Event.toValue).filterMap Event.ofValue)
      readings := by
    rw [filterMap_toValue]
    exact indexed.related.imp fun _ _ stored => stored.keyed
  have entered := indexed.verified.foldl_enter keyed l.events
  obtain ⟨events, idempotency, eventIds⟩ := l
  have ids := indexed.eventIds
  have bindings := indexed.idempotency
  simp only at ids bindings entered
  rw [restored, filterMap_toValue, ids, bindings]
  rw [filterMap_toValue] at entered
  exact entered

/-- Two ledgers answer every later call alike. -/
structure Ledger.BehavesAs (host : Host) (copy l : Ledger F) (calls : List (Call F)) : Prop where
  outcomes : Runs.trace (call host) copy calls = Runs.trace (call host) l calls
  events : (record host copy calls).events = (record host l calls).events
  headHash : (record host copy calls).headHash = (record host l calls).headHash
  verify : ∀ time, (record host copy calls).verify host time = (record host l calls).verify host time

/-- A verified ledger is restored from its own events and anchors, and goes on as before. -/
theorem restore_round_trip {later : DateTime} (calls : List (Call F))
    {report : VerificationReport F}
    (ran : (record host .empty calls).verify host now = .ok report) (ok : report.ok = true)
    (unicode : ∀ e ∈ (record host .empty calls).events, e.toValue.Unicode) :
    ∃ state copy, (record host .empty calls).fullStateSha256 host = .ok state ∧
      restoreIsolated host later
        (.list ((record host .empty calls).events.map Event.toValue))
        (record host .empty calls).headHash (.str state) = .ok copy ∧
      ∀ more : List (Call F), copy.BehavesAs host (record host .empty calls) more := by
  obtain ⟨readings, indexed⟩ := exists_indexed host now calls
  obtain ⟨others, verified, rfl⟩ := verify_ok.mp ⟨ran, ok⟩
  obtain ⟨state, hashed⟩ := exists_fullStateSha256 indexed unicode
  refine ⟨state, _, hashed, restoreIsolated_ok.mpr ⟨⟨others, verified.later later,
    verified.ledgerHead, state,
    hashed, rfl⟩, indexed.restored_eq.symm⟩, fun more => ⟨rfl, rfl, rfl, fun _ => rfl⟩⟩

theorem restore_round_trip_sample :
    ∃ state copy, (record sampleHost .empty sampleCalls).fullStateSha256 sampleHost = .ok state ∧
      restoreIsolated sampleHost sampleEnv.now
        (.list ((record sampleHost .empty sampleCalls).events.map Event.toValue))
        (record sampleHost .empty sampleCalls).headHash (.str state) = .ok copy ∧
      ∀ more : List (Call ZeroFloat),
        copy.BehavesAs sampleHost (record sampleHost .empty sampleCalls) more := by
  have evaluated : (acceptedHead ((record sampleHost .empty sampleCalls).verify sampleHost
      sampleEnv.now)).isSome = true ∧
      ((record sampleHost .empty sampleCalls).events.all fun e => e.toValue.isUnicode) = true := by
    decide +kernel
  obtain ⟨head, accepted⟩ := Option.isSome_iff_exists.mp evaluated.1
  obtain ⟨report, ran, ok, _⟩ := acceptedHead_eq_some accepted
  refine restore_round_trip sampleCalls ran ok fun e member => ?_
  exact Value.unicode_of_isUnicode (List.all_eq_true.mp evaluated.2 e member)

/-! ## Other events -/

/-- What a ledger promises after it was restored as `origin`. -/
structure Ledger.Safe (host : Host) (l origin : Ledger F) : Prop where
  verifies : ∀ time, ∃ report, l.verify host time = .ok report ∧ report.ok = true
  eventIds : (l.events.map fun e => stripped e.eventId).Nodup
  keys : (l.events.map fun e => stripped e.idempotencyKey).Nodup
  /-- A used key adds nothing, and past the argument checks it answers with its event or
  with a conflict. -/
  answers : ∀ {env : Env} {args : AppendArgs F} {name : Str} {e : Event F}, e ∈ origin.events →
    stripped e.idempotencyKey = .str name →
    normalizeText args.idempotencyKey "idempotency_key" 256 = .ok name →
    (call host l (.append env args)).1 = l ∧
      ∀ request, prepare host args false = .ok request →
        (call host l (.append env args)).2 = .ok e ∨
        (call host l (.append env args)).2 = .error (.idempotencyConflict CONFLICT)

variable {l : Ledger F} {readings : List Reading}

/-- The normalized identifiers and keys of an accepted ledger. -/
theorem Verified.normalized {shape : Value F → List Str → Prop}
    (verified : Verified host now shape (l.events.map Event.toValue) readings) :
    (l.events.map fun e => stripped e.eventId) = (eventIdsOf readings).map Value.str ∧
      (l.events.map fun e => stripped e.idempotencyKey) = (keysOf readings).map Value.str := by
  constructor
  all_goals
    refine List.ext_getElem? fun index => ?_
    cases found : l.events[index]? with
    | none =>
        have bound := List.getElem?_eq_none_iff.mp found
        have lengths := verified.ledgerLength
        rw [List.getElem?_eq_none (by simpa using bound),
          List.getElem?_eq_none (by simp [eventIdsOf, keysOf]; omega)]
    | some e =>
        obtain ⟨r, reading, reads⟩ := verified.event found
        simp [eventIdsOf, keysOf, found, reading, stripped_of_normalizeText reads.identity.eventId,
          stripped_of_normalizeText reads.identity.idempotencyKey]

/-- A key of the index answers an append. -/
theorem Indexed.answers {shape : Value F → List Str → Prop} {related : Event F → Reading → Prop}
    (indexed : Indexed host now shape related l readings) (env : Env) {args : AppendArgs F}
    {name : Str} {e : Event F} (member : e ∈ l.events)
    (named : stripped e.idempotencyKey = .str name)
    (used : normalizeText args.idempotencyKey "idempotency_key" 256 = .ok name)
    {request : Request F} (passed : prepare host args false = .ok request) :
    Dail.call host l (.append env args) = (l, .ok e) ∨
      Dail.call host l (.append env args) = (l, .error (.idempotencyConflict CONFLICT)) := by
  obtain ⟨index, r, found, reading, reads, bound⟩ := indexed.lookup_of_mem member named
  have keyEq : request.idempotencyKey = name :=
    Except.ok.inj ((prepare_ok passed).idempotencyKey.symm.trans used)
  rw [← keyEq] at bound
  by_cases same : r.requestSha256 = request.requestSha256
  · rw [same] at bound
    exact .inl ((call_ok (c := .append env args)).mpr ⟨request, passed, .replay bound found⟩)
  · exact .inr (call_conflict (c := .append env args) passed bound same)

/-- A ledger in step with an accepted log is safe. -/
theorem Indexed.safe {related : Event F → Reading → Prop} {origin : Ledger F}
    (indexed : Indexed host now CorrectionShape related l readings)
    (before : origin.events <+: l.events) : l.Safe host origin where
  verifies time := ⟨_, verify_ok.mpr ⟨readings, indexed.verified.later time, rfl⟩⟩
  eventIds := by
    rw [indexed.verified.normalized.1]
    exact indexed.verified.eventIds_nodup.map fun _ _ => Value.str.inj
  keys := by
    rw [indexed.verified.normalized.2]
    exact indexed.verified.keys_nodup.map fun _ _ => Value.str.inj
  answers := by
    intro env args name e member named used
    have inside := before.subset member
    refine ⟨?_, fun request passed => ?_⟩
    · cases passed : prepare host args false with
      | error failure =>
          cases ran : Dail.call host l (.append env args) with
          | mk after outcome =>
              cases outcome with
              | error failure => exact call_error ran
              | ok event =>
                  obtain ⟨request, found, _⟩ := call_ok.mp ran
                  cases passed.symm.trans found
      | ok request =>
          rcases indexed.answers env inside named used passed with ran | ran
          · rw [ran]
          · rw [ran]
    · rcases indexed.answers env inside named used passed with ran | ran
      · exact .inl (congrArg Prod.snd ran)
      · exact .inr (congrArg Prod.snd ran)

end Chlom.Dail
