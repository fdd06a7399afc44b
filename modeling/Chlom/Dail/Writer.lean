import Chlom.Dail.Index

/-!
# The contract of the writer

Whatever calls are made on an empty ledger, and however many of them raise, events,
identifiers and keys stay in step, and a key that was used answers with its event or with
a conflict.  Verification accepts the ledger as long as corrections replace an object.
-/

namespace Chlom.Dail

open Python

variable {F : Type} [FloatFormat F] {host : Host} {now : DateTime}

/-! ## Runs -/

/-- Every reached ledger has readings, whatever the calls were. -/
theorem exists_indexed (host : Host) (now : DateTime) (calls : List (Call F)) :
    ∃ readings, Indexed host now (fun _ _ => True) StoredAs (record host .empty calls) readings := by
  refine Runs.invariant_run
    (fun l => ∃ readings, Indexed host now (fun _ _ => True) StoredAs l readings) ?_
    ⟨[], indexed_empty⟩ calls
  rintro l c ⟨readings, indexed⟩
  obtain ⟨more, next⟩ := indexed.call c (fun _ _ _ => trivial) fun _ _ stored => stored
  exact ⟨readings ++ more, next⟩

omit [FloatFormat F] in
theorem Stores.prefix {env : Env} {eventId occurredAt : Value F} {request : Request F}
    {l l' : Ledger F} {event : Event F}
    (stores : Stores host env eventId occurredAt request l event l') : l.events <+: l'.events := by
  cases stores with
  | replay => exact List.prefix_refl _
  | fresh => exact List.prefix_append _ _

/-- The three parts of a ledger are in step. -/
structure Ledger.Consistent (l : Ledger F) : Prop where
  sequence : ∀ {index : Nat} {e : Event F}, l.events[index]? = some e →
    e.sequence = .int (index + 1 : Nat)
  eventIds : l.events.map Event.eventId = l.eventIds.map Value.str ∧ l.eventIds.Nodup
  keys : (l.events.map Event.idempotencyKey).Nodup
  bound : ∀ {index : Nat} {e : Event F}, l.events[index]? = some e → ∃ name hash,
    e.idempotencyKey = .str name ∧ e.requestSha256 = .str hash ∧
      l.idempotency.lookup name = some (hash, index + 1)
  binds : ∀ {name hash : Str} {sequence : Nat},
    l.idempotency.lookup name = some (hash, sequence) → ∃ index e, sequence = index + 1 ∧
      l.events[index]? = some e ∧ e.idempotencyKey = .str name ∧ e.requestSha256 = .str hash
  genesis : ∀ {e : Event F}, l.events[0]? = some e → e.previousEventHash = .none
  linked : ∀ {index : Nat} {e next : Event F}, l.events[index]? = some e →
    l.events[index + 1]? = some next → next.previousEventHash = e.eventHash

theorem Indexed.consistent {shape : Value F → List Str → Prop} {l : Ledger F}
    {readings : List Reading} (indexed : Indexed host now shape StoredAs l readings) :
    l.Consistent where
  sequence := by
    intro index e found
    obtain ⟨r, _, reads⟩ := indexed.getElem? found
    exact reads.sequence
  eventIds := by
    rw [indexed.eventIds]
    refine ⟨?_, indexed.verified.eventIds_nodup⟩
    rw [eventIdsOf, List.map_map]
    exact List.forall₂_eq_eq_eq ▸ List.forall₂_map_left_iff.mpr
      (List.forall₂_map_right_iff.mpr (indexed.related.imp fun e r stored => stored.eventId))
  keys := by
    have same : l.events.map Event.idempotencyKey = (keysOf readings).map Value.str := by
      rw [keysOf, List.map_map]
      exact List.forall₂_eq_eq_eq ▸ List.forall₂_map_left_iff.mpr
        (List.forall₂_map_right_iff.mpr
          (indexed.related.imp fun e r stored => stored.idempotencyKey))
    rw [same]
    exact indexed.verified.keys_nodup.map fun _ _ => Value.str.inj
  bound := by
    intro index e found
    obtain ⟨r, reading, reads⟩ := indexed.getElem? found
    have stored := indexed.related_getElem? found reading
    exact ⟨_, _, stored.idempotencyKey, reads.requestSha256,
      indexed.lookup.mpr ⟨index, r, reading, rfl, rfl, rfl⟩⟩
  binds := by
    intro name hash sequence bound
    obtain ⟨index, r, reading, rfl, rfl, place⟩ := indexed.lookup.mp bound
    obtain ⟨e, found, reads⟩ := indexed.exists_event reading
    exact ⟨index, e, place, found, (indexed.related_getElem? found reading).idempotencyKey,
      reads.requestSha256⟩
  genesis := by
    intro e found
    obtain ⟨r, _, reads⟩ := indexed.getElem? found
    exact reads.previous
  linked := by
    intro index e next found after
    obtain ⟨r, reading, reads⟩ := indexed.getElem? found
    obtain ⟨_, _, nextReads⟩ := indexed.getElem? after
    have last : lastHash (readings.take (index + 1)) = some r.eventHash := by
      rw [List.take_add_one, reading, Option.toList_some, lastHash_append_singleton]
    rw [nextReads.previous, last, reads.eventHash]
    rfl

/-! ## Used keys -/

/-- The stored event is what a request with its key asks for. -/
structure Event.Answers (e : Event F) (request : Request F) : Prop where
  eventType : e.eventType = .str request.fields.eventType
  entityType : e.entityType = .str request.fields.entityType
  entityId : e.entityId = .str request.fields.entityId
  entityVersion : e.entityVersion = optional request.fields.entityVersion
  actorDid : e.actorDid = optional request.fields.actorDid
  actorRef : e.actorRef = optional request.fields.actorRef
  payloadJsonbText : e.payloadJsonbText = request.jsonbText

/-- A text that is hashed. -/
def textOf : Value F → List Str
  | .str s => [s]
  | _ => []

/-- The texts whose digests a request carries. -/
def Request.texts (request : Request F) : List Str :=
  textOf request.jsonbText ++ [requestText F request.fields]

variable {l : Ledger F} {readings : List Reading} {shape : Value F → List Str → Prop}

/-- An event of a request is appended, under a key that no event had. -/
structure Ledger.Appends (l l' : Ledger F) (request : Request F) (e : Event F) : Prop where
  fresh : ∀ other ∈ l.events, other.idempotencyKey ≠ e.idempotencyKey
  events : l'.events = l.events ++ [e]
  bound : l'.idempotency.lookup request.idempotencyKey =
    some (request.requestSha256, l.events.length + 1)

/-- A call that is accepted returns the event its key is bound to, or stores the one it returns. -/
theorem Indexed.accepted {shape : Value F → List Str → Prop} {l : Ledger F}
    {readings : List Reading} (indexed : Indexed host now shape StoredAs l readings) {c : Call F}
    {e : Event F} (done : (Dail.call host l c).2 = .ok e) :
    ∃ request, c.validate host l = .ok request ∧
      e.idempotencyKey = .str request.idempotencyKey ∧
      (e ∈ l.events ∧ (Dail.call host l c).1 = l ∨
        e.Answers request ∧ l.Appends (Dail.call host l c).1 request e) := by
  cases ran : Dail.call host l c with
  | mk after outcome =>
      rw [ran] at done
      subst done
      obtain ⟨request, passed, stores⟩ := call_ok.mp ran
      refine ⟨request, passed, ?_⟩
      cases stores with
      | replay bound found =>
          obtain ⟨index, r, reading, named, _, rfl⟩ := indexed.lookup.mp bound
          have stored := indexed.related_getElem? found reading
          exact ⟨named ▸ stored.idempotencyKey, .inl ⟨List.mem_of_getElem? found, rfl⟩⟩
      | fresh unbound named new timestamp hashed =>
          refine ⟨rfl, .inr ⟨⟨rfl, rfl, rfl, rfl, rfl, rfl, rfl⟩, ?_, rfl, ?_⟩⟩
          · intro other member same
            obtain ⟨index, r, _, _, _, bound⟩ := indexed.lookup_of_mem member
              (by rw [same]; exact (c.isRequest passed).idempotencyKey.stripped_str)
            cases unbound.symm.trans bound
          · have absent := lookup_eq_none_iff_not_mem.mp unbound
            rw [dictSet_of_not_mem absent, List.lookup_append, unbound]
            exact List.lookup_cons_self

/-- What verification reports of a ledger in step with its readings. -/
theorem Indexed.verify {related : Event F → Reading → Prop} {l : Ledger F}
    {readings : List Reading} (indexed : Indexed host now CorrectionShape related l readings) :
    l.verify host now = .ok (cleanReport readings) :=
  (verify_ok.mpr ⟨readings, indexed.verified, rfl⟩).1

/-- A correction that replaces the payload of an event by a number. -/
def numberCorrection : CorrectionArgs ZeroFloat where
  targetEventId := .str (lit "event-1")
  reason := .str (lit "miscounted")
  replacementPayload := ⟨.int 3, .int 3⟩
  idempotencyKey := .str (lit "key-2")
  actorRef := .str (lit "service")
  eventId := .str (lit "event-2")
  occurredAt := .str (lit "2026-08-26T12:00:00.000000Z")

/-- The same correction with an object. -/
def objectCorrection : CorrectionArgs ZeroFloat :=
  { numberCorrection with replacementPayload := emptyObject }

/-- An event and its correction. -/
def sampleCalls : List (Call ZeroFloat) :=
  [.append sampleEnv (sampleArgs "event-1" "key-1"), .appendCorrection sampleEnv objectCorrection]

end Chlom.Dail
