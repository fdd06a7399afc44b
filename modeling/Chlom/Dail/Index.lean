import Chlom.Dail.Appending
import Chlom.Library.Runs

/-!
# The ledger and its index

Next to the events the ledger keeps the set of their identifiers and what each key is
bound to.  Both are functions of the log that verification reads, and a call that
appends an event keeps them so.
-/

namespace Chlom.Dail

open Python

variable {F : Type}

/-! ## Bindings -/

/-- A dictionary gives a key the value it is listed with. -/
theorem lookup_eq_some_iff_mem {α : Type} {bindings : List (Str × α)}
    (distinct : (bindings.map Prod.fst).Nodup) {name : Str} {bound : α} :
    bindings.lookup name = some bound ↔ (name, bound) ∈ bindings := by
  constructor
  · intro found
    obtain ⟨before, after, rfl, _⟩ := List.lookup_eq_some_iff.mp found
    simp
  · intro member
    obtain ⟨before, after, rfl⟩ := List.append_of_mem member
    refine List.lookup_eq_some_iff.mpr ⟨before, after, rfl, fun entry earlier => ?_⟩
    rw [List.map_append, List.map_cons, List.nodup_append] at distinct
    have apart := distinct.2.2 entry.1 (List.mem_map_of_mem earlier) name List.mem_cons_self
    simpa [bne_iff_ne] using apart.symm

theorem lookup_eq_none_iff_not_mem {α : Type} {bindings : List (Str × α)} {name : Str} :
    bindings.lookup name = none ↔ name ∉ bindings.map Prod.fst := by
  rw [List.lookup_eq_none_iff]
  simp only [List.mem_map, not_exists, not_and, bne_iff_ne]
  exact ⟨fun differs entry member same => differs entry member same.symm,
    fun absent entry member same => absent entry member same.symm⟩

theorem dictSet_of_not_mem {α : Type} {bindings : List (Str × α)} {name : Str} {bound : α}
    (fresh : name ∉ bindings.map Prod.fst) :
    dictSet bindings name bound = bindings ++ [(name, bound)] :=
  if_neg fresh

/-- The request and the position that each key of a log is bound to. -/
def bindingsOf (readings : List Reading) : List (Str × Str × Nat) :=
  readings.mapIdx fun index r => (r.identity.idempotencyKey, r.requestSha256, index + 1)

@[simp]
theorem bindingsOf_append_singleton (readings : List Reading) (r : Reading) :
    bindingsOf (readings ++ [r]) =
      bindingsOf readings ++ [(r.identity.idempotencyKey, r.requestSha256, readings.length + 1)] := by
  simp [bindingsOf, List.mapIdx_append]

theorem map_fst_bindingsOf (readings : List Reading) :
    (bindingsOf readings).map Prod.fst = keysOf readings := by
  induction readings using List.reverseRecOn with
  | nil => rfl
  | append_singleton readings r ih => simp [ih]

/-- A key is bound to the request and the position of the event that carries it. -/
theorem lookup_bindingsOf {readings : List Reading} (distinct : (keysOf readings).Nodup)
    {name hash : Str} {sequence : Nat} :
    (bindingsOf readings).lookup name = some (hash, sequence) ↔
      ∃ index r, readings[index]? = some r ∧ r.identity.idempotencyKey = name ∧
        r.requestSha256 = hash ∧ sequence = index + 1 := by
  rw [← map_fst_bindingsOf] at distinct
  rw [lookup_eq_some_iff_mem distinct, bindingsOf, List.mem_mapIdx]
  constructor
  · rintro ⟨index, bound, equal⟩
    obtain ⟨rfl, rfl, rfl⟩ := by simpa using equal
    exact ⟨index, readings[index], by simp, rfl, rfl, rfl⟩
  · rintro ⟨index, r, found, rfl, rfl, rfl⟩
    obtain ⟨bound, rfl⟩ := List.getElem?_eq_some_iff.mp found
    exact ⟨index, bound, rfl⟩

/-! ## Accepted logs, position by position -/

section Accepted

variable [FloatFormat F] {host : Host} {now : DateTime} {shape : Value F → List Str → Prop}
  {events : List (Value F)} {readings : List Reading}

theorem Verified.eventIds_nodup (verified : Verified host now shape events readings) :
    (eventIdsOf readings).Nodup := by
  induction verified with
  | nil => exact List.nodup_nil
  | snoc before event reads fresh keyFresh correction ih =>
      rw [eventIdsOf_append_singleton]
      exact List.nodup_append_comm.mp (List.nodup_cons.mpr ⟨fresh, ih⟩)

theorem Verified.keys_nodup (verified : Verified host now shape events readings) :
    (keysOf readings).Nodup := by
  induction verified with
  | nil => exact List.nodup_nil
  | snoc before event reads fresh keyFresh correction ih =>
      rw [keysOf_append_singleton]
      exact List.nodup_append_comm.mp (List.nodup_cons.mpr ⟨keyFresh, ih⟩)

/-- The event at a position has the reading at that position, behind the hash of the
event before it. -/
theorem Verified.getElem? (verified : Verified host now shape events readings) {index : Nat}
    {value : Value F} (found : events[index]? = some value) :
    ∃ e r, Event.ofValue value = some e ∧ readings[index]? = some r ∧
      Reads host now (index + 1) (lastHash (readings.take index)) e r := by
  induction verified with
  | nil => cases found
  | @snoc events readings last e r before event reads fresh keyFresh correction ih =>
      have lengths := before.length
      rcases Nat.lt_trichotomy index events.length with earlier | rfl | later
      · rw [List.getElem?_append_left earlier] at found
        obtain ⟨e, r, eventEq, readingEq, reads⟩ := ih found
        refine ⟨e, r, eventEq, ?_, ?_⟩
        · rw [List.getElem?_append_left (by omega), readingEq]
        · rwa [List.take_append_of_le_length (by omega)]
      · rw [List.getElem?_append_right (Nat.le_refl _), Nat.sub_self] at found
        obtain rfl := Option.some.inj found
        refine ⟨e, r, event, ?_, ?_⟩
        · rw [lengths, List.getElem?_append_right (Nat.le_refl _), Nat.sub_self]
          rfl
        · rwa [lengths, List.take_left, ← lengths]
      · rw [List.getElem?_eq_none (by simp; omega)] at found
        cases found

/-- The readings do not depend on the time at which the list is verified. -/
theorem Reads.later {position : Nat} {previous : Option Str} {e : Event F} {r : Reading}
    (reads : Reads host now position previous e r) (later : DateTime) :
    Reads host later position previous e r := by
  have again : normalizeTimestamp host later e.occurredAt = .ok r.occurredAt := by
    rw [reads.occurredAt]
    exact normalizeTimestamp_again reads.timestamp later
  exact
    { reads with
      timestamp := again
      hash := (productionEventHash_congr (again.trans reads.timestamp.symm)).trans reads.hash }

theorem Verified.later (verified : Verified host now shape events readings) (later : DateTime) :
    Verified host later shape events readings := by
  induction verified with
  | nil => exact .nil
  | snoc before event reads fresh keyFresh correction ih =>
      exact .snoc ih event (reads.later later) fresh keyFresh correction

end Accepted

/-! ## The index -/

/-- The event stores the identity of its reading as it was normalized. -/
structure StoredAs (e : Event F) (r : Reading) : Prop where
  eventId : e.eventId = .str r.identity.eventId
  eventType : e.eventType = .str r.identity.eventType
  entityType : e.entityType = .str r.identity.entityType
  entityId : e.entityId = .str r.identity.entityId
  entityVersion : e.entityVersion = optional r.identity.entityVersion
  actorDid : e.actorDid = optional r.identity.actorDid
  actorRef : e.actorRef = optional r.identity.actorRef
  idempotencyKey : e.idempotencyKey = .str r.identity.idempotencyKey

section Indexed

variable [FloatFormat F] {host : Host} {now : DateTime} {shape : Value F → List Str → Prop}
  {related : Event F → Reading → Prop} {l l' : Ledger F} {readings : List Reading}

theorem Verified.ledgerLength
    (verified : Verified host now shape (l.events.map Event.toValue) readings) :
    l.events.length = readings.length := by
  rw [← verified.length, List.length_map]

/-- The event at a position and its reading. -/
theorem Verified.event
    (verified : Verified host now shape (l.events.map Event.toValue) readings) {index : Nat}
    {e : Event F} (found : l.events[index]? = some e) :
    ∃ r, readings[index]? = some r ∧
      Reads host now (index + 1) (lastHash (readings.take index)) e r := by
  have listed : (l.events.map Event.toValue)[index]? = some e.toValue := by
    rw [List.getElem?_map, found]
    rfl
  obtain ⟨e', r, event, reading, reads⟩ := verified.getElem? listed
  obtain rfl := Option.some.inj ((Event.ofValue_toValue e).symm.trans event)
  exact ⟨r, reading, reads⟩

/-- The ledger ends in the hash of its last reading. -/
theorem Verified.getLast?
    (verified : Verified host now shape (l.events.map Event.toValue) readings) :
    l.events.getLast?.map Event.eventHash = (lastHash readings).map Value.str := by
  rw [List.getLast?_eq_getElem?, lastHash, List.getLast?_eq_getElem?, ← verified.ledgerLength]
  cases found : l.events[l.events.length - 1]? with
  | none =>
      have bound := List.getElem?_eq_none_iff.mp found
      rw [List.getElem?_eq_none (by rw [← verified.ledgerLength]; omega)]
      rfl
  | some e =>
      obtain ⟨r, reading, reads⟩ := verified.event found
      rw [reading]
      exact congrArg some reads.eventHash

theorem Verified.previousHash
    (verified : Verified host now shape (l.events.map Event.toValue) readings) :
    l.previousHash = optional (lastHash readings) := by
  have last := verified.getLast?
  rw [Ledger.previousHash]
  cases found : l.events.getLast? with
  | none =>
      rw [found] at last
      rw [Option.map_eq_none_iff.mp last.symm]
      rfl
  | some e =>
      rw [found] at last
      obtain ⟨hash, hashEq, same⟩ := Option.map_eq_some_iff.mp last.symm
      rw [hashEq]
      exact same.symm

theorem Verified.ledgerHead
    (verified : Verified host now shape (l.events.map Event.toValue) readings) :
    l.headHash = .str (headOf readings) := by
  have last := verified.getLast?
  rw [Ledger.headHash, headOf]
  cases found : l.events.getLast? with
  | none =>
      rw [found] at last
      rw [Option.map_eq_none_iff.mp last.symm]
      rfl
  | some e =>
      rw [found] at last
      obtain ⟨hash, hashEq, same⟩ := Option.map_eq_some_iff.mp last.symm
      rw [hashEq]
      exact same.symm

/-- The ledger is accepted and indexed as its readings say; `related` is what is known of
the stored events beyond that. -/
structure Indexed (host : Host) (now : DateTime) (shape : Value F → List Str → Prop)
    (related : Event F → Reading → Prop) (l : Ledger F) (readings : List Reading) : Prop where
  verified : Verified host now shape (l.events.map Event.toValue) readings
  related : List.Forall₂ related l.events readings
  eventIds : l.eventIds = eventIdsOf readings
  idempotency : l.idempotency = bindingsOf readings

theorem indexed_empty : Indexed host now shape related (Ledger.empty : Ledger F) [] :=
  ⟨.nil, .nil, rfl, rfl⟩

theorem Indexed.length (indexed : Indexed host now shape related l readings) :
    l.events.length = readings.length :=
  indexed.verified.ledgerLength

/-- The event at a position and its reading. -/
theorem Indexed.getElem? (indexed : Indexed host now shape related l readings) {index : Nat}
    {e : Event F} (found : l.events[index]? = some e) :
    ∃ r, readings[index]? = some r ∧
      Reads host now (index + 1) (lastHash (readings.take index)) e r :=
  indexed.verified.event found

theorem Indexed.related_getElem? (indexed : Indexed host now shape related l readings)
    {index : Nat} {e : Event F} {r : Reading} (found : l.events[index]? = some e)
    (reading : readings[index]? = some r) : related e r := by
  obtain ⟨bound, rfl⟩ := List.getElem?_eq_some_iff.mp found
  obtain ⟨otherBound, rfl⟩ := List.getElem?_eq_some_iff.mp reading
  exact indexed.related.get bound otherBound

/-- Every reading belongs to an event. -/
theorem Indexed.exists_event (indexed : Indexed host now shape related l readings) {index : Nat}
    {r : Reading} (reading : readings[index]? = some r) :
    ∃ e, l.events[index]? = some e ∧
      Reads host now (index + 1) (lastHash (readings.take index)) e r := by
  obtain ⟨bound, rfl⟩ := List.getElem?_eq_some_iff.mp reading
  have inside : index < l.events.length := by
    rw [indexed.length]
    exact bound
  obtain ⟨r, found, reads⟩ := indexed.getElem? (List.getElem?_eq_getElem inside)
  obtain rfl := Option.some.inj ((List.getElem?_eq_getElem bound).symm.trans found)
  exact ⟨_, List.getElem?_eq_getElem inside, reads⟩

/-- The event a key is bound to. -/
theorem Indexed.lookup (indexed : Indexed host now shape related l readings) {name hash : Str}
    {sequence : Nat} : l.idempotency.lookup name = some (hash, sequence) ↔
      ∃ index r, readings[index]? = some r ∧ r.identity.idempotencyKey = name ∧
        r.requestSha256 = hash ∧ sequence = index + 1 := by
  rw [indexed.idempotency]
  exact lookup_bindingsOf indexed.verified.keys_nodup

/-- The binding of an event's key. -/
theorem Indexed.lookup_of_mem (indexed : Indexed host now shape related l readings) {e : Event F}
    (member : e ∈ l.events) {name : Str} (named : stripped e.idempotencyKey = .str name) :
    ∃ index r, l.events[index]? = some e ∧ readings[index]? = some r ∧
      Reads host now (index + 1) (lastHash (readings.take index)) e r ∧
      l.idempotency.lookup name = some (r.requestSha256, index + 1) := by
  obtain ⟨index, found⟩ := List.mem_iff_getElem?.mp member
  obtain ⟨r, reading, reads⟩ := indexed.getElem? found
  rw [stripped_of_normalizeText reads.identity.idempotencyKey] at named
  exact ⟨index, r, found, reading, reads,
    indexed.lookup.mpr ⟨index, r, reading, Value.str.inj named, rfl, rfl⟩⟩

theorem Indexed.lookup_eq_none (indexed : Indexed host now shape related l readings)
    {name : Str} : l.idempotency.lookup name = none ↔ name ∉ keysOf readings := by
  rw [lookup_eq_none_iff_not_mem, indexed.idempotency, map_fst_bindingsOf]

/-- A call past its checks keeps the index: it adds nothing, or one event with its reading. -/
theorem Indexed.stores (indexed : Indexed host now shape related l readings)
    {request : Request F} (isRequest : IsRequest host request)
    (correction : request.fields.eventType = CORRECTION_EVENT_TYPE →
      shape request.payload (eventIdsOf readings))
    (native : ∀ e r, StoredAs e r → related e r) {env : Env} {eventId occurredAt : Value F}
    {event : Event F} (stores : Stores host env eventId occurredAt request l event l') :
    ∃ more, Indexed host now shape related l' (readings ++ more) := by
  cases stores with
  | replay => exact ⟨[], by simpa using indexed⟩
  | @fresh id occurred hash unbound named new timestamp hashed =>
      obtain ⟨text, _, _, stored, _⟩ := isRequest.represents
      rw [indexed.verified.previousHash] at hashed ⊢
      have normal := newEventId_ok named
      have reads := isRequest.reads stored normal timestamp hashed now
      have keyFresh := indexed.lookup_eq_none.mp unbound
      have idFresh : id ∉ eventIdsOf readings := indexed.eventIds ▸ new
      rw [indexed.length] at reads ⊢
      refine ⟨[request.reading text id occurred hash], ?_, ?_, ?_, ?_⟩
      · rw [List.map_append]
        refine .snoc indexed.verified (Event.ofValue_toValue _) ?_ idFresh keyFresh correction
        rwa [indexed.verified.length]
      · exact List.rel_append indexed.related
          (.cons (native _ _ ⟨rfl, rfl, rfl, rfl, rfl, rfl, rfl, rfl⟩) .nil)
      · rw [indexed.eventIds, eventIdsOf_append_singleton]
        exact setAdd_of_not_mem idFresh
      · rw [indexed.idempotency, bindingsOf_append_singleton]
        refine dictSet_of_not_mem ?_
        rwa [map_fst_bindingsOf]

/-- A call keeps the index, whether it raises or not. -/
theorem Indexed.call (indexed : Indexed host now shape related l readings) (c : Call F)
    (correction : ∀ request, c.validate host l = .ok request →
      request.fields.eventType = CORRECTION_EVENT_TYPE →
        shape request.payload (eventIdsOf readings))
    (native : ∀ e r, StoredAs e r → related e r) :
    ∃ more, Indexed host now shape related (call host l c).1 (readings ++ more) := by
  cases ran : Dail.call host l c with
  | mk after outcome =>
      cases outcome with
      | error failure =>
          rw [call_error ran]
          exact ⟨[], by simpa using indexed⟩
      | ok event =>
          obtain ⟨request, passed, stores⟩ := call_ok.mp ran
          exact indexed.stores (c.isRequest passed) (correction request passed) native stores

end Indexed

end Chlom.Dail
