import Chlom.Dail.Acceptance

/-!
# What the head hash commits to

The hash of an accepted event covers the delimited texts of its fields and the hash of
its predecessor.  No text holds the delimiter, so as long as the digest does not collide
on the texts at hand, the head hash of an accepted list determines the texts of every
event in it.
-/

namespace Chlom.Dail

open Python

variable {F : Type}

/-! ## The texts of an event -/

/-- An absent text counted as empty. -/
def orEmpty : Value F → Value F
  | .none => .str []
  | v => v

/-- The actor of an event: the DID if present, else the reference. -/
def Event.actor (e : Event F) : Value F :=
  if e.actorDid.isNone then e.actorRef else e.actorDid

theorem orEmpty_of_normalizeOptionalText {v : Value F} {field : String} {maximum : Nat}
    {o : Option Str} (normalized : normalizeOptionalText v field maximum = .ok o) :
    orEmpty (stripped v) = .str (o.getD []) := by
  rcases normalizeOptionalText_ok.mp normalized with ⟨rfl, rfl⟩ | ⟨s, rfl, found⟩
  · rfl
  · rw [stripped_of_normalizeText found]
    rfl

theorem orEmpty_actor {e : Event F} {actor : Str}
    (found : effectiveActor e.actorDid e.actorRef = .ok actor) :
    orEmpty (stripped e.actor) = .str actor := by
  simp only [effectiveActor, Except.bind_ok] at found
  obtain ⟨did, didEq, chosen⟩ := found
  have didText := (normalizeOptionalHashField_ok.mp didEq).1
  cases did with
  | some did =>
      obtain rfl := Except.pure_ok.mp chosen
      rcases normalizeOptionalText_ok.mp didText with ⟨_, absent⟩ | ⟨s, same, named⟩
      · cases absent
      · obtain rfl := Option.some.inj same
        obtain ⟨raw, spelled, _⟩ := normalizeText_ok.mp named
        have present : e.actor = e.actorDid := by
          simp [Event.actor, spelled, Value.isNone]
        rw [present, stripped_of_normalizeText named]
        rfl
  | none =>
      obtain ⟨reference, referenceEq, chosen⟩ := Except.bind_ok.mp chosen
      obtain rfl := Except.pure_ok.mp chosen
      rcases normalizeOptionalText_ok.mp didText with ⟨absent, _⟩ | ⟨s, same, _⟩
      · have other : e.actor = e.actorRef := by
          simp [Event.actor, absent, Value.isNone]
        rw [other]
        exact orEmpty_of_normalizeOptionalText (normalizeOptionalHashField_ok.mp referenceEq).1
      · cases same

/-- A normalized text of a field that is already normalized is that field. -/
theorem normalizeHashField_of_normal {v : Value F} {field : String} {maximum : Nat} {s t : Str}
    (normalized : normalizeText v field maximum = .ok s)
    (again : normalizeHashField (.str s : Value F) field maximum = .ok t) :
    normalizeHashField v field maximum = .ok t := by
  have same := (normalizeHashField_ok.mp again).1
  rw [(isNormal_of_normalizeText normalized).normalizeText field] at same
  obtain rfl := Except.ok.inj same
  exact normalizeHashField_ok.mpr ⟨normalized, (normalizeHashField_ok.mp again).2⟩

theorem normalizeOptionalHashField_of_normal {v : Value F} {field : String} {maximum : Nat}
    {o p : Option Str} (normalized : normalizeOptionalText v field maximum = .ok o)
    (again : normalizeOptionalHashField (optional o : Value F) field maximum = .ok p) :
    normalizeOptionalHashField v field maximum = .ok p := by
  have same := (normalizeOptionalHashField_ok.mp again).1
  rw [(optionalNormal_of_normalizeOptionalText normalized).normalizeOptionalText field] at same
  obtain rfl := Except.ok.inj same
  exact normalizeOptionalHashField_ok.mpr ⟨normalized, (normalizeOptionalHashField_ok.mp again).2⟩

variable {host : Host} {now : DateTime} {e : Event F}

/-- The normalized identity of an event gives the texts that its stored fields give. -/
theorem ReadsIdentity.hashesAs {identity : Identity} {t : HashText}
    (reads : ReadsIdentity e identity) (hashes : HashesAs host now (identity.hashFields e) t) :
    HashesAs host now e.hashFields t where
  previous := hashes.previous
  eventId := normalizeHashField_of_normal reads.eventId hashes.eventId
  schemaVersion := hashes.schemaVersion
  eventType := normalizeHashField_of_normal reads.eventType hashes.eventType
  entityType := normalizeHashField_of_normal reads.entityType hashes.entityType
  entityId := normalizeHashField_of_normal reads.entityId hashes.entityId
  entityVersion := by
    obtain ⟨version, versionEq, found⟩ := hashes.entityVersion
    exact ⟨version, versionEq, normalizeOptionalHashField_of_normal reads.entityVersion found⟩
  actor := by
    have found := hashes.actor
    simp only [effectiveActor, Except.bind_ok, Identity.hashFields] at found
    obtain ⟨did, didEq, chosen⟩ := found
    simp only [effectiveActor, Except.bind_ok, Event.hashFields]
    refine ⟨did, normalizeOptionalHashField_of_normal reads.actorDid didEq, ?_⟩
    cases did with
    | some did => exact chosen
    | none =>
        obtain ⟨reference, referenceEq, chosen⟩ := Except.bind_ok.mp chosen
        exact Except.bind_ok.mpr
          ⟨reference, normalizeOptionalHashField_of_normal reads.actorRef referenceEq, chosen⟩
  payloadSha256 := hashes.payloadSha256
  occurredAt := hashes.occurredAt

/-! ## The chain of texts -/

/-- The digest of the texts of an event. -/
def HashText.digest (host : Host) (t : HashText) : Option Str :=
  (encodeUtf8 t.text).map fun encoded => hexText (host.sha256 encoded).toList

/-- How the texts of events are chained: the first one names the genesis marker. -/
def textLink (host : Host) : HashChain.Link HashText (Option Str) where
  previous t := if t.previous = GENESIS_MARKER then none else some t.previous
  own := HashText.digest host
  digest := HashText.digest host

theorem digest_of_sha256Text {t : HashText} {hash : Str}
    (hashed : sha256Text host t.text = .ok hash) : t.digest host = some hash := by
  obtain ⟨encoded, encodes, rfl⟩ := sha256Text_ok.mp hashed
  simp [HashText.digest, encodes]

theorem isNormal_schemaVersion : IsNormal 32 SCHEMA_VERSION :=
  ⟨by decide +kernel, by decide +kernel, by decide +kernel⟩

theorem not_isHash_genesis : ¬ IsHash GENESIS_MARKER := by
  decide +kernel

theorem previous_of_marker {previous : Option Str} {t : HashText}
    (marker : previousMarker (optional previous : Value F) = .ok t.previous) :
    (textLink host).previous t = previous := by
  cases previous with
  | none =>
      obtain same := Except.ok.inj marker
      simp [textLink, ← same]
  | some hash =>
      rcases previousMarker_ok.mp marker with ⟨absent, _⟩ | ⟨same, good⟩
      · cases absent
      · obtain rfl := Value.str.inj same
        have notGenesis : t.previous ≠ GENESIS_MARKER := by
          intro genesis
          rw [genesis] at good
          exact not_isHash_genesis good
        simp [textLink, notGenesis]

/-- What is committed of a stored event. -/
structure Committed (host : Host) (now : DateTime) (value : Value F) (t : HashText) : Prop where
  reading : ∃ e, Event.ofValue value = some e ∧ HashesAs host now e.hashFields t ∧
    t.schemaVersion = SCHEMA_VERSION ∧ e.occurredAt = .str t.occurredAt ∧
    ∃ text, e.payloadJsonbText = .str text ∧ sha256Text host text = .ok t.payloadSha256
  clean : ∀ field ∈ t.fields, point '|' ∉ field
  digest : ∃ hash, sha256Text host t.text = .ok hash

section Accepted

variable [FloatFormat F]

/-- An accepted list has a chain of texts that ends in its head hash. -/
theorem Verified.texts {shape : Value F → List Str → Prop} {events : List (Value F)}
    {readings : List Reading} (verified : Verified host now shape events readings) :
    ∃ texts, List.Forall₂ (Committed host now) events texts ∧
      HashChain.Linked (textLink host) none texts ∧
      HashChain.head (textLink host) none texts = lastHash readings := by
  induction verified with
  | nil => exact ⟨[], .nil, trivial, rfl⟩
  | @snoc events readings value e r before event reads fresh keyFresh correction ih =>
      obtain ⟨texts, committed, linked, head⟩ := ih
      obtain ⟨t, hashes, hashed⟩ := productionEventHash_ok.mp reads.hash
      have stored := reads.identity.hashesAs hashes
      have schema : t.schemaVersion = SCHEMA_VERSION := by
        have found := (normalizeHashField_ok.mp stored.schemaVersion).1
        rw [Event.hashFields, reads.schemaVersion] at found
        exact Except.ok.inj (found.symm.trans (isNormal_schemaVersion.normalizeText _))
      have occurred : e.occurredAt = .str t.occurredAt := by
        have found := stored.occurredAt
        rw [Event.hashFields, reads.timestamp] at found
        rw [reads.occurredAt, Except.ok.inj found]
      have payload : sha256Text host r.jsonbText = .ok t.payloadSha256 := by
        have found := (requireHash_ok.mp stored.payloadSha256).1
        rw [Event.hashFields, reads.payloadSha256] at found
        rw [reads.payloadHash, Value.str.inj found]
      have next : Committed host now value t :=
        ⟨⟨e, event, stored, schema, occurred, r.jsonbText, reads.represents.stored, payload⟩,
          hashes.clean, _, hashed⟩
      refine ⟨texts ++ [t], ?_, ?_, ?_⟩
      · exact List.rel_append committed (.cons next .nil)
      · have marker := hashes.previous
        rw [Identity.hashFields, reads.previous] at marker
        refine HashChain.linked_append_singleton.mpr ⟨linked, ?_, rfl⟩
        rw [head]
        exact previous_of_marker marker
      · rw [HashChain.head_append_singleton, lastHash_append_singleton]
        exact digest_of_sha256Text hashed

end Accepted

/-! ## What is hashed -/

/-- The texts whose digests an event carries: of its payload and of its fields. -/
def hashedTexts (host : Host) (now : DateTime) (value : Value F) : List Str :=
  match Event.ofValue value with
  | none => []
  | some e =>
      (match e.payloadJsonbText with
        | .str text => [text]
        | _ => []) ++
      (match eventHashText host now e.hashFields with
        | .ok t => [t.text]
        | .error _ => [])

/-- The bytes whose digests a list of events carries. -/
def hashedBytes (host : Host) (now : DateTime) (events : List (Value F)) : List (List UInt8) :=
  (events.flatMap (hashedTexts host now)).filterMap encodeUtf8

theorem mem_hashedBytes {events : List (Value F)} {value : Value F} {text : Str}
    {bytes : List UInt8} (member : value ∈ events) (hashed : text ∈ hashedTexts host now value)
    (encodes : encodeUtf8 text = some bytes) : bytes ∈ hashedBytes host now events :=
  List.mem_filterMap.mpr ⟨text, List.mem_flatMap.mpr ⟨value, member, hashed⟩, encodes⟩

/-- The texts of an event are hashed. -/
theorem Committed.digest_mem {events : List (Value F)} {value : Value F} {t : HashText}
    (committed : Committed host now value t) (member : value ∈ events) :
    ∃ bytes ∈ hashedBytes host now events, encodeUtf8 t.text = some bytes ∧
      t.digest host = some (hexText (host.sha256 bytes).toList) := by
  obtain ⟨e, event, hashes, _⟩ := committed.reading
  obtain ⟨hash, hashed⟩ := committed.digest
  obtain ⟨bytes, encodes, _⟩ := sha256Text_ok.mp hashed
  refine ⟨bytes, mem_hashedBytes member ?_ encodes, encodes, by simp [HashText.digest, encodes]⟩
  simp [hashedTexts, event, eventHashText_ok.mpr hashes]

/-- The payload of an event is hashed. -/
theorem mem_hashedBytes_payload {events : List (Value F)} {value : Value F} {e : Event F}
    {text hash : Str} (member : value ∈ events) (event : Event.ofValue value = some e)
    (stored : e.payloadJsonbText = .str text) (hashed : sha256Text host text = .ok hash) :
    ∃ bytes ∈ hashedBytes host now events, encodeUtf8 text = some bytes ∧
      hexText (host.sha256 bytes).toList = hash := by
  obtain ⟨bytes, encodes, same⟩ := sha256Text_ok.mp hashed
  refine ⟨bytes, mem_hashedBytes member ?_ encodes, encodes, same⟩
  simp [hashedTexts, event, stored]

theorem digest_toList_inj {first second : Id32}
    (equal : hexText first.toList = hexText second.toList) : first = second :=
  Vector.toList_inj.mp (hexText_injective equal)

theorem hexText_zero : hexText ZERO_ID.toList = ZERO_HASH := by
  decide +kernel

/-! ## Two lists with one head -/

/-- Two events agree on what the head hash commits to. -/
structure Event.Agrees (e e' : Event F) : Prop where
  eventId : stripped e.eventId = stripped e'.eventId
  schemaVersion : stripped e.schemaVersion = stripped e'.schemaVersion
  eventType : stripped e.eventType = stripped e'.eventType
  entityType : stripped e.entityType = stripped e'.entityType
  entityId : stripped e.entityId = stripped e'.entityId
  entityVersion : orEmpty (stripped e.entityVersion) = orEmpty (stripped e'.entityVersion)
  actor : orEmpty (stripped e.actor) = orEmpty (stripped e'.actor)
  payloadJsonbText : e.payloadJsonbText = e'.payloadJsonbText
  payloadSha256 : e.payloadSha256 = e'.payloadSha256
  occurredAt : e.occurredAt = e'.occurredAt

/-- Two values are events that agree. -/
def Agree (value other : Value F) : Prop :=
  ∃ e e', Event.ofValue value = some e ∧ Event.ofValue other = some e' ∧ e.Agrees e'

theorem stripped_eq {v w : Value F} {field : String} {maximum : Nat} {s : Str}
    (found : normalizeHashField v field maximum = .ok s)
    (other : normalizeHashField w field maximum = .ok s) : stripped v = stripped w := by
  rw [stripped_of_normalizeText (normalizeHashField_ok.mp found).1,
    stripped_of_normalizeText (normalizeHashField_ok.mp other).1]

theorem HashesAs.entityVersion_eq {e e' : Event F} {later : DateTime} {t : HashText}
    (hashes : HashesAs host now e.hashFields t) (others : HashesAs host later e'.hashFields t) :
    orEmpty (stripped e.entityVersion) = orEmpty (stripped e'.entityVersion) := by
  obtain ⟨version, versionEq, found⟩ := hashes.entityVersion
  obtain ⟨other, otherEq, otherFound⟩ := others.entityVersion
  have first := orEmpty_of_normalizeOptionalText (normalizeOptionalHashField_ok.mp found).1
  have second := orEmpty_of_normalizeOptionalText (normalizeOptionalHashField_ok.mp otherFound).1
  exact first.trans ((congrArg Value.str (versionEq.symm.trans otherEq)).trans second.symm)

/-- Events with one reading of texts agree, unless two payloads collide. -/
theorem Committed.agree {later : DateTime} {first second : List (Value F)} {value other : Value F}
    {t : HashText}
    (collisionFree : Set.InjOn host.sha256
      {bytes | bytes ∈ hashedBytes host now first ++ hashedBytes host later second})
    (committed : Committed host now value t) (member : value ∈ first)
    (others : Committed host later other t) (otherMember : other ∈ second) :
    Agree value other := by
  obtain ⟨e, event, hashes, schema, occurred, text, stored, hashed⟩ := committed.reading
  obtain ⟨e', event', hashes', schema', occurred', text', stored', hashed'⟩ := others.reading
  obtain ⟨bytes, mem, encodes, same⟩ : ∃ bytes ∈ hashedBytes host now first, _ :=
    mem_hashedBytes_payload member event stored hashed
  obtain ⟨bytes', mem', encodes', same'⟩ : ∃ bytes ∈ hashedBytes host later second, _ :=
    mem_hashedBytes_payload otherMember event' stored' hashed'
  have bytesEq : bytes = bytes' :=
    collisionFree (by simp [mem]) (by simp [mem'])
      (digest_toList_inj (same.trans same'.symm))
  subst bytesEq
  have textEq : text = text' := encodeUtf8_inj encodes encodes'
  exact
    ⟨e, e', event, event',
      { eventId := stripped_eq hashes.eventId hashes'.eventId
        schemaVersion := stripped_eq hashes.schemaVersion hashes'.schemaVersion
        eventType := stripped_eq hashes.eventType hashes'.eventType
        entityType := stripped_eq hashes.entityType hashes'.entityType
        entityId := stripped_eq hashes.entityId hashes'.entityId
        entityVersion := hashes.entityVersion_eq hashes'
        actor := by rw [orEmpty_actor hashes.actor, orEmpty_actor hashes'.actor]
        payloadJsonbText := by rw [stored, stored', textEq]
        payloadSha256 := (requireHash_ok.mp hashes.payloadSha256).1.trans
          (requireHash_ok.mp hashes'.payloadSha256).1.symm
        occurredAt := by rw [occurred, occurred'] }⟩

/-- Every text of an accepted list belongs to an event of it. -/
theorem exists_committed {events : List (Value F)} {texts : List HashText}
    (committed : List.Forall₂ (Committed host now) events texts) {t : HashText} (member : t ∈ texts) :
    ∃ value ∈ events, Committed host now value t := by
  induction committed with
  | nil => simp at member
  | cons first rest ih =>
      rcases List.mem_cons.mp member with rfl | later
      · exact ⟨_, List.mem_cons_self, first⟩
      · obtain ⟨value, found, valueCommitted⟩ := ih later
        exact ⟨value, List.mem_cons_of_mem _ found, valueCommitted⟩

/-- Lists with one chain of texts are related event by event. -/
theorem forall₂_of_committed {later : DateTime} {first second : List (Value F)}
    {texts : List HashText} (committed : List.Forall₂ (Committed host now) first texts)
    (others : List.Forall₂ (Committed host later) second texts)
    {Related : Value F → Value F → Prop}
    (relates : ∀ value ∈ first, ∀ other ∈ second, ∀ t, Committed host now value t →
      Committed host later other t → Related value other) :
    List.Forall₂ Related first second := by
  induction committed generalizing second with
  | nil =>
      cases others
      exact .nil
  | cons head rest ih =>
      cases others with
      | cons otherHead otherRest =>
          refine .cons (relates _ List.mem_cons_self _ List.mem_cons_self _ head otherHead) ?_
          exact ih otherRest fun value member other otherMember =>
            relates value (List.mem_cons_of_mem _ member) other (List.mem_cons_of_mem _ otherMember)

section Accepted

variable [FloatFormat F]

/-- The last hash is one that the digest gives. -/
theorem Verified.lastHash_digest {shape : Value F → List Str → Prop} {events : List (Value F)}
    {readings : List Reading} (verified : Verified host now shape events readings) {hash : Str}
    (last : lastHash readings = some hash) :
    ∃ bytes ∈ hashedBytes host now events, hexText (host.sha256 bytes).toList = hash := by
  obtain ⟨texts, committed, linked, head⟩ := verified.texts
  rw [last] at head
  cases texts using List.reverseRecOn with
  | nil => cases head
  | append_singleton before t =>
      obtain ⟨value, member, valueCommitted⟩ := exists_committed committed (t := t) (by simp)
      obtain ⟨bytes, mem, _, digest⟩ := valueCommitted.digest_mem member
      rw [HashChain.head_append_singleton] at head
      exact ⟨bytes, mem, Option.some.inj (digest.symm.trans head)⟩

/-- Lists with one head hash end in one hash, unless a digest is zero. -/
theorem lastHash_eq_of_headOf_eq {later : DateTime} {shape : Value F → List Str → Prop}
    {first second : List (Value F)} {readings others : List Reading}
    (verified : Verified host now shape first readings)
    (otherVerified : Verified host later shape second others)
    (nonzero : ∀ bytes ∈ hashedBytes host now first ++ hashedBytes host later second,
      host.sha256 bytes ≠ ZERO_ID)
    (heads : headOf readings = headOf others) : lastHash readings = lastHash others := by
  have notZero : ∀ {hash : Str}, (∃ bytes ∈ hashedBytes host now first ++
      hashedBytes host later second, hexText (host.sha256 bytes).toList = hash) →
      hash ≠ ZERO_HASH := by
    rintro hash ⟨bytes, mem, rfl⟩ zero
    rw [← hexText_zero] at zero
    exact nonzero bytes mem (digest_toList_inj zero)
  simp only [headOf] at heads
  cases last : lastHash readings with
  | none =>
      cases otherLast : lastHash others with
      | none => rfl
      | some hash =>
          obtain ⟨bytes, mem, hashed⟩ := otherVerified.lastHash_digest otherLast
          rw [last, otherLast] at heads
          exact absurd heads.symm (notZero ⟨bytes, by simp [mem], hashed⟩)
  | some hash =>
      obtain ⟨bytes, mem, hashed⟩ := verified.lastHash_digest last
      cases otherLast : lastHash others with
      | none =>
          rw [last, otherLast] at heads
          exact absurd heads (notZero ⟨bytes, by simp [mem], hashed⟩)
      | some other =>
          rw [last, otherLast] at heads
          exact congrArg some heads

/-- Accepted lists with one head hash agree event by event on everything that the hash
commits to, as far as the digest separates the hashed bytes from each other and from the
zeros of an empty list. -/
theorem head_hash_commits {later : DateTime} {first second : List (Value F)}
    {firstReport secondReport : VerificationReport F}
    (firstRan : verify host now first = .ok firstReport) (firstOk : firstReport.ok = true)
    (secondRan : verify host later second = .ok secondReport) (secondOk : secondReport.ok = true)
    (heads : firstReport.headHash = secondReport.headHash)
    (collisionFree : Set.InjOn host.sha256
      {bytes | bytes ∈ hashedBytes host now first ++ hashedBytes host later second})
    (nonzero : ∀ bytes ∈ hashedBytes host now first ++ hashedBytes host later second,
      host.sha256 bytes ≠ ZERO_ID) :
    List.Forall₂ Agree first second := by
  obtain ⟨readings, verified, rfl⟩ := verify_ok.mp ⟨firstRan, firstOk⟩
  obtain ⟨others, otherVerified, rfl⟩ := verify_ok.mp ⟨secondRan, secondOk⟩
  have lasts := lastHash_eq_of_headOf_eq verified otherVerified nonzero (Value.str.inj heads)
  obtain ⟨texts, committed, linked, head⟩ := verified.texts
  obtain ⟨otherTexts, otherCommitted, otherLinked, otherHead⟩ := otherVerified.texts
  -- two texts with one digest are one: their bytes do not collide and no text is ambiguous
  have textsEq : texts = otherTexts := by
    refine HashChain.eq_of_head_eq linked otherLinked ?_ ?_ ?_ (by rw [head, otherHead, lasts])
    · intro t member t' member' digests _
      obtain ⟨value, valueMember, valueCommitted⟩ := exists_committed committed member
      obtain ⟨other, valueMember', otherCommitted⟩ := exists_committed otherCommitted member'
      obtain ⟨bytes, mem, encodes, digest⟩ := valueCommitted.digest_mem valueMember
      obtain ⟨bytes', mem', encodes', digest'⟩ := otherCommitted.digest_mem valueMember'
      have hashes : hexText (host.sha256 bytes).toList = hexText (host.sha256 bytes').toList :=
        Option.some.inj (digest.symm.trans (digests.trans digest'))
      have bytesEq : bytes = bytes' :=
        collisionFree (by simp [mem]) (by simp [mem']) (digest_toList_inj hashes)
      subst bytesEq
      exact HashText.text_inj valueCommitted.clean otherCommitted.clean
        (encodeUtf8_inj encodes encodes')
    · intro t member
      obtain ⟨value, valueMember, valueCommitted⟩ := exists_committed committed member
      obtain ⟨_, _, _, digest⟩ := valueCommitted.digest_mem valueMember
      exact fun absent => nomatch digest.symm.trans absent
    · intro t member
      obtain ⟨value, valueMember, valueCommitted⟩ := exists_committed otherCommitted member
      obtain ⟨_, _, _, digest⟩ := valueCommitted.digest_mem valueMember
      exact fun absent => nomatch digest.symm.trans absent
  subst textsEq
  exact forall₂_of_committed committed otherCommitted fun value member other otherMember t one two =>
    one.agree collisionFree member two otherMember

end Accepted

/-! ## A padded version -/

/-- Three events of version `v1`. -/
def sampleEvents : List (Event ZeroFloat) :=
  (record sampleHost .empty [.append sampleEnv (sampleArgs "event-1" "key-1"),
    .append sampleEnv (sampleArgs "event-2" "key-2"),
    .append sampleEnv (sampleArgs "event-3" "key-3")]).events

/-- The events with blanks around their versions. -/
def paddedEvents : List (Event ZeroFloat) :=
  sampleEvents.map fun e => { e with entityVersion := .str (lit " v1 ") }

def sampleBytes : List (List UInt8) :=
  hashedBytes sampleHost sampleEnv.now (sampleEvents.map Event.toValue) ++
    hashedBytes sampleHost sampleEnv.now (paddedEvents.map Event.toValue)

theorem sampleEvents_accepted :
    (acceptedHead (verify sampleHost sampleEnv.now (sampleEvents.map Event.toValue))).isSome = true ∧
    acceptedHead (verify sampleHost sampleEnv.now (sampleEvents.map Event.toValue)) =
      acceptedHead (verify sampleHost sampleEnv.now (paddedEvents.map Event.toValue)) := by
  decide +kernel

theorem sampleBytes_apart :
    (sampleBytes.all fun bytes => sampleBytes.all fun other =>
      decide (sampleHost.sha256 bytes = sampleHost.sha256 other → bytes = other)) = true ∧
    (sampleBytes.all fun bytes => decide (sampleHost.sha256 bytes ≠ ZERO_ID)) = true := by
  decide +kernel

theorem sampleBytes_collisionFree :
    Set.InjOn sampleHost.sha256 {bytes | bytes ∈ sampleBytes} ∧
      ∀ bytes ∈ sampleBytes, sampleHost.sha256 bytes ≠ ZERO_ID := by
  obtain ⟨injective, nonzero⟩ := sampleBytes_apart
  simp only [List.all_eq_true, decide_eq_true_eq] at injective nonzero
  exact ⟨fun bytes mem other otherMem => injective bytes mem other otherMem, nonzero⟩

/-- Two reports without errors, with one head hash. -/
theorem sampleEvents_reports :
    ∃ first second, verify sampleHost sampleEnv.now (sampleEvents.map Event.toValue) = .ok first ∧
      verify sampleHost sampleEnv.now (paddedEvents.map Event.toValue) = .ok second ∧
      first.ok = true ∧ second.ok = true ∧ first.headHash = second.headHash := by
  obtain ⟨some, same⟩ := sampleEvents_accepted
  obtain ⟨head, accepted⟩ := Option.isSome_iff_exists.mp some
  obtain ⟨first, firstRan, firstOk, firstHead⟩ := acceptedHead_eq_some accepted
  obtain ⟨second, secondRan, secondOk, secondHead⟩ := acceptedHead_eq_some (same.symm.trans accepted)
  exact ⟨first, second, firstRan, secondRan, firstOk, secondOk, firstHead.trans secondHead.symm⟩

theorem head_hash_commits_sample :
    List.Forall₂ Agree (sampleEvents.map Event.toValue) (paddedEvents.map Event.toValue) := by
  obtain ⟨first, second, firstRan, secondRan, firstOk, secondOk, heads⟩ := sampleEvents_reports
  exact head_hash_commits firstRan firstOk secondRan secondOk heads
    sampleBytes_collisionFree.1 sampleBytes_collisionFree.2

/-- The head hash does not see the blanks around a version. -/
theorem padded_version_same_head :
    ∃ first second, verify sampleHost sampleEnv.now (sampleEvents.map Event.toValue) = .ok first ∧
      verify sampleHost sampleEnv.now (paddedEvents.map Event.toValue) = .ok second ∧
      first.ok = true ∧ second.ok = true ∧ first.headHash = second.headHash ∧
      Set.InjOn sampleHost.sha256 {bytes | bytes ∈ sampleBytes} ∧
      (∀ bytes ∈ sampleBytes, sampleHost.sha256 bytes ≠ ZERO_ID) ∧
      ¬ List.Forall₂ (fun e e' => orEmpty e.entityVersion = orEmpty e'.entityVersion)
        sampleEvents paddedEvents := by
  obtain ⟨first, second, firstRan, secondRan, firstOk, secondOk, heads⟩ := sampleEvents_reports
  refine ⟨first, second, firstRan, secondRan, firstOk, secondOk, heads,
    sampleBytes_collisionFree.1, sampleBytes_collisionFree.2, ?_⟩
  have some : sampleEvents.length = 3 := by decide +kernel
  have version : (sampleEvents.all fun e => e.entityVersion.pyEq (.str (lit "v1"))) = true := by
    decide +kernel
  obtain ⟨e, rest, first⟩ := List.exists_cons_of_length_pos (l := sampleEvents) (by omega)
  rw [paddedEvents, first]
  rw [first, List.all_cons, Bool.and_eq_true] at version
  have stored : e.entityVersion = .str (lit "v1") := by simpa using version.1
  rintro (_ | ⟨same, _⟩)
  rw [stored] at same
  exact absurd (Value.str.inj same) (by decide +kernel)

end Chlom.Dail
