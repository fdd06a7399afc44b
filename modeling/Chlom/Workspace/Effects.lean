import Chlom.Workspace.Drafts

/-!
# What saving a draft does

Every call writes only under the locks that it acquires.  A call that succeeds wrote the
first revision of a new draft, or the next one of a draft that it found at the expected
revision, and added one event with the written row.
-/

namespace Chlom.Workspace

open Assurance (Text Uuid SqlError)
open Locking

variable {hash : Uuid → Int} {sha256 : Text → Text} {t t' : Tables} {held held' : List Lock}

/-! ## Locks -/

theorem find_of_agree {seen : Tables} {id : Uuid} (member : Lock.draft id ∈ held)
    (agree : AgreeOn (parts hash) held t seen) : seen.drafts.find id = t.drafts.find id :=
  (congrArg Prod.fst (agree (.draft id) member)).symm

theorem eventsOf_of_agree {seen : Tables} {id : Uuid} (member : Lock.draft id ∈ held)
    (agree : AgreeOn (parts hash) held t seen) : eventsOf seen id = eventsOf t id :=
  (congrArg Prod.snd (agree (.draft id) member)).symm

theorem sameId_of_agree {seen : Tables} {eventId : Uuid} (member : Lock.eventId eventId ∈ held)
    (agree : AgreeOn (parts hash) held t seen) :
    (seen.events.filter fun e => e.eventId = eventId) =
      t.events.filter fun e => e.eventId = eventId :=
  (agree (.eventId eventId) member).symm

theorem local_putDraft {d : Draft} (member : Lock.draft d.id ∈ held) :
    Local (parts hash) held fun t => { t with drafts := t.drafts.put d } := by
  apply Local.of_cases
  intro name
  cases name with
  | draft other =>
      by_cases same : d.id = other
      · subst same
        exact .inr ⟨member, fun part => (some d, part.2),
          fun _ => Prod.ext Table.find_put_self rfl⟩
      · exact .inl fun _ => Prod.ext (Table.find_put_of_ne same) rfl
  | _ => exact .inl fun _ => rfl

theorem local_appendEvent {e : Event} (account : Lock.advisory (hash e.userId) ∈ held)
    (draft : Lock.draft e.draftId ∈ held) (eventId : Lock.eventId e.eventId ∈ held) :
    Local (parts hash) held fun t => { t with events := t.events ++ [e] } := by
  apply Local.of_cases
  intro name
  cases name with
  | advisory key =>
      by_cases same : hash e.userId = key
      · subst same
        exact .inr ⟨account, fun part : List Event => part ++ [e].filter _,
          fun _ => List.filter_append ..⟩
      · exact .inl fun _ => filter_concat (by simp [same])
  | draft other =>
      by_cases same : e.draftId = other
      · subst same
        exact .inr ⟨draft, fun part => (part.1, part.2 ++ [e].filter _),
          fun _ => Prod.ext rfl (List.filter_append ..)⟩
      · exact .inl fun _ => Prod.ext rfl (filter_concat (by simp [same]))
  | eventId other =>
      by_cases same : e.eventId = other
      · subst same
        exact .inr ⟨eventId, fun part : List Event => part ++ [e].filter _,
          fun _ => List.filter_append ..⟩
      · exact .inl fun _ => filter_concat (by simp [same])

section Safe

variable {ends : List Lock → Draft → Prop} {uid : Uuid} {clock : Clock} {new : Submission}

theorem safe_createDraft {newId : Uuid}
    (every : ∀ d : Draft, d.id = newId → ends (.draft newId :: held) d) :
    Safe (parts hash) ends held (createDraft uid newId clock new) := by
  simp only [createDraft, safe_bind, safe_ensure, safe_query, safe_acquire, safe_update, safe_pure]
  intro _ owned _ found _
  exact ⟨local_putDraft List.mem_cons_self, every _ rfl⟩

theorem safe_reviseDraft {id : Uuid}
    (every : ∀ d : Draft, d.id = id → ends (.draft id :: held) d) :
    Safe (parts hash) ends held (reviseDraft uid id clock new) := by
  simp only [reviseDraft, safe_bind, safe_okOr, safe_ensure, safe_query, safe_acquire, safe_update,
    safe_pure]
  intro visible _ _ locked stored own _ _ _
  obtain ⟨found, _⟩ := Option.filter_eq_some_iff.mp own
  obtain rfl := Table.key_of_find found
  exact ⟨local_putDraft List.mem_cons_self, every _ rfl⟩

theorem safe_writeDraft {args : Save} (every : ∀ d : Draft, ends (.draft d.id :: held) d) :
    Safe (parts hash) ends held (writeDraft uid args new) := by
  unfold writeDraft
  split
  · exact safe_createDraft fun d named => named ▸ every d
  · exact safe_reviseDraft fun d named => named ▸ every d

end Safe

theorem safe_insertEvent {ends : List Lock → Unit → Prop} {e : Event}
    (account : Lock.advisory (hash e.userId) ∈ held) (draft : Lock.draft e.draftId ∈ held)
    (every : ends (.eventId e.eventId :: held) ()) :
    Safe (parts hash) ends held (insertEvent e) := by
  simp only [insertEvent, safe_bind, safe_ensure, safe_query, safe_acquire, safe_update]
  intro _ _ _ _ _
  have more := List.subset_cons_self (Lock.eventId e.eventId) held
  exact ⟨local_appendEvent (more account) (more draft) List.mem_cons_self, every⟩

theorem guarded_saveDraft (args : Save) : Guarded (parts hash) (saveDraft hash sha256 args) := by
  unfold Guarded saveDraft
  simp only [safe_bind, safe_okOr, safe_ensure, safe_query, safe_acquire]
  intro uid _ _ _ new _ _ _
  apply safe_writeDraft
  intro d
  exact safe_insertEvent (by simp) (by simp) trivial

/-! ## Saved drafts -/

variable {uid : Uuid} {clock : Clock} {new : Submission} {row : Draft}

/-- A row has what is submitted. -/
structure Submitted (new : Submission) (row : Draft) : Prop where
  kind : row.kind = new.kind
  title : row.title = new.title
  payload : row.payload = new.payload
  state : row.state = if new.archive = true then .archived else .draft
  revision : (row.revision : Int) = new.expectedRevision + 1

/-- The written row: the first revision of a draft, or the next one. -/
structure Writes (t t' : Tables) (id : Option Uuid) (new : Submission) (row : Draft) : Prop where
  after : t' = { t with drafts := t.drafts.put row }
  submitted : Submitted new row
  written : id = none ∧ t.drafts.find row.id = none ∧ row.revision = 1 ∨
    ∃ stored, id = some row.id ∧ t.drafts.find row.id = some stored ∧
      new.expectedRevision = stored.revision ∧ row.revision = stored.revision + 1 ∧
      row.kind = stored.kind ∧ row.userId = stored.userId

theorem createDraft_ok {newId : Uuid}
    (runs : Runs (parts hash) (createDraft uid newId clock new) t held ⟨t', held', .ok row⟩) :
    Writes t t' none new row ∧ row.userId = uid ∧ held' = .draft row.id :: held := by
  rw [createDraft, runs_ensure_bind_ok, runs_query_bind] at runs
  obtain ⟨⟨expected, open_⟩, seen, _, runs⟩ := runs
  rw [runs_ensure_bind_ok, runs_acquire_bind,
    runs_query_bind_of_agree fun seen agree => find_of_agree (by simp) agree,
    runs_ensure_bind_ok] at runs
  obtain ⟨_, fresh, ended⟩ := runs
  cases ended
  refine ⟨⟨rfl, ⟨rfl, rfl, rfl, ?_, ?_⟩, .inl ⟨rfl, fresh, rfl⟩⟩, rfl, rfl⟩
  · simp [open_]
  · simp [expected]

theorem reviseDraft_ok {id : Uuid}
    (runs : Runs (parts hash) (reviseDraft uid id clock new) t held ⟨t', held', .ok row⟩) :
    Writes t t' (some id) new row ∧ row.userId = uid ∧ held' = .draft row.id :: held := by
  rw [reviseDraft, runs_query_bind] at runs
  obtain ⟨visible, _, runs⟩ := runs
  rw [runs_okOr_bind_ok] at runs
  obtain ⟨_, _, runs⟩ := runs
  rw [runs_acquire_bind,
    runs_query_bind_of_agree fun seen agree => find_of_agree (by simp) agree,
    runs_okOr_bind_ok] at runs
  obtain ⟨stored, own, runs⟩ := runs
  simp only [runs_ensure_bind_ok] at runs
  obtain ⟨expected, kind, _, ended⟩ := runs
  cases ended
  obtain ⟨found, owner⟩ := Option.filter_eq_some_iff.mp own
  obtain rfl := Table.key_of_find found
  have submitted : ((stored.revision + 1 : Nat) : Int) = new.expectedRevision + 1 := by
    rw [← expected]
    rfl
  refine ⟨⟨rfl, ⟨kind, rfl, rfl, rfl, submitted⟩,
    .inr ⟨stored, rfl, found, expected.symm, rfl, rfl, rfl⟩⟩, ?_, rfl⟩
  exact of_decide_eq_true owner

theorem writeDraft_ok {args : Save}
    (runs : Runs (parts hash) (writeDraft uid args new) t held ⟨t', held', .ok row⟩) :
    Writes t t' args.id new row ∧ row.userId = uid ∧ held' = .draft row.id :: held := by
  unfold writeDraft at runs
  split at runs
  · next fresh =>
      rw [fresh]
      exact createDraft_ok runs
  · next id named =>
      rw [named]
      exact reviseDraft_ok runs

theorem insertEvent_ok {e : Event} (draft : Lock.draft e.draftId ∈ held)
    (runs : Runs (parts hash) (insertEvent e) t held ⟨t', held', .ok ()⟩) :
    t' = { t with events := t.events ++ [e] } := by
  rw [insertEvent, runs_ensure_bind_ok, runs_acquire_bind,
    runs_query_bind_of_agree fun seen agree => sameId_of_agree (by simp) agree,
    runs_ensure_bind_ok] at runs
  obtain ⟨_, _, runs⟩ := runs
  rw [runs_query_bind_of_agree fun seen agree => by
    rw [eventsOf_of_agree (List.mem_cons_of_mem _ draft) agree], runs_ensure_bind_ok] at runs
  obtain ⟨_, ended⟩ := runs
  cases ended
  rfl

theorem submission_expectedRevision {args : Save} (valid : submission args = some new) :
    args.expectedRevision = some new.expectedRevision := by
  unfold submission at valid
  split at valid
  · next kind payload expected archive _ _ expectedEq _ =>
      dsimp only at valid
      split at valid
      · cases valid
        exact expectedEq
      · cases valid
  · cases valid

/-- What a successful call found, and what it left. -/
structure Saves (sha256 : Text → Text) (t t' : Tables) (args : Save) (row : Draft) (e : Event) :
    Prop where
  after : t' = { t with drafts := t.drafts.put row, events := t.events ++ [e] }
  draftId : e.draftId = row.id
  userId : e.userId = row.userId
  revision : e.revision = row.revision
  snapshot : e.snapshot = row
  payloadSha256 : e.payloadSha256 = sha256 row.payload
  written : args.id = none ∧ t.drafts.find row.id = none ∧ row.revision = 1 ∨
    ∃ stored, args.id = some row.id ∧ t.drafts.find row.id = some stored ∧
      args.expectedRevision = some (stored.revision : Int) ∧ row.revision = stored.revision + 1 ∧
      row.kind = stored.kind ∧ row.userId = stored.userId

/-- A call is answered with the row and the event that it added, as its arguments ask. -/
structure Answers (args : Save) (saved : Saved) (row : Draft) (e : Event) : Prop where
  valid : ∃ new, submission args = some new ∧ Submitted new row
  owner : args.uid = some row.userId
  ok : saved.ok = true
  draft : saved.draft = row
  eventId : saved.eventId = e.eventId
  payloadSha256 : saved.payloadSha256 = e.payloadSha256
  eventType : e.eventType = if row.state = .archived then .archived else .draftSaved

/-- What a successful call found of its account under the advisory lock. -/
structure Admitted (hash : Uuid → Int) (t : Tables) (held' : List Lock) (args : Save) (row : Draft)
    (e : Event) : Prop where
  signed : args.uid = some row.userId
  lock : Lock.advisory (hash row.userId) ∈ held'
  createdAt : e.createdAt = args.clock.event
  recent : (t.events.countP fun other =>
    other.userId = row.userId ∧ args.clock.rate other.eventId - 60000000 < other.createdAt) < 30

/-- The events of an account are read as they are under its advisory lock. -/
theorem countP_of_agree {seen : Tables} {uid : Uuid} {p : Event → Prop} [DecidablePred p]
    (member : Lock.advisory (hash uid) ∈ held) (agree : AgreeOn (parts hash) held t seen) :
    (seen.events.countP fun e => e.userId = uid ∧ p e) =
      t.events.countP fun e => e.userId = uid ∧ p e := by
  have shared : (t.events.filter fun e => hash e.userId = hash uid) =
      seen.events.filter fun e => hash e.userId = hash uid :=
    agree _ member
  have narrow : ∀ t : Tables, (t.events.countP fun e => e.userId = uid ∧ p e) =
      (t.events.filter fun e => hash e.userId = hash uid).countP fun e => e.userId = uid ∧ p e := by
    intro t
    rw [List.countP_filter]
    congr 1
    funext e
    by_cases same : e.userId = uid <;> simp [same]
  rw [narrow, narrow, shared]

/-- A call that succeeds was admitted, and saves and answers a row and its event. -/
theorem saveDraft_runs {args : Save} {saved : Saved}
    (runs : Runs (parts hash) (saveDraft hash sha256 args) t held ⟨t', held', .ok saved⟩) :
    ∃ row e, Admitted hash t held' args row e ∧ Saves sha256 t t' args row e ∧
      Answers args saved row e := by
  rw [saveDraft, runs_okOr_bind_ok] at runs
  obtain ⟨uid, signed, runs⟩ := runs
  rw [runs_query_bind] at runs
  obtain ⟨_, _, runs⟩ := runs
  rw [runs_ensure_bind_ok, runs_okOr_bind_ok] at runs
  obtain ⟨_, new, valid, runs⟩ := runs
  rw [runs_acquire_bind,
    runs_query_bind_of_agree fun seen agree => countP_of_agree (by simp) agree] at runs
  have lock := runs.held_subset List.mem_cons_self
  rw [runs_ensure_bind_ok, runs_bind_ok] at runs
  obtain ⟨recent, middle, held'', row, wrote, runs⟩ := runs
  obtain ⟨⟨rfl, submitted, written⟩, rfl, rfl⟩ := writeDraft_ok wrote
  rw [runs_bind_ok] at runs
  obtain ⟨last, _, _, added, ended⟩ := runs
  obtain rfl := insertEvent_ok (by simp) added
  cases ended
  refine ⟨row, _, ⟨signed, lock, rfl, recent⟩, ⟨rfl, rfl, rfl, rfl, rfl,
    congrArg sha256 submitted.payload.symm, ?_⟩, ⟨new, valid, submitted⟩, signed, rfl, rfl, rfl, rfl, ?_⟩
  · simp only [submission_expectedRevision valid, Option.some.injEq]
    exact written
  · rw [submitted.state]
    cases new.archive <;> rfl

/-- A call that succeeds saves a row and its event. -/
theorem saveDraft_ok {args : Save} {saved : Saved}
    (runs : Runs (parts hash) (saveDraft hash sha256 args) t held ⟨t', held', .ok saved⟩) :
    ∃ row e, Saves sha256 t t' args row e := by
  obtain ⟨row, e, _, saves, _⟩ := saveDraft_runs runs
  exact ⟨row, e, saves⟩

end Chlom.Workspace
