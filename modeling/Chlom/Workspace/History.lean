import Chlom.Workspace.Effects

/-!
# The history of a draft

Whatever sessions save drafts side by side, the events of a draft count its revisions
from one to the present one, and each holds the row that the draft had at its revision.
Of all saves that expect one revision of a draft at most one is committed, and the row and
the event that a save was answered with stay in the tables.
-/

namespace Chlom.Workspace

open Assurance (Text text Uuid SqlError)
open Locking

/-! ## The property -/

/-- The events of a draft are its revisions, one after the other. -/
structure Linear (sha256 : Text → Text) (t : Tables) (d : Draft) : Prop where
  revisions : (eventsOf t d.id).map Event.revision = List.range' 1 d.revision
  snapshots : ∀ e ∈ eventsOf t d.id, e.snapshot.id = d.id ∧ e.snapshot.revision = e.revision ∧
    e.snapshot.kind = d.kind ∧ e.snapshot.userId = d.userId ∧ e.userId = d.userId ∧
    e.payloadSha256 = sha256 e.snapshot.payload
  last : (eventsOf t d.id).getLast?.map Event.snapshot = some d

/-- A row of a draft is still the snapshot of the event of its revision, and the draft has
kept its kind, its owner and its events. -/
structure Kept (t t' : Tables) (d : Draft) : Prop where
  draft : ∃ d', t'.drafts.find d.id = some d' ∧ d'.kind = d.kind ∧ d'.userId = d.userId
  events : eventsOf t d.id <+: eventsOf t' d.id
  snapshot : ∃ e ∈ eventsOf t' d.id, e.revision = d.revision ∧ e.snapshot = d

/-- The row and the event that a save was answered with are those it asked for, and are in
the tables. -/
structure Stored (sha256 : Text → Text) (t : Tables) (args : Save) (saved : Saved) : Prop where
  valid : ∃ new, submission args = some new ∧ Submitted new saved.draft
  owner : args.uid = some saved.draft.userId
  named : ∀ id ∈ args.id, saved.draft.id = id
  draft : ∃ d, t.drafts.find saved.draft.id = some d ∧ saved.draft.revision ≤ d.revision
  event : ∃ e ∈ eventsOf t saved.draft.id, e.eventId = saved.eventId ∧
    e.snapshot = saved.draft ∧ e.payloadSha256 = saved.payloadSha256
  payloadSha256 : saved.payloadSha256 = sha256 saved.draft.payload

/-- A call names a draft and expects a revision of it. -/
def expects (id : Uuid) (revision : Int) (entry : Save × Saved) : Bool :=
  decide (entry.1.id = some id ∧ entry.1.expectedRevision = some revision)

/-- What holds of a schedule of calls. -/
structure LosesNoUpdate {Session : Type} [DecidableEq Session] (hash : Uuid → Int)
    (sha256 : Text → Text) (users : List Uuid) (schedule : List (Action Save Session)) :
    Prop where
  linear : ∀ t, (sessions hash sha256 users schedule).Visible t →
    ∀ id d, t.drafts.find id = some d → Linear sha256 t d
  kept : ∀ before after, schedule = before ++ after → ∀ id d,
    (sessions hash sha256 users before).committed.drafts.find id = some d →
      Kept (sessions hash sha256 users before).committed
        (sessions hash sha256 users schedule).committed d
  once : ∀ id revision, (history (Runs.trace (step (saveDraft hash sha256))
    (.initial (.empty users)) schedule)).countP (expects id revision) ≤ 1
  refused : ∀ before session after input failure, schedule = before ++ .advance session :: after →
    (step (saveDraft hash sha256) (sessions hash sha256 users before) (.advance session)).2 =
      .answered input (.error failure) →
    (sessions hash sha256 users before).Unchanged
      (sessions hash sha256 users (before ++ [.advance session]))
  answered : ∀ before session after args saved, schedule = before ++ .advance session :: after →
    (step (saveDraft hash sha256) (sessions hash sha256 users before) (.advance session)).2 =
      .answered args (.ok saved) →
    (args, saved) ∈ ((sessions hash sha256 users (before ++ [.advance session])).current
      session).past
  pending : ∀ session, ∀ entry ∈ ((sessions hash sha256 users schedule).current session).past,
    Stored sha256 ((sessions hash sha256 users schedule).seen session) entry.1 entry.2
  committed : ∀ before between after session entry,
    schedule = before ++ between ++ .commit session :: after →
    entry ∈ ((sessions hash sha256 users before).current session).past →
    (∀ action ∈ between, action ≠ .abort session) →
    ((sessions hash sha256 users (before ++ between)).current session).active = none →
    entry ∈ history (Runs.trace (step (saveDraft hash sha256)) (.initial (.empty users)) schedule)
  stored : ∀ entry ∈ history (Runs.trace (step (saveDraft hash sha256))
      (.initial (.empty users)) schedule),
    Stored sha256 (sessions hash sha256 users schedule).committed entry.1 entry.2

/-! ## What one call keeps -/

variable {hash : Uuid → Int} {sha256 : Text → Text} {t t' : Tables} {args : Save} {row d : Draft}
  {e : Event}

theorem Saves.eventsOf (saves : Saves sha256 t t' args row e) (id : Uuid) :
    eventsOf t' id = if row.id = id then eventsOf t id ++ [e] else eventsOf t id := by
  rw [saves.after, ← saves.draftId]
  by_cases same : e.draftId = id <;> simp [Workspace.eventsOf, same]

theorem Saves.find (saves : Saves sha256 t t' args row e) (id : Uuid) :
    t'.drafts.find id = if row.id = id then some row else t.drafts.find id := by
  rw [saves.after]
  exact Table.find_put

/-- A draft has a linear history, and what is no draft has no events. -/
structure Recorded (sha256 : Text → Text) (t : Tables) (id : Uuid) : Prop where
  present : ∀ d, t.drafts.find id = some d → Linear sha256 t d
  absent : t.drafts.find id = none → eventsOf t id = []

/-- The first revision of a draft is its first event. -/
theorem Linear.first (saves : Saves sha256 t t' args row e) (none_ : eventsOf t row.id = [])
    (revision : row.revision = 1) : Linear sha256 t' row := by
  have events : Workspace.eventsOf t' row.id = [e] := by
    rw [saves.eventsOf, if_pos rfl, none_, List.nil_append]
  constructor
  · simp [events, saves.revision, revision]
  · intro other member
    rw [events, List.mem_singleton] at member
    subst member
    rw [saves.snapshot, saves.userId, saves.payloadSha256, saves.revision]
    exact ⟨rfl, rfl, rfl, rfl, rfl, rfl⟩
  · simp [events, saves.snapshot]

/-- The next revision of a draft continues its events. -/
theorem Linear.next (linear : Linear sha256 t d) (saves : Saves sha256 t t' args row e)
    (same : d.id = row.id) (revision : row.revision = d.revision + 1) (kind : row.kind = d.kind)
    (owner : row.userId = d.userId) : Linear sha256 t' row := by
  have events : Workspace.eventsOf t' row.id = Workspace.eventsOf t row.id ++ [e] := by
    rw [saves.eventsOf, if_pos rfl]
  obtain ⟨revisions, snapshots, _⟩ := linear
  rw [same] at revisions snapshots
  constructor
  · rw [events, List.map_append, revisions, revision, List.range'_1_concat, List.map_singleton,
      saves.revision, revision, Nat.add_comm]
  · intro other member
    rw [events, List.mem_append, List.mem_singleton] at member
    rcases member with earlier | rfl
    · rw [kind, owner]
      exact snapshots other earlier
    · rw [saves.snapshot, saves.userId, saves.payloadSha256, saves.revision]
      exact ⟨rfl, rfl, rfl, rfl, rfl, rfl⟩
  · simp [events, saves.snapshot]

theorem Saves.recorded (saves : Saves sha256 t t' args row e) {id : Uuid}
    (recorded : ∀ id, Recorded sha256 t id) : Recorded sha256 t' id := by
  have find := saves.find id
  by_cases same : row.id = id
  · subst same
    rw [if_pos rfl] at find
    refine ⟨fun d found => ?_, fun missing => ?_⟩
    · obtain rfl := Option.some.inj (find.symm.trans found)
      rcases saves.written with ⟨_, fresh, first⟩ | ⟨stored, _, found, _, next, kind, owner⟩
      · exact .first saves ((recorded row.id).absent fresh) first
      · exact ((recorded row.id).present stored found).next saves (Table.key_of_find found) next
          kind owner
    · rw [find] at missing
      cases missing
  · rw [if_neg same] at find
    have events := saves.eventsOf id
    rw [if_neg same] at events
    refine ⟨fun d found => ?_, fun missing => ?_⟩
    · rw [find] at found
      obtain rfl := Table.key_of_find found
      obtain ⟨revisions, snapshots, last⟩ := (recorded d.id).present d found
      rw [← events] at revisions snapshots last
      exact ⟨revisions, snapshots, last⟩
    · rw [events]
      exact (recorded id).absent (find ▸ missing)

/-! ## What remains of a draft -/

/-- A draft is still there with its kind, its owner and its events. -/
structure Remains (t t' : Tables) (d : Draft) : Prop where
  draft : ∃ d', t'.drafts.find d.id = some d' ∧ d'.kind = d.kind ∧ d'.userId = d.userId
  events : eventsOf t d.id <+: eventsOf t' d.id

theorem Saves.remains {start : Tables} (saves : Saves sha256 t t' args row e)
    (remains : Remains start t d) : Remains start t' d := by
  obtain ⟨⟨d', found, kind, owner⟩, events⟩ := remains
  have find := saves.find d.id
  have after := saves.eventsOf d.id
  by_cases same : row.id = d.id
  · rw [if_pos same] at find after
    rcases saves.written with ⟨_, fresh, _⟩ | ⟨stored, _, found', _, _, kind', owner'⟩
    · rw [same, found] at fresh
      cases fresh
    · rw [same, found] at found'
      obtain rfl := Option.some.inj found'
      refine ⟨⟨row, find, kind'.trans kind, owner'.trans owner⟩, ?_⟩
      rw [after]
      exact events.trans (List.prefix_append ..)
  · rw [if_neg same] at find after
    exact ⟨⟨d', find.trans found, kind, owner⟩, after ▸ events⟩

/-- The last event of a linear history stays the one of its revision. -/
theorem Linear.kept (linear : Linear sha256 t d) (remains : Remains t t' d) : Kept t t' d := by
  obtain ⟨e, last, snapshot⟩ := Option.map_eq_some_iff.mp linear.last
  have member := List.mem_of_getLast? last
  obtain ⟨_, revision, _⟩ := linear.snapshots e member
  refine ⟨remains.draft, remains.events, e, remains.events.subset member, ?_, snapshot⟩
  rw [← revision, snapshot]

/-! ## Expected revisions -/

/-- Each expected revision of a draft was committed at most once, and is below the present
one. -/
def Spent (past : List (Save × Saved)) (t : Tables) : Prop :=
  ∀ id revision, past.countP (expects id revision) ≤ 1 ∧
    (0 < past.countP (expects id revision) →
      ∃ d, t.drafts.find id = some d ∧ revision < d.revision)

theorem Saves.spent (saves : Saves sha256 t t' args row e) {past : List (Save × Saved)}
    {saved : Saved} (spent : Spent past t) : Spent (past ++ [(args, saved)]) t' := by
  intro id revision
  obtain ⟨once, below⟩ := spent id revision
  have find := saves.find id
  rw [List.countP_append, List.countP_singleton]
  rcases saves.written with ⟨created, fresh, _⟩ | ⟨stored, named, found, expected, next, _, _⟩
  · have silent : expects id revision (args, saved) = false := by simp [expects, created]
    rw [silent]
    refine ⟨once, fun counted => ?_⟩
    obtain ⟨d, found, lt⟩ := below counted
    rw [if_neg, found] at find
    · exact ⟨d, find, lt⟩
    · rintro rfl
      rw [found] at fresh
      cases fresh
  · by_cases same : row.id = id
    · subst same
      rw [if_pos rfl] at find
      by_cases now : (stored.revision : Int) = revision
      · -- no earlier call expected the stored revision
        have unspent : past.countP (expects row.id revision) = 0 := by
          refine Nat.eq_zero_of_not_pos fun counted => ?_
          obtain ⟨d, found', lt⟩ := below counted
          obtain rfl := Option.some.inj (found.symm.trans found')
          omega
        have one : (if expects row.id revision (args, saved) = true then 1 else 0) ≤ 1 := by
          split <;> omega
        refine ⟨by omega, fun _ => ⟨row, find, ?_⟩⟩
        omega
      · have silent : expects row.id revision (args, saved) = false := by
          simp [expects, expected, now]
        rw [silent]
        refine ⟨once, fun counted => ⟨row, find, ?_⟩⟩
        obtain ⟨d, found', lt⟩ := below counted
        obtain rfl := Option.some.inj (found.symm.trans found')
        omega
    · have silent : expects id revision (args, saved) = false := by simp [expects, named, same]
      rw [silent, find, if_neg same]
      exact ⟨once, below⟩

theorem spent_of_serial {users : List Uuid} {past : List (Save × Saved)}
    (serial : Serial (parts hash) (saveDraft hash sha256) (.empty users) past t) : Spent past t := by
  induction serial with
  | nil => exact fun id revision => ⟨by simp, by simp⟩
  | snoc before runs ih =>
      obtain ⟨row, e, saves⟩ := saveDraft_ok runs
      exact saves.spent ih

/-! ## What an answer says -/

theorem Saves.stored (saves : Saves sha256 t t' args row e) {saved : Saved}
    (answers : Answers args saved row e) : Stored sha256 t' args saved := by
  obtain ⟨valid, owner, _, rfl, eventId, digest, _⟩ := answers
  have draft := saves.find saved.draft.id
  have event := saves.eventsOf saved.draft.id
  rw [if_pos rfl] at draft event
  refine ⟨valid, owner, ?_, ⟨_, draft, le_rfl⟩, ⟨e, ?_, eventId.symm, saves.snapshot,
    digest.symm⟩, digest.trans saves.payloadSha256⟩
  · intro id named
    rcases saves.written with ⟨fresh, _, _⟩ | ⟨_, given, _⟩
    · cases fresh.symm.trans named
    · exact Option.some.inj (given.symm.trans named)
  · rw [event]
    exact List.mem_append_right _ (List.mem_singleton_self e)

/-- A later save of the draft only raises its revision, and adds its event. -/
theorem Stored.saves {earlier : Save} {saved : Saved} (stored : Stored sha256 t earlier saved)
    (saves : Saves sha256 t t' args row e) : Stored sha256 t' earlier saved := by
  obtain ⟨valid, owner, named, ⟨d, found, le⟩, ⟨e', member, event⟩, digest⟩ := stored
  have find := saves.find saved.draft.id
  have after := saves.eventsOf saved.draft.id
  have still : e' ∈ Workspace.eventsOf t' saved.draft.id := by
    rw [after]
    split
    · exact List.mem_append_left _ member
    · exact member
  refine ⟨valid, owner, named, ?_, ⟨e', still, event⟩, digest⟩
  by_cases same : row.id = saved.draft.id
  · rw [if_pos same] at find
    refine ⟨row, find, ?_⟩
    rcases saves.written with ⟨_, fresh, _⟩ | ⟨before, _, found', _, next, _⟩
    · rw [same, found] at fresh
      cases fresh
    · rw [same, found] at found'
      obtain rfl := Option.some.inj found'
      omega
  · rw [if_neg same] at find
    exact ⟨d, find.trans found, le⟩

/-- After statements one after the other all their answers hold. -/
theorem stored_of_serial {start : Tables} {past : List (Save × Saved)}
    (serial : Serial (parts hash) (saveDraft hash sha256) start past t) :
    ∀ entry ∈ past, Stored sha256 t entry.1 entry.2 := by
  induction serial with
  | nil => exact fun _ member => by cases member
  | snoc before runs ih =>
      obtain ⟨row, e, _, saves, answers⟩ := saveDraft_runs runs
      intro entry member
      rcases List.mem_append.mp member with earlier | last
      · exact (ih entry earlier).saves saves
      · obtain rfl := List.mem_singleton.mp last
        exact saves.stored answers

/-! ## Every schedule -/

theorem recorded_empty (users : List Uuid) (id : Uuid) : Recorded sha256 (.empty users) id where
  present _ found := by cases found
  absent _ := rfl

theorem sessions_append {Session : Type} [DecidableEq Session] {users : List Uuid}
    (before after : List (Action Save Session)) : sessions hash sha256 users (before ++ after) =
      Runs.run (step (saveDraft hash sha256)) (sessions hash sha256 users before) after :=
  Runs.run_append ..

/-- Whatever is seen of a draft in a schedule is what its events record. -/
theorem recorded_visible {Session : Type} [DecidableEq Session] {users : List Uuid}
    (schedule : List (Action Save Session))
    (visible : (sessions hash sha256 users schedule).Visible t) (id : Uuid) :
    Recorded sha256 t id := by
  refine visible_invariant (parts hash) guarded_saveDraft
    (fun t => ∀ id, Recorded sha256 t id) ?_ (recorded_empty users) schedule visible id
  intro t held args saved t' held' recorded runs id
  obtain ⟨row, e, saves⟩ := saveDraft_ok runs
  exact saves.recorded recorded

/-- A committed draft remains however the schedule goes on. -/
theorem remains_append {Session : Type} [DecidableEq Session] {users : List Uuid} {d : Draft}
    (before after : List (Action Save Session))
    (found : (sessions hash sha256 users before).committed.drafts.find d.id = some d) :
    Remains (sessions hash sha256 users before).committed
      (sessions hash sha256 users (before ++ after)).committed d := by
  have sound : (sessions hash sha256 users before).Sound (parts hash) (saveDraft hash sha256) :=
    .run guarded_saveDraft before
  have serial := sound.serial_run guarded_saveDraft after
  rw [sessions_append]
  refine serial.invariant (fun t => Remains _ t d) ⟨⟨d, found, rfl, rfl⟩, List.prefix_rfl⟩ ?_
  intro t held args saved t' held' remains runs
  obtain ⟨row, e, saves⟩ := saveDraft_ok runs
  exact saves.remains remains

/-- In every schedule of calls, drafts lose no update. -/
theorem losesNoUpdate {Session : Type} [DecidableEq Session] (hash : Uuid → Int)
    (sha256 : Text → Text) (users : List Uuid) (schedule : List (Action Save Session)) :
    LosesNoUpdate hash sha256 users schedule := by
  constructor
  · exact fun t visible id d found => (recorded_visible schedule visible id).present d found
  · rintro before after rfl id d found
    obtain rfl := Table.key_of_find found
    have linear := (recorded_visible before (.inl rfl) d.id).present d found
    exact linear.kept (remains_append before after found)
  · intro id revision
    exact (spent_of_serial (serial_run guarded_saveDraft (.empty users) schedule) id revision).1
  · intro before session after input failure _ shown
    rw [sessions_append]
    exact System.refused shown
  · intro before session after args saved _ shown
    rw [sessions_append]
    exact (System.answered_past shown).symm ▸ List.mem_append_right _ (List.mem_singleton_self _)
  · intro session
    have sound : (sessions hash sha256 users schedule).Sound (parts hash)
        (saveDraft hash sha256) := .run guarded_saveDraft schedule
    exact stored_of_serial (sound.seen session)
  · rintro before between after session entry rfl member kept idle
    rw [sessions_append] at idle
    rw [List.append_assoc, Runs.trace_append, history, List.flatMap_append, List.mem_append]
    exact .inr (System.past_committed _ between after kept member idle)
  · exact stored_of_serial (serial_run guarded_saveDraft (.empty users) schedule)

/-! ## Two saves of one revision -/

namespace Sample

def digest (_ : Text) : Text :=
  List.replicate 64 'a'

def save (newId eventId : Uuid) (id : Option Uuid) (expected : Int) : Save where
  uid := some 7
  newId
  eventId
  clock := ⟨fun _ => 0, 0, 0, 0⟩
  id
  kind := some (text "asset")
  title := some (text "Work")
  payload := some (text "\x7b\x7d")
  expectedRevision := some expected
  archive := some false

/-- Issue a call and take all its steps. -/
def saving (session : Bool) (args : Save) : List (Action Save Bool) :=
  .issue session args :: List.replicate 20 (.advance session)

/-- Two sessions revise a new draft from its first revision, the second waiting for the
first. -/
def schedule : List (Action Save Bool) :=
  saving false (save 1 1 none 0) ++ [.commit false] ++ saving true (save 0 2 (some 1) 1) ++
    saving false (save 0 3 (some 1) 1) ++ [.commit true] ++ List.replicate 20 (.advance false) ++
    [.commit false]

end Sample

/-- The first save is committed, and of the two others only the one that came first. -/
theorem losesNoUpdate_sample :
    (history (Runs.trace (step (saveDraft (fun _ => 0) Sample.digest)) (.initial (.empty [7]))
      Sample.schedule)).map (fun entry => (entry.2.eventId, entry.2.draft.revision)) =
        [(1, 1), (2, 2)] ∧
      LosesNoUpdate (fun _ => 0) Sample.digest [7] Sample.schedule :=
  ⟨by decide +kernel, losesNoUpdate _ _ _ _⟩

end Chlom.Workspace
