import Chlom.Library.Locking.Transactions
import Chlom.Sql

/-!
# Drafts of a workspace and the events of their history

One routine creates a draft, revises it or archives it.  It serialises the calls of an
account by an advisory lock, locks the row that it revises, compares its revision with
the expected one, and adds an event with a snapshot of the row.  New identifiers and the
readings of the clock are inputs of a call.
-/

namespace Chlom.Workspace

open Assurance (Text text btrim LengthBetween Sha256Text Timestamp Uuid SqlError)
open Locking

/-! ## Rows -/

inductive Kind where
  | asset | license
  deriving DecidableEq

def Kind.text : Kind → Text
  | .asset => Assurance.text "asset"
  | .license => Assurance.text "license"

/-- The kind that a text names, if any. -/
def Kind.ofText (value : Text) : Option Kind :=
  [.asset, .license].find? fun kind : Kind => kind.text = value

inductive DraftState where
  | draft | archived
  deriving DecidableEq

inductive EventType where
  | draftSaved | archived
  deriving DecidableEq

structure Draft where
  id : Uuid
  userId : Uuid
  kind : Kind
  title : Text
  payload : Jsonb
  revision : Nat
  state : DraftState
  createdAt : Timestamp
  updatedAt : Timestamp
  deriving DecidableEq

/-- An event, whose snapshot is the row of its draft. -/
structure Event where
  eventId : Uuid
  draftId : Uuid
  userId : Uuid
  eventType : EventType
  revision : Nat
  payloadSha256 : Text
  snapshot : Draft
  createdAt : Timestamp
  deriving DecidableEq

/-- The stored rows, and the accounts.  Events stand in the order of their insertion. -/
structure Tables where
  users : List Uuid
  drafts : Table Draft.id
  events : List Event

def Tables.empty (users : List Uuid) : Tables :=
  ⟨users, .empty, []⟩

def eventsOf (t : Tables) (draftId : Uuid) : List Event :=
  t.events.filter fun e => e.draftId = draftId

/-! ## Locks -/

/-- The locks of a call: the advisory lock of a hashed account, the row of a draft, and
the entry of an event in the index of its table. -/
inductive Lock where
  | advisory (key : Int)
  | draft (id : Uuid)
  | eventId (eventId : Uuid)
  deriving DecidableEq

/-- A draft and its events are read and written under the lock of its row, and events
are added under the advisory lock of their account. -/
def parts (hash : Uuid → Int) : Parts Tables Lock where
  Part
    | .advisory _ => List Event
    | .draft _ => Option Draft × List Event
    | .eventId _ => List Event
  part
    | .advisory key => fun t => t.events.filter fun e => hash e.userId = key
    | .draft id => fun t => (t.drafts.find id, eventsOf t id)
    | .eventId eventId => fun t => t.events.filter fun e => e.eventId = eventId

abbrev Statement (α : Type) := Prog Tables Lock SqlError α

/-! ## Saving a draft -/

/-- The readings of the clock: for the rate limit, where it is read anew for each event that
is compared with it, the times of the draft, and the time of the event. -/
structure Clock where
  rate : Uuid → Timestamp
  created : Timestamp
  updated : Timestamp
  event : Timestamp

/-- The arguments of a call, any of which may be null, with the signed-in account. -/
structure Save where
  uid : Option Uuid
  newId : Uuid
  eventId : Uuid
  clock : Clock
  id : Option Uuid
  kind : Option Text
  title : Option Text
  payload : Option Jsonb
  expectedRevision : Option Int
  archive : Option Bool

/-- Arguments that passed their validation. -/
structure Submission where
  kind : Kind
  title : Text
  payload : Jsonb
  expectedRevision : Int
  archive : Bool

/-- The document is an object. -/
def isObject (document : Jsonb) : Bool :=
  document.head? = some '{'

/-- The number of bytes of a text. -/
def octetLength (value : Text) : Nat :=
  (value.map Char.utf8Size).sum

def submission (args : Save) : Option Submission :=
  match args.kind.bind Kind.ofText, args.payload, args.expectedRevision, args.archive with
  | some kind, some payload, some expectedRevision, some archive =>
      let title := btrim (args.title.getD [])
      if LengthBetween title 1 160 ∧ isObject payload = true ∧ octetLength payload ≤ 65536 ∧
          0 ≤ expectedRevision then
        some { kind, title, payload, expectedRevision, archive }
      else none
  | _, _, _, _ => none

def authenticationRequired : SqlError := .raised "AUTHENTICATION_REQUIRED" "28000"

def invalidDraft : SqlError := .raised "INVALID_DRAFT" "22023"

def rateLimit : SqlError := .raised "WORKSPACE_RATE_LIMIT" "54000"

def invalidNewDraft : SqlError := .raised "INVALID_NEW_DRAFT" "22023"

def recordLimit : SqlError := .raised "WORKSPACE_RECORD_LIMIT" "54000"

def notAccessible : SqlError := .raised "DRAFT_NOT_ACCESSIBLE" "42501"

def revisionConflict : SqlError := .raised "DRAFT_REVISION_CONFLICT" "40001"

def kindImmutable : SqlError := .raised "DRAFT_KIND_IMMUTABLE" "22023"

def integerOutOfRange : SqlError := .raised "integer out of range" "22003"

/-- Insert a draft of the first revision. -/
def createDraft (uid newId : Uuid) (clock : Clock) (new : Submission) : Statement Draft := do
  Prog.ensure (new.expectedRevision = 0 ∧ new.archive = false) invalidNewDraft
  let owned ← Prog.query fun t => t.drafts.count fun d => d.userId = uid
  Prog.ensure (owned < 1000) recordLimit
  let row : Draft :=
    { id := newId
      userId := uid
      kind := new.kind
      title := new.title
      payload := new.payload
      revision := 1
      state := .draft
      createdAt := clock.created
      updatedAt := clock.updated }
  Prog.acquire (.draft newId)
  let found ← Prog.query fun t => t.drafts.find newId
  Prog.ensure (found = none) (.uniqueViolation "id")
  Prog.update fun t => { t with drafts := t.drafts.put row }
  pure row

/-- Write the next revision of an own draft. -/
def reviseDraft (uid id : Uuid) (clock : Clock) (new : Submission) : Statement Draft := do
  let visible ← Prog.query fun t => t.drafts.find id
  let _ ← Prog.okOr (visible.filter fun d => d.userId = uid) notAccessible
  -- once it is locked the row is judged again
  Prog.acquire (.draft id)
  let locked ← Prog.query fun t => t.drafts.find id
  let stored ← Prog.okOr (locked.filter fun d => d.userId = uid) notAccessible
  Prog.ensure ((stored.revision : Int) = new.expectedRevision) revisionConflict
  Prog.ensure (stored.kind = new.kind) kindImmutable
  Prog.ensure ((stored.revision : Int) + 1 ≤ Sql.maxInteger) integerOutOfRange
  let row : Draft :=
    { stored with
      title := new.title
      payload := new.payload
      revision := stored.revision + 1
      state := if new.archive = true then .archived else .draft
      updatedAt := clock.updated }
  Prog.update fun t => { t with drafts := t.drafts.put row }
  pure row

/-- Create a draft, or revise the one that is named. -/
def writeDraft (uid : Uuid) (args : Save) (new : Submission) : Statement Draft :=
  match args.id with
  | none => createDraft uid args.newId args.clock new
  | some id => reviseDraft uid id args.clock new

structure Saved where
  ok : Bool
  draft : Draft
  eventId : Uuid
  payloadSha256 : Text
  authorityCreated : Bool
  publiclyListed : Bool
  deriving DecidableEq

/-- Add the event of a written draft. -/
def insertEvent (e : Event) : Statement Unit := do
  Prog.ensure (Sha256Text e.payloadSha256) (.checkViolation "payload_sha256")
  Prog.acquire (.eventId e.eventId)
  let sameId ← Prog.query fun t => t.events.filter fun other => other.eventId = e.eventId
  Prog.ensure (sameId = []) (.uniqueViolation "event_id")
  let sameRevision ← Prog.query fun t =>
    (eventsOf t e.draftId).filter fun other => other.revision = e.revision
  Prog.ensure (sameRevision = []) (.uniqueViolation "draft_id, revision")
  Prog.update fun t => { t with events := t.events ++ [e] }

/-- The account hash and the digest are those of the database. -/
def saveDraft (hash : Uuid → Int) (sha256 : Text → Text) (args : Save) : Statement Saved := do
  let uid ← Prog.okOr args.uid authenticationRequired
  let users ← Prog.query Tables.users
  Prog.ensure (users.contains uid = true) authenticationRequired
  let new ← Prog.okOr (submission args) invalidDraft
  Prog.acquire (.advisory (hash uid))
  let recent ← Prog.query fun t => t.events.countP fun e =>
    e.userId = uid ∧ args.clock.rate e.eventId - 60000000 < e.createdAt
  Prog.ensure (recent < 30) rateLimit
  let row ← writeDraft uid args new
  insertEvent
    { eventId := args.eventId
      draftId := row.id
      userId := uid
      eventType := if new.archive = true then .archived else .draftSaved
      revision := row.revision
      payloadSha256 := sha256 new.payload
      snapshot := row
      createdAt := args.clock.event }
  pure
    { ok := true
      draft := row
      eventId := args.eventId
      payloadSha256 := sha256 new.payload
      authorityCreated := false
      publiclyListed := false }

/-- The sessions after a schedule of the steps of their calls. -/
abbrev sessions {Session : Type} [DecidableEq Session] (hash : Uuid → Int) (sha256 : Text → Text)
    (users : List Uuid) (schedule : List (Action Save Session)) :
    System Tables Lock SqlError Saved Save Session :=
  Runs.run (step (saveDraft hash sha256)) (.initial (.empty users)) schedule

end Chlom.Workspace
