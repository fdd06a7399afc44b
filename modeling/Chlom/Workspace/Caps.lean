import Chlom.Library.Locking.Caps
import Chlom.Workspace.History

/-!
# The caps of an account

A call looks at the recent events and at the drafts of its account under an advisory lock
that it keeps until it commits.  So whatever sessions save drafts side by side, no minute
holds more than thirty events of an account, and no account has more than a thousand drafts.
-/

namespace Chlom.Workspace

open Assurance (Text text Timestamp Uuid SqlError)
open Locking

variable {hash : Uuid → Int} {sha256 : Text → Text} {t t' : Tables} {held held' : List Lock}
  {args : Save} {uid : Uuid}

/-! ## The property -/

/-- The clock does not go back in a call from what the limit reads to the time of the event. -/
def Forward (args : Save) : Prop :=
  ∀ eventId, args.clock.rate eventId ≤ args.clock.event

/-- What holds of a schedule of calls. -/
structure KeepsCaps {Session : Type} [DecidableEq Session] (hash : Uuid → Int)
    (sha256 : Text → Text) (users : List Uuid) (schedule : List (Action Save Session)) :
    Prop where
  since : ∀ uid start, ((sessions hash sha256 users schedule).committed.events.countP fun e =>
    e.userId = uid ∧ start ≤ e.createdAt ∧ e.createdAt < start + 60000000) ≤ 30
  upTo : ∀ uid start, ((sessions hash sha256 users schedule).committed.events.countP fun e =>
    e.userId = uid ∧ start < e.createdAt ∧ e.createdAt ≤ start + 60000000) ≤ 30
  drafts : ∀ t, (sessions hash sha256 users schedule).Visible t →
    ∀ uid, (t.drafts.count fun d => d.userId = uid) ≤ 1000

/-! ## Events -/

/-- Any two of some times are less than a minute apart. -/
def Narrow (window : Timestamp → Prop) : Prop :=
  ∀ first last, window first → window last → last - 60000000 < first

theorem narrow_since (start : Timestamp) :
    Narrow fun time => start ≤ time ∧ time < start + 60000000 := by
  intro first last early late
  have before : last - 60000000 < start := Int.sub_right_lt_of_lt_add late.2
  exact Int.lt_of_lt_of_le before early.1

theorem narrow_upTo (start : Timestamp) :
    Narrow fun time => start < time ∧ time ≤ start + 60000000 := by
  intro first last early late
  have before : last - 60000000 ≤ start := Int.sub_right_le_of_le_add late.2
  exact Int.lt_of_le_of_lt before early.1

/-- Of times less than a minute apart, the last event was added when all others were recent. -/
theorem events_le {users : List Uuid} {past : List (Save × Saved)}
    (serial : Serial (parts hash) (saveDraft hash sha256) (.empty users) past t)
    (forward : ∀ entry ∈ past, Forward entry.1) {window : Timestamp → Prop}
    [DecidablePred window] (narrow : Narrow window) (uid : Uuid) :
    (t.events.countP fun e => e.userId = uid ∧ window e.createdAt) ≤ 30 := by
  induction serial with
  | nil => exact Nat.zero_le 30
  | @snoc past t held args saved t' held' before runs ih =>
      have earlier := ih fun entry member => forward entry (List.mem_append_left _ member)
      have now : Forward args := forward (args, saved) (by simp)
      obtain ⟨row, e, admitted, saves, _⟩ := saveDraft_runs runs
      have events : t'.events = t.events ++ [e] := by rw [saves.after]
      rw [events, List.countP_append, List.countP_singleton]
      by_cases inside : e.userId = uid ∧ window e.createdAt
      · rw [if_pos (decide_eq_true inside)]
        have recent : (t.events.countP fun other => other.userId = uid ∧ window other.createdAt) ≤
            t.events.countP fun other => other.userId = row.userId ∧
              args.clock.rate other.eventId - 60000000 < other.createdAt := by
          apply List.countP_mono_left
          intro other _ counted
          obtain ⟨owner, within⟩ := of_decide_eq_true counted
          have apart := narrow _ _ within inside.2
          have read := now other.eventId
          rw [admitted.createdAt] at apart
          have same : other.userId = row.userId := by rw [owner, ← saves.userId, inside.1]
          have lately : args.clock.rate other.eventId - 60000000 < other.createdAt :=
            Int.lt_of_le_of_lt (Int.sub_le_sub_right read 60000000) apart
          exact decide_eq_true ⟨same, lately⟩
        have room := admitted.recent
        omega
      · rw [if_neg fun counted => inside (of_decide_eq_true counted)]
        exact earlier

/-! ## Drafts -/

/-- The drafts of an account, which a call creates under the advisory lock. -/
def draftQuota (hash : Uuid → Int) (uid : Uuid) : Quota Tables Lock Save where
  counts args := args.uid = some uid ∧ args.id = none
  lock := .advisory (hash uid)
  measure t := t.drafts.count fun d => d.userId = uid
  limit := 1000

theorem counted_draftQuota : (draftQuota hash uid).Counted (parts hash) (saveDraft hash sha256) where
  lock counted runs := by
    obtain ⟨row, e, admitted, _⟩ := saveDraft_runs runs
    obtain ⟨signed, _⟩ := of_decide_eq_true counted
    obtain rfl := Option.some.inj (admitted.signed.symm.trans signed)
    exact admitted.lock
  count {t held args saved t' held'} runs := by
    obtain ⟨row, e, admitted, saves, _⟩ := saveDraft_runs runs
    have drafts : t'.drafts = t.drafts.put row := by rw [saves.after]
    rcases saves.written with ⟨created, fresh, _⟩ | ⟨stored, named, found, _, _, _, owner⟩
    · have count := Table.count_put_of_fresh (p := fun d : Draft => d.userId = uid) fresh
      simp [draftQuota, drafts, count, admitted.signed, created]
    · have count : (t.drafts.put row).count (fun d => d.userId = uid) =
          t.drafts.count fun d => d.userId = uid :=
        Table.count_put_of_find found (by rw [owner])
      simp [draftQuota, drafts, count, named]

/-- A call that creates a draft counts those of its account first. -/
theorem looks_saveDraft (created : (draftQuota hash uid).counts args = true) :
    (draftQuota hash uid).Looks [] (saveDraft hash sha256 args) := by
  obtain ⟨signed, fresh⟩ := of_decide_eq_true created
  unfold saveDraft
  rw [signed]
  refine Quota.looks_okOr_bind fun user same => ?_
  obtain rfl := Option.some.inj same
  refine Quota.looks_query_bind fun users => Quota.looks_ensure_bind fun _ => ?_
  refine Quota.looks_okOr_bind fun new _ => Quota.looks_acquire_bind ?_
  refine Quota.looks_query_bind fun recent => Quota.looks_ensure_bind fun _ => ?_
  apply Quota.Looks.bind
  rw [writeDraft, fresh]
  refine Quota.looks_ensure_bind fun _ => ?_
  exact Quota.looks_measure List.mem_cons_self fun seen below => below

/-! ## Every schedule -/

/-- In every schedule of calls that read a clock that does not go back, accounts keep within
their caps. -/
theorem keepsCaps {Session : Type} [DecidableEq Session] (hash : Uuid → Int)
    (sha256 : Text → Text) (users : List Uuid) (schedule : List (Action Save Session))
    (forward : ∀ entry ∈ history (Runs.trace (step (saveDraft hash sha256))
      (.initial (.empty users)) schedule), Forward entry.1) :
    KeepsCaps hash sha256 users schedule := by
  have serial : Serial (parts hash) (saveDraft hash sha256) (.empty users) _ _ :=
    serial_run guarded_saveDraft (.empty users) schedule
  constructor
  · exact fun uid start => events_le serial forward (narrow_since start) uid
  · exact fun uid start => events_le serial forward (narrow_upTo start) uid
  · intro t visible uid
    have counted : (draftQuota hash uid).Counted (parts hash) (saveDraft hash sha256) :=
      counted_draftQuota
    refine counted.visible_le (fun args => looks_saveDraft) guarded_saveDraft ?_ schedule visible
    exact Nat.zero_le 1000

/-- Two sessions revise a draft while the clock stands still. -/
theorem keepsCaps_sample : KeepsCaps (fun _ => 0) Sample.digest [7] Sample.schedule := by
  have calls : (history (Runs.trace (step (saveDraft (fun _ => 0) Sample.digest))
      (.initial (.empty [7])) Sample.schedule)).map Prod.fst =
        [Sample.save 1 1 none 0, Sample.save 0 2 (some 1) 1] := by
    rfl
  refine keepsCaps (fun _ => 0) Sample.digest [7] Sample.schedule fun entry member => ?_
  have call := List.mem_map_of_mem (f := Prod.fst) member
  rw [calls] at call
  simp only [List.mem_cons, List.not_mem_nil, or_false] at call
  rcases call with same | same
  · rw [same]
    exact fun _ => Int.le_refl 0
  · rw [same]
    exact fun _ => Int.le_refl 0

end Chlom.Workspace
