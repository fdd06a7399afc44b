import Chlom.Core.Limiter
import Mathlib.Data.List.Dedup

/-!
# What the request limiter bounds

A bucket that stays in the map counts every request of its client and route until its
window ends.  A bucket leaves the map before that only when a request finds 8192 other
buckets whose windows have not ended either, which is when the first of the map is
dropped; so many buckets come from as many senders of the last minute.
-/

namespace Chlom.Core

open Js

variable {buckets : Buckets} {bucket row : Bucket} {key other client route : Str}
  {time deadline : Int}

/-! ## The bucket of a request -/

theorem opened_cases (buckets : Buckets) (key : Str) (time : Int) :
    (∃ found, buckets.find key = some found ∧ time < found.untilTime ∧
      opened buckets key time = (found, buckets)) ∨
    (∀ found, buckets.find key = some found → found.untilTime ≤ time) ∧
      opened buckets key time = (⟨key, 0, time + 60000⟩, buckets.put ⟨key, 0, time + 60000⟩) := by
  cases found : buckets.find key with
  | none =>
      refine .inr ⟨nofun, ?_⟩
      simp only [opened, found]
  | some bucket =>
      by_cases ended : bucket.untilTime ≤ time
      · refine .inr ⟨?_, by simp only [opened, found, if_pos ended]⟩
        intro same equal
        obtain rfl := Option.some.inj equal
        exact ended
      · exact .inl ⟨bucket, rfl, by omega, by simp only [opened, found, if_neg ended]⟩

@[simp]
theorem hit_name : bucket.hit.name = bucket.name :=
  rfl

@[simp]
theorem hit_count : bucket.hit.count = bucket.count + 1 :=
  rfl

@[simp]
theorem opened_name : (opened buckets key time).1.name = key := by
  rcases opened_cases buckets key time with ⟨bucket, found, -, equal⟩ | ⟨-, equal⟩
  · rw [equal]
    exact Table.key_of_find found
  · rw [equal]

theorem lt_opened_untilTime : time < (opened buckets key time).1.untilTime := by
  rcases opened_cases buckets key time with ⟨bucket, -, live, equal⟩ | ⟨-, equal⟩
  · rw [equal]
    exact live
  · rw [equal]
    exact Int.lt_add_of_pos_right time (by decide)

theorem find_opened : (opened buckets key time).2.find other =
    if key = other then some (opened buckets key time).1 else buckets.find other := by
  rcases opened_cases buckets key time with ⟨bucket, found, -, equal⟩ | ⟨-, equal⟩
  · rw [equal]
    split
    · next same => rw [← same, found]
    · rfl
  · rw [equal, Table.find_put]

theorem length_opened_le (buckets : Buckets) (key : Str) (time : Int) :
    (opened buckets key time).2.rows.length ≤ buckets.rows.length + 1 := by
  rcases opened_cases buckets key time with ⟨bucket, -, -, equal⟩ | ⟨-, equal⟩
  · rw [equal]
    exact Nat.le_succ _
  · rw [equal]
    exact Table.length_put_le

/-! ## The size of the map -/

theorem length_swept_le (buckets : Buckets) (time : Int) :
    (swept buckets time).rows.length ≤ buckets.rows.length := by
  rw [swept]
  split
  · exact List.length_filter_le _ _
  · exact le_rfl

theorem length_evicted_le (nearly : buckets.rows.length ≤ 8193) :
    (evicted buckets).rows.length ≤ 8192 := by
  rw [evicted]
  split
  · have shorter : buckets.tail.rows.length = buckets.rows.length - 1 := List.length_tail
    omega
  · omega

theorem length_counted : (counted buckets bucket).rows.length = buckets.rows.length := by
  rw [counted]
  split
  · next present => exact Table.length_put_of_isSome present
  · rfl

theorem length_rateLimit_le (small : buckets.rows.length ≤ 8192) :
    (rateLimit buckets client route time).1.rows.length ≤ 8192 := by
  have grown := length_opened_le buckets (keyOf client route) time
  have kept := length_swept_le (opened buckets (keyOf client route) time).2 time
  rw [rateLimit, length_counted]
  apply length_evicted_le
  omega

theorem one_le_limit (route : Str) : 1 ≤ limit route := by
  rw [limit]
  split <;> decide

theorem handler_of_sender [Urls] {visit : Visit} (buckets : Buckets)
    (sent : visit.sender = some (client, route)) :
    handler buckets visit = ((rateLimit buckets client route visit.time).1,
      if limit route < (opened buckets (keyOf client route) visit.time).1.hit.count then
        .refused rateLimited [] (some 60)
      else .admitted route) := by
  cases checked : routed visit.request with
  | error refusal =>
      rw [Visit.sender, checked] at sent
      cases sent
  | ok found =>
      rw [Visit.sender, checked] at sent
      obtain ⟨rfl, rfl⟩ := Prod.mk.inj (Option.some.inj sent)
      simp only [handler, checked, rateLimit]
      split_ifs
      · rfl
      · rfl

/-- A sender without a bucket is let through. -/
theorem admitted_of_absent [Urls] {visit : Visit} (sent : visit.sender = some (client, route))
    (absent : buckets.find (keyOf client route) = none) :
    (handler buckets visit).2 = .admitted route := by
  have fresh : (opened buckets (keyOf client route) visit.time).1.hit.count = 1 := by
    simp only [opened, absent, hit_count]
  have within := one_le_limit route
  rw [handler_of_sender buckets sent, fresh]
  exact if_neg (by omega)

/-- A request is counted for its sender if it has one, and no other is admitted. -/
theorem handler_cases [Urls] (buckets : Buckets) (visit : Visit) :
    (visit.sender = none ∧ (handler buckets visit).1 = buckets ∧
      ∀ route, (handler buckets visit).2 ≠ .admitted route) ∨
    ∃ client route, visit.sender = some (client, route) ∧
      (handler buckets visit).1 = (rateLimit buckets client route visit.time).1 ∧
      ∀ other, (handler buckets visit).2 = .admitted other →
        (opened buckets (keyOf client route) visit.time).1.hit.count ≤ limit route := by
  cases sent : visit.sender with
  | none =>
      cases checked : routed visit.request with
      | error refusal =>
          refine .inl ⟨rfl, by simp only [handler, checked], ?_⟩
          simp [handler, checked]
      | ok route =>
          rw [Visit.sender, checked] at sent
          cases sent
  | some sender =>
      refine .inr ⟨sender.1, sender.2, rfl, ?_⟩
      rw [handler_of_sender buckets sent]
      refine ⟨rfl, fun other admitted => ?_⟩
      split at admitted
      · cases admitted
      · next within => exact Nat.le_of_not_lt within

theorem length_handler_le [Urls] {visit : Visit} (small : buckets.rows.length ≤ 8192) :
    (handler buckets visit).1.rows.length ≤ 8192 := by
  rcases handler_cases buckets visit with ⟨-, same, -⟩ | ⟨client, route, -, counted, -⟩
  · rw [same]
    exact small
  · rw [counted]
    exact length_rateLimit_le small

theorem length_run_le [Urls] (visits : List Visit) :
    (Runs.run handler Table.empty visits).rows.length ≤ 8192 :=
  Runs.invariant_run (fun buckets : Buckets => buckets.rows.length ≤ 8192)
    (fun _ _ small => length_handler_le small) (Nat.zero_le _) visits

/-! ## Buckets that stay -/

theorem find_swept (found : buckets.find key = some row) (live : time < row.untilTime) :
    (swept buckets time).find key = some row := by
  rw [swept]
  split
  · exact Table.find_filter found (by simpa using live)
  · exact found

theorem evicted_of_le (few : buckets.rows.length ≤ 8192) : evicted buckets = buckets := by
  rw [evicted, if_neg (by omega)]

theorem counted_of_isSome (present : (buckets.find bucket.name).isSome) :
    counted buckets bucket = buckets.put bucket :=
  if_pos present

/-- The buckets of a request after those that have ended were forgotten. -/
def remaining (buckets : Buckets) (key : Str) (time : Int) : Buckets :=
  swept (opened buckets key time).2 time

theorem rateLimit_buckets : (rateLimit buckets client route time).1 =
    counted (evicted (remaining buckets (keyOf client route) time))
      (opened buckets (keyOf client route) time).1.hit :=
  rfl

/-- Unless a bucket is dropped, a request counts its own bucket up and leaves the other
buckets whose windows last. -/
theorem rateLimit_eq (few : (remaining buckets (keyOf client route) time).rows.length ≤ 8192) :
    (rateLimit buckets client route time).1 =
      (remaining buckets (keyOf client route) time).put
        (opened buckets (keyOf client route) time).1.hit := by
  have own : (opened buckets (keyOf client route) time).2.find (keyOf client route) =
      some (opened buckets (keyOf client route) time).1 := by
    rw [find_opened, if_pos rfl]
  have there : (remaining buckets (keyOf client route) time).find (keyOf client route) =
      some (opened buckets (keyOf client route) time).1 :=
    find_swept own lt_opened_untilTime
  rw [rateLimit_buckets, evicted_of_le few, counted_of_isSome]
  rw [hit_name, opened_name, there]
  rfl

theorem find_rateLimit_self
    (few : (remaining buckets (keyOf client route) time).rows.length ≤ 8192) :
    (rateLimit buckets client route time).1.find (keyOf client route) =
      some (opened buckets (keyOf client route) time).1.hit := by
  rw [rateLimit_eq few, Table.find_put, if_pos (by rw [hit_name, opened_name])]

theorem find_rateLimit_other (apart : keyOf client route ≠ key)
    (few : (remaining buckets (keyOf client route) time).rows.length ≤ 8192)
    (found : buckets.find key = some row) (live : time < row.untilTime) :
    (rateLimit buckets client route time).1.find key = some row := by
  have kept : (opened buckets (keyOf client route) time).2.find key = some row := by
    rw [find_opened, if_neg apart, found]
  rw [rateLimit_eq few, Table.find_put, if_neg (by rwa [hit_name, opened_name]), remaining,
    find_swept kept live]

/-! ## Buckets and the requests that opened them -/

theorem mem_opened (member : row ∈ (opened buckets key time).2) :
    row ∈ buckets ∨ row.name = key ∧ row.untilTime = time + 60000 := by
  rcases opened_cases buckets key time with ⟨bucket, -, -, equal⟩ | ⟨-, equal⟩
  · rw [equal] at member
    exact .inl member
  · rw [equal] at member
    rcases Table.mem_put.mp member with rfl | ⟨there, -⟩
    · exact .inr ⟨rfl, rfl⟩
    · exact .inl there

theorem mem_swept (member : row ∈ swept buckets time) : row ∈ buckets := by
  rw [swept] at member
  split at member
  · exact (Table.mem_filter.mp member).1
  · exact member

theorem mem_evicted (member : row ∈ evicted buckets) : row ∈ buckets := by
  rw [evicted] at member
  split at member
  · exact Table.mem_of_mem_tail member
  · exact member

theorem mem_counted (member : row ∈ counted buckets bucket) : row ∈ buckets ∨ row = bucket := by
  rw [counted] at member
  split at member
  · rcases Table.mem_put.mp member with same | ⟨there, -⟩
    · exact .inr same
    · exact .inl there
  · exact .inl member

section Histories

variable [Urls]

/-- The key a request is counted under, if it is counted at all. -/
def Visit.bucketKey (visit : Visit) : Option Str :=
  visit.sender.map fun (client, route) => keyOf client route

/-- Every bucket was opened by a request of the history. -/
def Known (history : List Visit) (buckets : Buckets) : Prop :=
  ∀ row ∈ buckets, ∃ visit ∈ history, visit.bucketKey = some row.name ∧
    row.untilTime = visit.time + 60000

theorem Known.opened {history : List Visit} {visit : Visit} (known : Known history buckets)
    (named : visit.bucketKey = some key) :
    Known (history ++ [visit]) (opened buckets key visit.time).2 := by
  intro row member
  rcases mem_opened member with there | ⟨rfl, ends⟩
  · obtain ⟨earlier, past, same⟩ := known row there
    exact ⟨earlier, List.mem_append_left _ past, same⟩
  · exact ⟨visit, by simp, named, ends⟩

theorem Known.handler {history : List Visit} {visit : Visit} (known : Known history buckets) :
    Known (history ++ [visit]) (handler buckets visit).1 := by
  rcases handler_cases buckets visit with ⟨-, same, -⟩ | ⟨client, route, sent, counts, -⟩
  · intro row member
    obtain ⟨earlier, past, opens⟩ := known row (same ▸ member)
    exact ⟨earlier, List.mem_append_left _ past, opens⟩
  · have named : visit.bucketKey = some (keyOf client route) := by simp [Visit.bucketKey, sent]
    have there := known.opened named
    intro row member
    rw [counts] at member
    rcases mem_counted member with kept | rfl
    · exact there row (mem_swept (mem_evicted kept))
    · have own : (Core.opened buckets (keyOf client route) visit.time).1 ∈
          (Core.opened buckets (keyOf client route) visit.time).2 :=
        Table.mem_of_find (by rw [find_opened, if_pos rfl])
      exact there (Core.opened buckets (keyOf client route) visit.time).1 own

theorem known_run (visits : List Visit) :
    Known visits (Runs.run Core.handler Table.empty visits) := by
  induction visits using List.reverseRecOn with
  | nil => exact fun row member => absurd member Table.not_mem_empty
  | append_singleton before visit ih =>
      rw [Runs.run_append]
      exact ih.handler

/-- The other keys that were counted in the minute before a time. -/
def rivals (history : List Visit) (key : Str) (time : Int) : List Str :=
  ((history.filter fun visit => time < visit.time + 60000).filterMap
    Visit.bucketKey).dedup.filter fun other => other ≠ key

theorem mem_rivals {history : List Visit} {visit : Visit} (past : visit ∈ history)
    (recent : time < visit.time + 60000) (named : visit.bucketKey = some other)
    (apart : other ≠ key) : other ∈ rivals history key time := by
  rw [rivals, List.mem_filter, List.mem_dedup, List.mem_filterMap]
  refine ⟨⟨visit, List.mem_filter.mpr ⟨past, ?_⟩, named⟩, ?_⟩
  · simpa using recent
  · simpa using apart

theorem length_rivals_le (history : List Visit) (key : Str) (time : Int) :
    (rivals history key time).length ≤ history.length := by
  calc (rivals history key time).length
      ≤ ((history.filter fun visit => time < visit.time + 60000).filterMap
          Visit.bucketKey).length :=
        (List.length_filter_le _ _).trans (List.dedup_sublist _).length_le
    _ ≤ history.length := (List.length_filterMap_le _ _).trans (List.length_filter_le _ _)

/-- With fewer than 8192 other keys in a minute no bucket is dropped. -/
theorem length_remaining_le {history : List Visit} {visit : Visit} (known : Known history buckets)
    (named : visit.bucketKey = some other)
    (calm : (rivals (history ++ [visit]) key visit.time).length < 8192) :
    (remaining buckets other visit.time).rows.length ≤ 8192 := by
  have there := known.opened named
  rw [remaining, swept]
  split
  · apply Nat.le_trans (m := (rivals (history ++ [visit]) key visit.time).length + 1)
    · apply Table.length_le_of_listed (k := key)
      intro row kept apart
      obtain ⟨present, lasts⟩ := Table.mem_filter.mp kept
      obtain ⟨earlier, past, opens, ends⟩ := there row present
      have later : visit.time < row.untilTime := by simpa using lasts
      exact mem_rivals past (ends ▸ later) opens apart
    · exact calm
  · omega

/-! ## One window -/

/-- A request opens a bucket when its key has none whose window lasts. -/
def Opens (buckets : Buckets) (visit : Visit) (key : Str) : Prop :=
  visit.bucketKey = some key ∧ ∀ row, buckets.find key = some row → row.untilTime ≤ visit.time

/-- A request of a sender that was let through before the end of a window. -/
def passes (client route : Str) (deadline : Int) (entry : Visit × Answer) : Bool :=
  entry.1.sender = some (client, route) ∧ entry.2 = .admitted route ∧ entry.1.time < deadline

/-- How many requests of a sender are let through before the end of a window. -/
def admissions (buckets : Buckets) (visits : List Visit) (client route : Str) (deadline : Int) :
    Nat :=
  (Runs.trace handler buckets visits).countP (passes client route deadline)

theorem admissions_snoc {visits : List Visit} {visit : Visit} :
    admissions buckets (visits ++ [visit]) client route deadline =
      admissions buckets visits client route deadline +
        if passes client route deadline
          (visit, (handler (Runs.run handler buckets visits) visit).2) then 1 else 0 := by
  rw [admissions, Runs.trace_append, List.countP_append, ← admissions]
  simp [Runs.trace, List.countP_cons]

theorem admissions_le_append (visits later : List Visit) :
    admissions buckets visits client route deadline ≤
      admissions buckets (visits ++ later) client route deadline := by
  rw [admissions, admissions, Runs.trace_append, List.countP_append]
  exact Nat.le_add_right _ _

theorem bucketKey_of_sender {visit : Visit} (sent : visit.sender = some (client, route)) :
    visit.bucketKey = some (keyOf client route) := by
  simp [Visit.bucketKey, sent]

/-- A new bucket has counted the request that opened it. -/
theorem find_of_opens {history : List Visit} {visit : Visit} (known : Known history buckets)
    (opens : Opens buckets visit key)
    (calm : (rivals (history ++ [visit]) key visit.time).length < 8192) :
    (handler buckets visit).1.find key = some ⟨key, 1, visit.time + 60000⟩ := by
  obtain ⟨named, ended⟩ := opens
  rcases handler_cases buckets visit with ⟨unsent, -, -⟩ | ⟨client, route, sent, counts, -⟩
  · simp [Visit.bucketKey, unsent] at named
  · obtain rfl : keyOf client route = key :=
      Option.some.inj ((bucketKey_of_sender sent).symm.trans named)
    rw [counts, find_rateLimit_self (length_remaining_le known named calm)]
    rcases opened_cases buckets (keyOf client route) visit.time with
      ⟨bucket, found, live, -⟩ | ⟨-, fresh⟩
    · have := ended bucket found
      omega
    · rw [fresh]
      rfl

/-- A request before the end of a window leaves its bucket, counted up if it is one of
its own; then it is let through only within the limit. -/
theorem find_of_lasting {history : List Visit} {visit : Visit} (known : Known history buckets)
    (found : buckets.find key = some row) (live : visit.time < row.untilTime)
    (calm : (rivals (history ++ [visit]) key visit.time).length < 8192) :
    ((handler buckets visit).1.find key = some row ∧ visit.bucketKey ≠ some key) ∨
      (handler buckets visit).1.find key = some row.hit ∧
        ∀ client route, visit.sender = some (client, route) →
          (handler buckets visit).2 = .admitted route → row.hit.count ≤ limit route := by
  rcases handler_cases buckets visit with ⟨unsent, same, -⟩ | ⟨client, route, sent, counts, within⟩
  · refine .inl ⟨by rw [same, found], ?_⟩
    simp [Visit.bucketKey, unsent]
  · have named := bucketKey_of_sender sent
    have few := length_remaining_le known named calm
    by_cases own : keyOf client route = key
    · subst own
      have lasts : (Core.opened buckets (keyOf client route) visit.time).1 = row := by
        rcases opened_cases buckets (keyOf client route) visit.time with
          ⟨bucket, there, -, equal⟩ | ⟨ended, -⟩
        · rw [equal]
          exact Option.some.inj (there.symm.trans found)
        · have := ended row found
          omega
      refine .inr ⟨by rw [counts, find_rateLimit_self few, lasts], ?_⟩
      intro client' route' sent' admitted
      obtain ⟨rfl, rfl⟩ := Prod.mk.inj (Option.some.inj (sent.symm.trans sent'))
      rw [← lasts]
      exact within _ admitted
    · refine .inl ⟨by rw [counts, find_rateLimit_other own few found live], ?_⟩
      rw [named]
      exact fun same => own (Option.some.inj same)

/-- The bucket of a sender after some of its requests were let through. -/
def Counting (buckets : Buckets) (client route : Str) (deadline : Int) (passed : Nat) : Prop :=
  ∃ row, buckets.find (keyOf client route) = some row ∧ row.untilTime = deadline ∧
    passed ≤ row.count ∧ passed ≤ limit route

theorem Counting.step {history : List Visit} {visit : Visit} {passed : Nat}
    (known : Known history buckets) (counting : Counting buckets client route deadline passed)
    (early : visit.time < deadline)
    (calm : (rivals (history ++ [visit]) (keyOf client route) visit.time).length < 8192) :
    Counting (handler buckets visit).1 client route deadline
      (passed + if passes client route deadline (visit, (handler buckets visit).2) then 1 else 0) := by
  obtain ⟨row, found, ends, counted, within⟩ := counting
  rcases find_of_lasting known found (ends ▸ early) calm with ⟨same, foreign⟩ | ⟨next, bound⟩
  · have unsent : passes client route deadline (visit, (handler buckets visit).2) = false := by
      simp only [passes, decide_eq_false_iff_not]
      exact fun passing => foreign (bucketKey_of_sender passing.1)
    refine ⟨row, same, ends, ?_⟩
    simp [unsent, counted, within]
  · refine ⟨row.hit, next, ends, ?_⟩
    split
    · next passing =>
        obtain ⟨sent, admitted, -⟩ : _ ∧ _ ∧ _ := by simpa [passes] using passing
        have := bound client route sent admitted
        have grown : row.hit.count = row.count + 1 := rfl
        omega
    · have grown : row.hit.count = row.count + 1 := rfl
      omega

/-- Before every request of a window fewer than 8192 other keys were counted in a minute. -/
def Calm (history window : List Visit) (key : Str) (deadline : Int) : Prop :=
  ∀ earlier visit later, window = earlier ++ visit :: later → visit.time < deadline →
    (rivals (history ++ earlier ++ [visit]) key visit.time).length < 8192

theorem Calm.prefix {history window rest : List Visit}
    (calm : Calm history (window ++ rest) key deadline) : Calm history window key deadline := by
  intro earlier visit later split early
  refine calm earlier visit (later ++ rest) ?_ early
  rw [split, List.append_assoc, List.cons_append]

theorem Calm.last {history window : List Visit} {visit : Visit}
    (calm : Calm history (window ++ [visit]) key deadline) (early : visit.time < deadline) :
    (rivals (history ++ window ++ [visit]) key visit.time).length < 8192 :=
  calm window visit [] rfl early

theorem calm_of_length_lt {history window : List Visit}
    (short : (history ++ window).length < 8192) : Calm history window key deadline := by
  rintro earlier visit later rfl -
  have le := length_rivals_le (history ++ earlier ++ [visit]) key visit.time
  simp only [List.length_append, List.length_cons, List.length_nil] at short le
  omega

/-- The bucket of a sender follows its requests to the end of the window. -/
theorem counting_run {before after : List Visit} {opening : Visit}
    (ordered : (opening :: after).Pairwise fun first second => first.time ≤ second.time)
    (opens : Opens (Runs.run handler Table.empty before) opening (keyOf client route))
    (calm : Calm before (opening :: after) (keyOf client route) (opening.time + 60000)) :
    ((∀ visit ∈ after, visit.time < opening.time + 60000) →
      Counting (Runs.run handler Table.empty (before ++ opening :: after)) client route
        (opening.time + 60000)
        (admissions (Runs.run handler Table.empty before) (opening :: after) client route
          (opening.time + 60000))) ∧
    admissions (Runs.run handler Table.empty before) (opening :: after) client route
      (opening.time + 60000) ≤ limit route := by
  induction after using List.reverseRecOn with
  | nil =>
      have whole : Calm before ([] ++ [opening]) (keyOf client route) (opening.time + 60000) := calm
      have first := whole.last (by omega)
      rw [List.append_nil] at first
      have found := find_of_opens (known_run before) opens first
      have once : admissions (Runs.run handler Table.empty before) [opening] client route
          (opening.time + 60000) ≤ 1 := List.countP_le_length
      have within := once.trans (one_le_limit route)
      refine ⟨fun _ => ⟨⟨keyOf client route, 1, opening.time + 60000⟩, ?_, rfl, once, within⟩,
        within⟩
      rw [Runs.run_append]
      exact found
  | append_singleton window visit ih =>
      rw [← List.cons_append, List.pairwise_append] at ordered
      obtain ⟨orderedWindow, -, last⟩ := ordered
      obtain ⟨counting, bound⟩ := ih orderedWindow calm.prefix
      rw [← List.cons_append, admissions_snoc]
      by_cases early : visit.time < opening.time + 60000
      · have earlier : ∀ other ∈ window, other.time < opening.time + 60000 := by
          intro other member
          have := last other (List.mem_cons_of_mem opening member) visit (by simp)
          omega
        have whole : Calm before (opening :: window ++ [visit]) (keyOf client route)
            (opening.time + 60000) := calm
        have next := (counting earlier).step (known_run _) early (whole.last early)
        rw [← Runs.run_append, ← List.append_assoc, Runs.run_append _ (before ++ opening :: window)]
        exact ⟨fun _ => next, next.choose_spec.2.2.2⟩
      · have late : passes client route (opening.time + 60000) (visit, (Core.handler
            (Runs.run Core.handler (Runs.run Core.handler Table.empty before) (opening :: window))
            visit).2) = false := by
          simp [passes, early]
        rw [late]
        refine ⟨fun earlier => absurd (earlier visit (by simp)) early, bound⟩

/-- The map has at most 8192 buckets after every request, and a sender is let through at
most its limit from the request that opens its bucket until the end of the window, if
before no request of the window 8192 other keys were counted within a minute. -/
theorem limiter_holds :
    (∀ visits, (Runs.run handler Table.empty visits).rows.length ≤ 8192) ∧
    ∀ (before after : List Visit) (opening : Visit) (client route : Str),
      (before ++ opening :: after).Pairwise (fun first second => first.time ≤ second.time) →
      Opens (Runs.run handler Table.empty before) opening (keyOf client route) →
      Calm before (opening :: after) (keyOf client route) (opening.time + 60000) →
      admissions (Runs.run handler Table.empty before) (opening :: after) client route
        (opening.time + 60000) ≤ limit route := by
  refine ⟨length_run_le, ?_⟩
  intro before after opening client route ordered opens calm
  rw [List.pairwise_append] at ordered
  exact (counting_run ordered.2.1 opens calm).2

end Histories

/-! ## A flood of other senders -/

/-- A new sender among buckets whose windows all last comes last, and takes the place of
the first when there is no room. -/
theorem rows_rateLimit_new (fresh : buckets.find (keyOf client route) = none)
    (live : ∀ row ∈ buckets, time < row.untilTime) (small : buckets.rows.length ≤ 8192) :
    (rateLimit buckets client route time).1.rows =
      (if buckets.rows.length < 8192 then buckets.rows else buckets.rows.tail) ++
        [⟨keyOf client route, 1, time + 60000⟩] := by
  let bucket : Bucket := ⟨keyOf client route, 0, time + 60000⟩
  have equal : opened buckets (keyOf client route) time = (bucket, buckets.put bucket) := by
    simp only [opened, fresh, bucket]
  have appended : (buckets.put bucket).rows = buckets.rows ++ [bucket] :=
    Table.rows_put_of_fresh fresh
  have stay : (remaining buckets (keyOf client route) time).rows = buckets.rows ++ [bucket] := by
    rw [remaining, equal, swept]
    split
    · rw [← appended]
      apply List.filter_eq_self.mpr
      intro row member
      rcases Table.mem_put.mp member with rfl | ⟨there, -⟩
      · simp only [bucket, decide_eq_true_eq]
        omega
      · simpa using live row there
    · exact appended
  have dropped : (evicted (remaining buckets (keyOf client route) time)).rows =
      (if buckets.rows.length < 8192 then buckets.rows else buckets.rows.tail) ++ [bucket] := by
    have longer : (remaining buckets (keyOf client route) time).rows.length =
        buckets.rows.length + 1 := by rw [stay, List.length_append, List.length_singleton]
    by_cases room : buckets.rows.length < 8192
    · rw [if_pos room, evicted_of_le (by omega), stay]
    · have full : buckets.rows ≠ [] := by
        intro none
        simp [none] at room
      rw [if_neg room, evicted, if_pos (by omega), Table.rows_tail, stay]
      exact List.tail_append_of_ne_nil full
  have others : ∀ row ∈ if buckets.rows.length < 8192 then buckets.rows else buckets.rows.tail,
      row.name ≠ bucket.hit.name := by
    intro row member
    split at member
    · exact Table.find_eq_none.mp fresh row member
    · exact Table.find_eq_none.mp fresh row (List.mem_of_mem_tail member)
  have there : ((evicted (remaining buckets (keyOf client route) time)).find
      bucket.hit.name).isSome := by
    have last : bucket ∈ evicted (remaining buckets (keyOf client route) time) := by
      rw [← Table.mem_rows, dropped]
      simp
    rw [hit_name, Table.find_key last]
    rfl
  have named : bucket.name = bucket.hit.name := rfl
  rw [rateLimit_buckets, equal, counted_of_isSome there, Table.rows_put, dropped,
    Table.putRow_concat others named]
  rfl

/-- The URLs of the two requests below. -/
@[reducible]
def sampleUrls : Urls where
  routeOf url := if url = lit "/api/core?route=signin" then some (some (lit "signin")) else some none
  originOf text := if text = lit "https://core.example" then some (lit "https:", text) else none

def signIn : Visit where
  request := ⟨lit "/api/core?route=signin", lit "POST",
    ⟨some (lit "203.0.113.7"), some (lit "https://core.example"), some (lit "core.example"), none⟩⟩
  time := 0

def digit (n : Nat) : CodeUnit := Fin.ofNat 0x10000 (0x30 + n % 10)

/-- One of ten thousand addresses. -/
def address (n : Nat) : Str :=
  lit "2001:db8::" ++ [digit (n / 1000), digit (n / 100), digit (n / 10), digit n]

def healthCheck (n : Nat) : Visit where
  request := ⟨lit "/api/core", lit "GET", ⟨some (address n), none, some (lit "core.example"), none⟩⟩
  time := 0

theorem digit_plain (n : Nat) : digit n ≠ unit ',' ∧ isWhite (digit n) = false := by
  have checked : ∀ d : Fin 10, digit d ≠ unit ',' ∧ isWhite (digit d) = false := by decide
  have same : digit n = digit (n % 10) := by rw [digit, digit, Nat.mod_mod]
  rw [same]
  exact checked ⟨n % 10, Nat.mod_lt n (by decide)⟩

theorem address_plain {n : Nat} : ∀ c ∈ address n, c ≠ unit ',' ∧ isWhite c = false := by
  intro c member
  rcases List.mem_append.mp member with start | listed
  · have checked : ∀ c ∈ lit "2001:db8::", c ≠ unit ',' ∧ isWhite c = false :=
      forall_mem_of_all (by decide)
    exact checked c start
  · simp only [List.mem_cons, List.not_mem_nil, or_false] at listed
    rcases listed with rfl | rfl | rfl | rfl
    all_goals exact digit_plain _

theorem trim_of_plain {s : Str} (plain : ∀ c ∈ s, isWhite c = false) : trim s = s := by
  have start : s.dropWhile isWhite = s := by
    cases s with
    | nil => rfl
    | cons c rest => rw [List.dropWhile_cons_of_neg (by simp [plain c])]
  rw [trim, start, List.rdropWhile_eq_self_iff]
  intro nonempty
  simp [plain _ (List.getLast_mem nonempty)]

theorem clientOf_address (n : Nat) : clientOf (some (address n)) = address n := by
  have whole : (address n).takeWhile (fun c => c ≠ unit ',') = address n := by
    apply List.takeWhile_eq_self_iff.mpr
    intro c member
    simpa using (address_plain c member).1
  have nonempty : address n ≠ [] := by simp [address]
  rw [clientOf, Option.getD_some, if_neg nonempty, whole,
    trim_of_plain fun c member => (address_plain c member).2]
  apply List.take_of_length_le
  have length : (address n).length = 14 := by
    rw [address, List.length_append]
    rfl
  omega

theorem digit_val (n : Nat) : (digit n).val = 0x30 + n % 10 := by
  rw [digit, Fin.val_ofNat]
  omega

theorem address_injective {m n : Nat} (small : m < 10000) (small' : n < 10000)
    (same : address m = address n) : m = n := by
  have digits := List.append_cancel_left same
  simp only [List.cons.injEq, Fin.ext_iff, digit_val, and_true] at digits
  omega

theorem sender_signIn : @Visit.sender sampleUrls signIn = some (lit "203.0.113.7", lit "signin") := by
  decide

theorem routed_healthCheck (n : Nat) :
    @routed sampleUrls (healthCheck n).request = .ok (lit "health") := by
  rfl

theorem sender_healthCheck (n : Nat) :
    @Visit.sender sampleUrls (healthCheck n) = some (address n, lit "health") := by
  simp only [Visit.sender]
  rw [routed_healthCheck]
  change some (clientOf (some (address n)), lit "health") = _
  rw [clientOf_address]

theorem opens_signIn : @Opens sampleUrls Table.empty signIn
    (keyOf (lit "203.0.113.7") (lit "signin")) := by
  refine ⟨@bucketKey_of_sender _ _ sampleUrls _ sender_signIn, ?_⟩
  simp

/-- More sign-ins than a window lets through, among requests of other senders. -/
def crowd : List Visit :=
  healthCheck 1 :: (List.replicate 5 signIn ++ healthCheck 2 :: List.replicate 5 signIn)

theorem limiter_holds_sample :
    @admissions sampleUrls Table.empty (signIn :: crowd) (lit "203.0.113.7") (lit "signin") 60000 =
      limit (lit "signin") := by
  refine Nat.le_antisymm ?_ (by decide +kernel)
  exact (@limiter_holds sampleUrls).2 [] crowd signIn _ _ (by decide) opens_signIn
    (@calm_of_length_lt _ _ sampleUrls _ _ (by decide))

/-- The buckets of a client that used up its sign-ins and of the addresses after it. -/
def floodRows (n : Nat) : List Bucket :=
  ⟨keyOf (lit "203.0.113.7") (lit "signin"), 8, 60000⟩ ::
    (List.range n).map fun i => ⟨keyOf (address i) (lit "health"), 1, 60000⟩

theorem floodRows_succ (n : Nat) :
    floodRows (n + 1) = floodRows n ++ [⟨keyOf (address n) (lit "health"), 1, 60000⟩] := by
  simp [floodRows, List.range_succ]

theorem length_floodRows (n : Nat) : (floodRows n).length = n + 1 := by
  simp [floodRows]

theorem lasts_of_mem_floodRows {n : Nat} : ∀ row ∈ floodRows n, 0 < row.untilTime := by
  intro row member
  have window : (0 : Int) < 60000 := by decide
  rcases List.mem_cons.mp member with rfl | listed
  · exact window
  · obtain ⟨i, -, rfl⟩ := List.mem_map.mp listed
    exact window

theorem signIn_key_ne (n : Nat) : keyOf (lit "203.0.113.7") (lit "signin") ≠
    keyOf (address n) (lit "health") := by
  intro same
  have third : some (unit '3') = some (unit '0') := congrArg (fun key => key[2]?) same
  exact absurd third (by decide)

theorem key_fresh {n : Nat} (small : n < 10000) : ∀ row ∈ floodRows n,
    row.name ≠ keyOf (address n) (lit "health") := by
  intro row member
  rcases List.mem_cons.mp member with rfl | listed
  · exact signIn_key_ne n
  · obtain ⟨i, earlier, rfl⟩ := List.mem_map.mp listed
    have before := List.mem_range.mp earlier
    intro same
    have equal := address_injective (by omega) small (List.append_cancel_right same)
    omega

/-- A further address among the buckets of a flood. -/
theorem rows_healthCheck {n : Nat} (small : n < 8192) (flooded : buckets.rows = floodRows n) :
    (@handler sampleUrls buckets (healthCheck n)).1.rows =
      (if n + 1 < 8192 then floodRows n else (floodRows n).tail) ++
        [⟨keyOf (address n) (lit "health"), 1, 60000⟩] := by
  have fresh : buckets.find (keyOf (address n) (lit "health")) = none := by
    apply Table.find_eq_none.mpr
    intro row member
    exact key_fresh (by omega) row (flooded ▸ Table.mem_rows.mpr member)
  have live : ∀ row ∈ buckets, (0 : Int) < row.untilTime := by
    intro row member
    exact lasts_of_mem_floodRows row (flooded ▸ Table.mem_rows.mpr member)
  have length : buckets.rows.length = n + 1 := by rw [flooded, length_floodRows]
  have rows := rows_rateLimit_new fresh live (by omega)
  rw [length, flooded] at rows
  rw [@handler_of_sender _ _ sampleUrls _ buckets (sender_healthCheck n)]
  exact rows

theorem rows_signIns :
    (Runs.run (@handler sampleUrls) Table.empty (List.replicate 8 signIn)).rows = floodRows 0 := by
  decide

/-- The requests of the first addresses, one each. -/
def flood (n : Nat) : List Visit := (List.range n).map healthCheck

theorem flood_succ (n : Nat) : flood (n + 1) = flood n ++ [healthCheck n] := by
  simp [flood, List.range_succ]

/-- While there is room every address gets a bucket. -/
theorem rows_flood {n : Nat} (room : n < 8192) :
    (Runs.run (@handler sampleUrls) Table.empty (List.replicate 8 signIn ++ flood n)).rows =
      floodRows n := by
  induction n with
  | zero => exact rows_signIns
  | succ n ih =>
      rw [flood_succ, ← List.append_assoc, Runs.run_append, floodRows_succ]
      refine (rows_healthCheck (by omega) (ih (by omega))).trans ?_
      rw [if_pos room]

/-- The address that finds no room takes the place of the client. -/
theorem find_flooded {n : Nat} (full : n + 1 = 8192) :
    (Runs.run (@handler sampleUrls) Table.empty (List.replicate 8 signIn ++ flood (n + 1))).find
      (keyOf (lit "203.0.113.7") (lit "signin")) = none := by
  have rows := rows_healthCheck (by omega) (rows_flood (n := n) (by omega))
  rw [if_neg (by omega)] at rows
  apply Table.find_eq_none.mpr
  intro row member
  rw [flood_succ, ← List.append_assoc, Runs.run_append, ← Table.mem_rows] at member
  rcases List.mem_append.mp (rows ▸ member) with listed | last
  · obtain ⟨i, -, rfl⟩ := List.mem_map.mp listed
    exact (signIn_key_ne i).symm
  · rw [List.mem_singleton.mp last]
    exact (signIn_key_ne n).symm

/-- Eight sign-ins, a flood, and a ninth sign-in of the same client. -/
def flooding (n : Nat) : List Visit :=
  List.replicate 8 signIn ++ flood n ++ [signIn]

theorem time_of_mem_flooding {n : Nat} : ∀ visit ∈ flooding n, visit.time = 0 := by
  intro visit member
  simp only [flooding, flood, List.mem_append, List.mem_replicate, List.mem_map, List.mem_cons,
    List.not_mem_nil, or_false] at member
  rcases member with (⟨-, rfl⟩ | ⟨i, -, rfl⟩) | rfl
  all_goals rfl

theorem eight_admitted : @admissions sampleUrls Table.empty (List.replicate 8 signIn)
    (lit "203.0.113.7") (lit "signin") 60000 = 8 := by
  decide

theorem nine_admitted {n : Nat} (full : n + 1 = 8192) :
    9 ≤ @admissions sampleUrls Table.empty (flooding (n + 1)) (lit "203.0.113.7")
      (lit "signin") 60000 := by
  have ninth := @admitted_of_absent _ _ _ sampleUrls _ sender_signIn (find_flooded full)
  have counted : @passes sampleUrls (lit "203.0.113.7") (lit "signin") 60000
      (signIn, .admitted (lit "signin")) = true := by decide
  have before : 8 ≤ @admissions sampleUrls Table.empty
      (List.replicate 8 signIn ++ flood (n + 1)) (lit "203.0.113.7") (lit "signin") 60000 := by
    rw [← eight_admitted]
    exact @admissions_le_append _ _ _ _ sampleUrls _ _
  rw [flooding, @admissions_snoc _ _ _ _ sampleUrls, ninth, counted]
  simpa using before

theorem limiter_flushed :
    ¬ ∀ (before after : List Visit) (opening : Visit) (client route : Str),
      (before ++ opening :: after).Pairwise (fun first second => first.time ≤ second.time) →
      @Opens sampleUrls (Runs.run (@handler sampleUrls) Table.empty before) opening
        (keyOf client route) →
      @admissions sampleUrls (Runs.run (@handler sampleUrls) Table.empty before)
        (opening :: after) client route (opening.time + 60000) ≤ limit route := by
  intro bounded
  obtain ⟨n, full⟩ : ∃ n, n + 1 = 8192 := ⟨8191, rfl⟩
  have ordered : (flooding (n + 1)).Pairwise fun first second => first.time ≤ second.time := by
    apply List.pairwise_of_forall_mem_list
    intro first member second member'
    rw [time_of_mem_flooding first member, time_of_mem_flooding second member']
  have eight := bounded [] (List.replicate 7 signIn ++ flood (n + 1) ++ [signIn]) signIn
    (lit "203.0.113.7") (lit "signin") ordered opens_signIn
  exact absurd ((nine_admitted full).trans eight) (by decide)

end Chlom.Core
