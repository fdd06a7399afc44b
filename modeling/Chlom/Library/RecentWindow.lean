import Mathlib.Data.List.Basic

/-!
# Counting what is recent

A limiter keeps the times of what it admitted and drops those that lie a span or more in the
past whenever the clock is read.  As long as the clock does not go back, what it kept is all
that it needs: no window of the span holds more than the limit, whatever was dropped.
-/

namespace RecentWindow

/-- The time lies less than a span before now. -/
def Recent (span now time : Int) : Prop := now - span < time

instance (span now time : Int) : Decidable (Recent span now time) :=
  inferInstanceAs (Decidable (now - span < time))

/-- The times of a list that are recent. -/
def recent (span now : Int) (times : List Int) : List Int :=
  times.filter fun time => Recent span now time

/-- The times of a list in the window that ends at a time. -/
def window (span stop : Int) (times : List Int) : List Int :=
  times.filter fun time => Recent span stop time ∧ time ≤ stop

variable {span : Int} {limit : Nat} {kept readings admitted : List Int}

/-- What is recent now was recent before. -/
theorem recent_recent {earlier now : Int} (forward : earlier ≤ now) (times : List Int) :
    recent span now (recent span earlier times) = recent span now times := by
  unfold recent
  rw [List.filter_filter]
  apply List.filter_congr
  intro time _
  rw [← Bool.decide_and]
  apply decide_eq_decide.mpr
  unfold Recent
  omega

theorem length_window_le {stop : Int} (times : List Int) :
    (window span stop times).length ≤ (recent span stop times).length := by
  have narrowed : window span stop times =
      (recent span stop times).filter fun time => time ≤ stop := by
    unfold window recent
    rw [List.filter_filter]
    apply List.filter_congr
    intro time _
    simp [and_comm]
  rw [narrowed]
  exact List.length_filter_le _ _

/-- What a limiter kept at the readings of its clock agrees with all that it admitted, as
far as this is recent, and no window holds more than the limit. -/
structure Tracks (span : Int) (limit : Nat) (readings kept admitted : List Int) : Prop where
  agrees : ∀ now, (∀ time ∈ readings, time ≤ now) → recent span now kept = recent span now admitted
  read : ∀ time ∈ admitted, time ∈ readings
  bounded : ∀ stop, (window span stop admitted).length ≤ limit

theorem Tracks.nil : Tracks span limit [] [] [] where
  agrees _ _ := rfl
  read _ member := member
  bounded _ := Nat.zero_le limit

/-- The clock is read, and at most what is no longer recent is dropped. -/
theorem Tracks.drop (tracks : Tracks span limit readings kept admitted) (now : Int) :
    Tracks span limit (readings ++ [now]) (recent span now kept) admitted where
  agrees later latest := by
    have forward := latest now (List.mem_append_right _ List.mem_cons_self)
    rw [recent_recent forward]
    exact tracks.agrees later fun time member => latest time (List.mem_append_left _ member)
  read time member := List.mem_append_left _ (tracks.read time member)
  bounded := tracks.bounded

/-- The clock is read and nothing is dropped. -/
theorem Tracks.wait (tracks : Tracks span limit readings kept admitted) (now : Int) :
    Tracks span limit (readings ++ [now]) kept admitted where
  agrees later latest :=
    tracks.agrees later fun time member => latest time (List.mem_append_left _ member)
  read time member := List.mem_append_left _ (tracks.read time member)
  bounded := tracks.bounded

/-- Below the limit one more is admitted. -/
theorem Tracks.admit (tracks : Tracks span limit readings kept admitted) {now : Int}
    (latest : ∀ time ∈ readings, time ≤ now) (room : (recent span now kept).length < limit) :
    Tracks span limit (readings ++ [now]) (recent span now kept ++ [now]) (admitted ++ [now]) where
  agrees later after := by
    have dropped := (tracks.drop now).agrees later after
    unfold recent at dropped ⊢
    rw [List.filter_append, List.filter_append, dropped]
  read time member := by
    rcases List.mem_append.mp member with before | now
    · exact List.mem_append_left _ (tracks.read time before)
    · exact List.mem_append_right _ now
  bounded stop := by
    have split : window span stop (admitted ++ [now]) =
        window span stop admitted ++ window span stop [now] := List.filter_append _ _
    rw [split, List.length_append]
    by_cases reached : now ≤ stop
    · have same := tracks.agrees stop fun time member => Int.le_trans (latest time member) reached
      have fewer : (recent span stop kept).length ≤ (recent span now kept).length := by
        rw [← recent_recent reached]
        exact List.length_filter_le _ _
      have before : (window span stop admitted).length < limit := by
        calc (window span stop admitted).length
            ≤ (recent span stop admitted).length := length_window_le admitted
          _ = (recent span stop kept).length := congrArg List.length same.symm
          _ ≤ (recent span now kept).length := fewer
          _ < limit := room
      have last : (window span stop [now]).length ≤ 1 := List.length_filter_le _ _
      omega
    · have outside : window span stop [now] = [] := by simp [window, reached]
      rw [outside]
      exact tracks.bounded stop

end RecentWindow
