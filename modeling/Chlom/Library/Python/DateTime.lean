import Chlom.Library.Python.Numerals
import Mathlib.Tactic.IntervalCases
import Mathlib.Tactic.NormNum

/-!
# Timestamps with an offset

A `datetime` is a calendar date, a microsecond of the day and perhaps a UTC offset.
Moving it to UTC changes the date by at most one day and fails at the ends of the
calendar.  The text of a UTC timestamp has fixed fields, so it can be read back.
-/

namespace Python

/-! ## The calendar -/

def isLeap (year : Nat) : Bool :=
  year % 4 == 0 && (year % 100 != 0 || year % 400 == 0)

def daysInMonth (year month : Nat) : Nat :=
  if month = 2 then if isLeap year then 29 else 28
  else if month ∈ [4, 6, 9, 11] then 30
  else 31

theorem daysInMonth_pos (year month : Nat) : 1 ≤ daysInMonth year month := by
  unfold daysInMonth
  split_ifs <;> decide

theorem daysInMonth_le (year month : Nat) : daysInMonth year month ≤ 31 := by
  unfold daysInMonth
  split_ifs <;> decide

/-- A day of the proleptic Gregorian calendar in the years 1 to 9999. -/
structure Date where
  year : Nat
  month : Nat
  day : Nat
  valid : (1 ≤ year ∧ year ≤ 9999) ∧ (1 ≤ month ∧ month ≤ 12) ∧
    1 ≤ day ∧ day ≤ daysInMonth year month
  deriving DecidableEq

namespace Date

/-- The day after, unless the calendar ends. -/
def next (d : Date) : Option Date :=
  if inMonth : d.day < daysInMonth d.year d.month then
    some ⟨d.year, d.month, d.day + 1, d.valid.1, d.valid.2.1, by omega, inMonth⟩
  else if inYear : d.month < 12 then
    some ⟨d.year, d.month + 1, 1, d.valid.1, by omega, le_rfl, daysInMonth_pos _ _⟩
  else if inCalendar : d.year < 9999 then
    some ⟨d.year + 1, 1, 1, by omega, by omega, le_rfl, daysInMonth_pos _ _⟩
  else none

/-- The day before, unless the calendar starts. -/
def prev (d : Date) : Option Date :=
  if inMonth : 1 < d.day then
    some ⟨d.year, d.month, d.day - 1, d.valid.1, d.valid.2.1, by omega,
      (Nat.sub_le _ _).trans d.valid.2.2.2⟩
  else if inYear : 1 < d.month then
    some ⟨d.year, d.month - 1, daysInMonth d.year (d.month - 1), d.valid.1,
      ⟨by omega, (Nat.sub_le _ _).trans d.valid.2.1.2⟩, daysInMonth_pos _ _, le_rfl⟩
  else if inCalendar : 1 < d.year then
    some ⟨d.year - 1, 12, 31, ⟨by omega, (Nat.sub_le _ _).trans d.valid.1.2⟩, by decide,
      by decide, by simp [daysInMonth]⟩
  else none

end Date

/-! ## Timestamps -/

/-- The microseconds of a day. -/
abbrev DAY : Nat := 86400000000

/-- A UTC offset in microseconds, less than a day either way. -/
structure Offset where
  micros : Int
  valid : -DAY < micros ∧ micros < DAY
  deriving DecidableEq

def Offset.utc : Offset := ⟨0, by decide⟩

structure DateTime where
  date : Date
  time : Fin DAY
  offset : Option Offset
  deriving DecidableEq

namespace DateTime

/-- `astimezone(timezone.utc)` of a timestamp with an offset, which overflows at the
ends of the calendar. -/
def toUtc (d : DateTime) (offset : Offset) : Option DateTime :=
  let shifted : Int := d.time.val - offset.micros
  if before : shifted < 0 then
    d.date.prev.map fun date =>
      ⟨date, ⟨(shifted + DAY).toNat, by
        have := offset.valid
        omega⟩, some .utc⟩
  else if after : DAY ≤ shifted then
    d.date.next.map fun date =>
      ⟨date, ⟨(shifted - DAY).toNat, by
        have := offset.valid
        have := d.time.isLt
        omega⟩, some .utc⟩
  else some ⟨d.date, ⟨shifted.toNat, by omega⟩, some .utc⟩

/-- The fields by which two timestamps in UTC are compared. -/
def fields (d : DateTime) : List Nat := [d.date.year, d.date.month, d.date.day, d.time.val]

/-- The date and time of `isoformat(timespec="microseconds")`, without the offset. -/
def isoText (d : DateTime) : Str :=
  padded 4 d.date.year ++ lit "-" ++ padded 2 d.date.month ++ lit "-" ++ padded 2 d.date.day ++
    lit "T" ++ padded 2 (d.time.val / 3600000000) ++ lit ":" ++
    padded 2 (d.time.val / 60000000 % 60) ++ lit ":" ++
    padded 2 (d.time.val / 1000000 % 60) ++ lit "." ++ padded 6 (d.time.val % 1000000)

/-- A UTC timestamp stays the same in UTC. -/
@[simp]
theorem toUtc_utc (date : Date) (time : Fin DAY) :
    toUtc ⟨date, time, some .utc⟩ .utc = some ⟨date, time, some .utc⟩ := by
  have bound := time.isLt
  have notBefore : ¬ ((time.val : Int) - Offset.utc.micros < 0) := by
    simp [Offset.utc]
  have notAfter : ¬ ((DAY : Int) ≤ (time.val : Int) - Offset.utc.micros) := by
    simp only [Offset.utc, sub_zero, not_le]
    exact_mod_cast bound
  simp only [toUtc, notBefore, notAfter, dif_neg, not_false_eq_true]
  simp [Offset.utc]

@[simp]
theorem length_isoText (d : DateTime) : d.isoText.length = 26 := by
  simp [isoText, lit_eq]

theorem isoText_chars {d : DateTime} {c : CodePoint} (member : c ∈ d.isoText) :
    isDigit c = true ∨ c ∈ lit "-T:." := by
  have mark : ∀ text ∈ ["-", "T", ":", "."], lit text ⊆ lit "-T:." := by
    simp [lit_eq]
  simp only [isoText, List.mem_append] at member
  rcases member with ((((((((((((digits | sep) | digits) | sep) | digits) | sep) | digits) | sep) |
    digits) | sep) | digits) | sep) | digits)
  all_goals first
    | exact .inl (isDigit_of_mem_padded digits)
    | exact .inr (mark _ (by simp) sep)

/-! ## Reading a UTC timestamp back -/

/-- Read the fields of a timestamp text with the offset of UTC at their fixed places. -/
def ofIsoText (text : Str) : Option DateTime :=
  let field (start width : Nat) : Nat := digitsValue ((text.drop start).take width)
  let time := ((field 11 2 * 60 + field 14 2) * 60 + field 17 2) * 1000000 + field 20 6
  if dateValid : (1 ≤ field 0 4 ∧ field 0 4 ≤ 9999) ∧ (1 ≤ field 5 2 ∧ field 5 2 ≤ 12) ∧
      1 ≤ field 8 2 ∧ field 8 2 ≤ daysInMonth (field 0 4) (field 5 2) then
    if timeValid : time < DAY then
      some ⟨⟨field 0 4, field 5 2, field 8 2, dateValid⟩, ⟨time, timeValid⟩, some .utc⟩
    else none
  else none

theorem ofIsoText_isoText (d : DateTime) (rest : Str) :
    ofIsoText (d.isoText ++ rest) = some ⟨d.date, d.time, some .utc⟩ := by
  obtain ⟨⟨year, month, day, valid⟩, ⟨time, timeBound⟩, offset⟩ := d
  have dayBound := daysInMonth_le year month
  have inDay : time < 86400000000 := timeBound
  have yearEq : digitsValue (padded 4 year) = year := digitsValue_padded (by omega)
  have monthEq : digitsValue (padded 2 month) = month := digitsValue_padded (by omega)
  have dayEq : digitsValue (padded 2 day) = day := digitsValue_padded (by omega)
  have hourEq : digitsValue (padded 2 (time / 3600000000)) = time / 3600000000 :=
    digitsValue_padded (by omega)
  have minuteEq : digitsValue (padded 2 (time / 60000000 % 60)) = time / 60000000 % 60 :=
    digitsValue_padded (by omega)
  have secondEq : digitsValue (padded 2 (time / 1000000 % 60)) = time / 1000000 % 60 :=
    digitsValue_padded (by omega)
  have microEq : digitsValue (padded 6 (time % 1000000)) = time % 1000000 :=
    digitsValue_padded (by omega)
  have whole : ((time / 3600000000 * 60 + time / 60000000 % 60) * 60 + time / 1000000 % 60) *
      1000000 + time % 1000000 = time := by omega
  simp only [ofIsoText, isoText, lit_eq, List.append_assoc]
  simp [List.drop_append, yearEq, monthEq, dayEq, hourEq, minuteEq, secondEq,
    microEq, whole, valid, timeBound]

end DateTime

end Python
