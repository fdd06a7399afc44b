import Chlom.Library.Js.Numerals

/-!
# Time values

A time value counts milliseconds from the start of 1970 in the proleptic Gregorian
calendar.  Its ISO text has fixed fields, with a sign and two more digits for years
outside 0 to 9999.
-/

namespace Js

/-! ## The calendar -/

structure CivilDate where
  year : Int
  month : Int
  day : Int
  deriving DecidableEq

/-- The number of a day, counted from 1 January 1970.  Years are counted from March, in
eras of 400. -/
def dayOfCivil (date : CivilDate) : Int :=
  let year := if date.month ≤ 2 then date.year - 1 else date.year
  let era := year / 400
  let yearOfEra := year - era * 400
  let month := if date.month ≤ 2 then date.month + 9 else date.month - 3
  let dayOfYear := (153 * month + 2) / 5 + date.day - 1
  era * 146097 + (yearOfEra * 365 + yearOfEra / 4 - yearOfEra / 100 + dayOfYear) - 719468

def civilOfDay (day : Int) : CivilDate :=
  let shifted := day + 719468
  let era := shifted / 146097
  let dayOfEra := shifted - era * 146097
  let yearOfEra := (dayOfEra - dayOfEra / 1460 + dayOfEra / 36524 - dayOfEra / 146096) / 365
  let dayOfYear := dayOfEra - (365 * yearOfEra + yearOfEra / 4 - yearOfEra / 100)
  let month := (5 * dayOfYear + 2) / 153
  { year := yearOfEra + era * 400 + (if month ≥ 10 then 1 else 0)
    month := if month < 10 then month + 3 else month - 9
    day := dayOfYear - (153 * month + 2) / 5 + 1 }

example : civilOfDay (dayOfCivil ⟨2024, 2, 29⟩) = ⟨2024, 2, 29⟩ := by decide

/-! ## ISO texts -/

/-- The last digits of a number, with zeros in front. -/
def padded : Nat → Nat → Str
  | 0, _ => []
  | width + 1, n => padded width (n / 10) ++ [unit (Nat.digitChar (n % 10))]

def MS_PER_DAY : Int := 86400000

def yearText (year : Int) : Str :=
  if 0 ≤ year ∧ year ≤ 9999 then padded 4 year.toNat
  else (if year < 0 then lit "-" else lit "+") ++ padded 6 year.natAbs

/-- `toISOString()` of a time value in range. -/
def isoText (time : Int) : Str :=
  let date := civilOfDay (time / MS_PER_DAY)
  let ms := (time % MS_PER_DAY).toNat
  yearText date.year ++ lit "-" ++ padded 2 date.month.toNat ++ lit "-" ++
    padded 2 date.day.toNat ++ lit "T" ++ padded 2 (ms / 3600000) ++ lit ":" ++
    padded 2 (ms / 60000 % 60) ++ lit ":" ++ padded 2 (ms / 1000 % 60) ++ lit "." ++
    padded 3 (ms % 1000) ++ lit "Z"

/-- The largest time value either way. -/
def MAX_TIME : Int := 8640000000000000

/-- A text that has a digit wherever the pattern has a `d` and agrees with it elsewhere. -/
def fits (pattern : Str) (s : Str) : Bool :=
  s.length == pattern.length &&
    (s.zip pattern).all fun (c, p) => if p = unit 'd' then isDigit c else decide (c = p)

def isoPattern : Str := lit "dddd-dd-ddTdd:dd:dd.dddZ"

/-- The number that some digits of a text spell. -/
def field (s : Str) (start width : Nat) : Nat := digitsValue ((s.drop start).take width)

/-- `Date.parse` of a text of the ISO pattern.  A day that its month does not have counts
on into the next month. -/
def dateParse (s : Str) : Option Int :=
  let month := field s 5 2
  let day := field s 8 2
  let hour := field s 11 2
  let minute := field s 14 2
  let second := field s 17 2
  let ms := field s 20 3
  if (1 ≤ month ∧ month ≤ 12) ∧ (1 ≤ day ∧ day ≤ 31) ∧ minute ≤ 59 ∧ second ≤ 59 ∧
      (hour ≤ 23 ∨ (hour = 24 ∧ minute = 0 ∧ second = 0 ∧ ms = 0)) then
    some ((dayOfCivil ⟨field s 0 4, month, 1⟩ + (day - 1)) * MS_PER_DAY +
      (hour * 3600000 + minute * 60000 + second * 1000 + ms))
  else none

example : (dateParse (lit "2026-09-20T12:00:00.000Z")).map isoText =
    some (lit "2026-09-20T12:00:00.000Z") := by decide

end Js
