import MediaWatch.Text.Numeral

/-!
# Dates and times

`Date` is a day of the years 1 to 9999; `Date.ofParts?` builds one from any three integers. `Moment` is a date with a
time of day and, if it has one, an offset from universal time; `Moment.ofSeconds?` places a count of seconds since
1970. Both are written with `text`: `2013-06-02`, `2024-01-02T03:04:05.500000+01:00`.
-/

namespace MediaWatch

namespace Calendar

/-- Leap years: every fourth, of the centuries only every fourth. -/
def isLeap (year : Nat) : Bool := year % 4 == 0 && (year % 100 != 0 || year % 400 == 0)

/-- The number of days in a month; `0` for no month. -/
def daysIn (year month : Nat) : Nat :=
  if month = 2 then (if isLeap year then 29 else 28)
  else if month = 4 ∨ month = 6 ∨ month = 9 ∨ month = 11 then 30
  else if 1 ≤ month ∧ month ≤ 12 then 31
  else 0

/-- The days of the years 1 to 9999. -/
def isDay (year month day : Nat) : Bool :=
  decide (1 ≤ year ∧ year ≤ 9999 ∧ 1 ≤ month ∧ month ≤ 12 ∧ 1 ≤ day ∧ day ≤ daysIn year month)

/-- `n` with at least `width` digits. -/
def padded (width n : Nat) : String :=
  let digits := toString n
  Notation.zeros (width - digits.length) ++ digits

end Calendar

/-! ## Dates -/

/-- A day of the calendar. -/
structure Date where
  year : Nat
  month : Nat
  day : Nat
  isDay : Calendar.isDay year month day = true
  deriving DecidableEq

namespace Date

/-- The day with the given year, month and day, if there is one. -/
def ofParts? (year month day : Int) : Option Date :=
  if h : 0 ≤ year ∧ 0 ≤ month ∧ 0 ≤ day ∧ Calendar.isDay year.toNat month.toNat day.toNat = true then
    some ⟨year.toNat, month.toNat, day.toNat, h.2.2.2⟩
  else none

theorem ofParts?_self (d : Date) : ofParts? d.year d.month d.day = some d := by
  have h : (0 : Int) ≤ d.year ∧ (0 : Int) ≤ d.month ∧ (0 : Int) ≤ d.day ∧
      Calendar.isDay (d.year : Int).toNat (d.month : Int).toNat (d.day : Int).toNat = true :=
    ⟨Int.natCast_nonneg _, Int.natCast_nonneg _, Int.natCast_nonneg _, by simpa using d.isDay⟩
  simp only [ofParts?, h, dif_pos, and_self]
  rfl

/-- The date's text. -/
def text (d : Date) : String :=
  Calendar.padded 4 d.year ++ "-" ++ Calendar.padded 2 d.month ++ "-" ++ Calendar.padded 2 d.day

/-- The day that is `days` after 1970-01-01. Years are counted from March, so that the leap day ends them. -/
def ofDays? (days : Int) : Option Date :=
  let z := days + 719468
  let era := Int.fdiv z 146097
  let dayOfEra := Int.fmod z 146097
  let yearOfEra := (dayOfEra - dayOfEra / 1460 + dayOfEra / 36524 - dayOfEra / 146096) / 365
  let dayOfYear := dayOfEra - (365 * yearOfEra + yearOfEra / 4 - yearOfEra / 100)
  let shifted := (5 * dayOfYear + 2) / 153
  let day := dayOfYear - (153 * shifted + 2) / 5 + 1
  let month := if shifted < 10 then shifted + 3 else shifted - 9
  let year := yearOfEra + era * 400 + if month ≤ 2 then 1 else 0
  ofParts? year month day

end Date

/-! ## Moments -/

/-- A time of day, to the microsecond. -/
structure TimeOfDay where
  hour : Nat
  minute : Nat
  second : Nat
  microsecond : Nat
  deriving DecidableEq, Repr

/-- A date and time of day, with the offset from universal time in minutes when it is known. -/
structure Moment where
  date : Date
  time : TimeOfDay
  offset : Option Int
  deriving DecidableEq

namespace TimeOfDay

/-- The start of a day. -/
def midnight : TimeOfDay := ⟨0, 0, 0, 0⟩

/-- The time's text; microseconds are shown unless they are zero. -/
def text (t : TimeOfDay) : String :=
  Calendar.padded 2 t.hour ++ ":" ++ Calendar.padded 2 t.minute ++ ":" ++ Calendar.padded 2 t.second ++
    if t.microsecond = 0 then "" else "." ++ Calendar.padded 6 t.microsecond

end TimeOfDay

namespace Moment

/-- The text of an offset in minutes. -/
def offsetText (minutes : Int) : String :=
  (if minutes < 0 then "-" else "+") ++ Calendar.padded 2 (minutes.natAbs / 60) ++ ":" ++
    Calendar.padded 2 (minutes.natAbs % 60)

/-- The moment's text. -/
def text (m : Moment) : String :=
  m.date.text ++ "T" ++ m.time.text ++ (m.offset.map offsetText).getD ""

/-- The moment in universal time that lies `seconds` and `microseconds` after the start of 1970. -/
def ofSeconds? (seconds : Int) (microseconds : Nat) : Option Moment := do
  let total := seconds + (microseconds / 1000000 : Nat)
  let date ← Date.ofDays? (Int.fdiv total 86400)
  let inDay := (Int.fmod total 86400).toNat
  return ⟨date, ⟨inDay / 3600, inDay / 60 % 60, inDay % 60, microseconds % 1000000⟩, some 0⟩

end Moment

end MediaWatch
