import Daylight.Text.Digit

/-!
# Calendar days

A day is a count of days from 1970-01-01, so that steps from day to day are steps of a number. Its
date in the Gregorian calendar is computed in cycles of four hundred years that begin on the first
of March: a leap day then ends its year, and the lengths of the months follow one linear rule. The
calendar has the years 1 to 9999.
-/

namespace Daylight

/-- A calendar day, counted from 1970-01-01. -/
structure Day where
  /-- The number of days since 1970-01-01. -/
  number : Int
  deriving DecidableEq, Repr, Inhabited

/-- A date of the Gregorian calendar. -/
structure Civil where
  /-- The year. -/
  year : Int
  /-- The month, from 1 to 12. -/
  month : Int
  /-- The day of the month, from 1. -/
  day : Int
  deriving DecidableEq, Repr

/-- Whether a year has a leap day. -/
def isLeap (year : Int) : Bool := year % 4 = 0 && (year % 100 ≠ 0 || year % 400 = 0)

/-- The number of days of a month. -/
def monthLength (year month : Int) : Int :=
  if month = 2 then (if isLeap year then 29 else 28)
  else if month = 4 ∨ month = 6 ∨ month = 9 ∨ month = 11 then 30
  else 31

/-- The first year of the calendar. -/
def firstYear : Int := 1

/-- The last year of the calendar. -/
def lastYear : Int := 9999

/-- Whether a date is one of the calendar's. -/
def Civil.isValid (c : Civil) : Bool :=
  firstYear ≤ c.year && c.year ≤ lastYear && 1 ≤ c.month && c.month ≤ 12 && 1 ≤ c.day &&
    c.day ≤ monthLength c.year c.month

namespace Day

/-- The first day of the calendar, 0001-01-01. -/
def first : Day := ⟨-719162⟩

/-- The last day of the calendar, 9999-12-31. -/
def last : Day := ⟨2932896⟩

/-- The day of a date. -/
def ofCivil (c : Civil) : Day :=
  let year := if c.month ≤ 2 then c.year - 1 else c.year
  let month := if c.month ≤ 2 then c.month + 9 else c.month - 3
  let yearOfCycle := year % 400
  let dayOfYear := (153 * month + 2) / 5 + c.day - 1
  let dayOfCycle := yearOfCycle * 365 + yearOfCycle / 4 - yearOfCycle / 100 + dayOfYear
  ⟨year / 400 * 146097 + dayOfCycle - 719468⟩

/-- The date of a day. -/
def civil (d : Day) : Civil :=
  let shifted := d.number + 719468
  let dayOfCycle := shifted % 146097
  let yearOfCycle :=
    (dayOfCycle - dayOfCycle / 1460 + dayOfCycle / 36524 - dayOfCycle / 146096) / 365
  let dayOfYear := dayOfCycle - (365 * yearOfCycle + yearOfCycle / 4 - yearOfCycle / 100)
  let month := (5 * dayOfYear + 2) / 153
  let day := dayOfYear - (153 * month + 2) / 5 + 1
  let month := if month < 10 then month + 3 else month - 9
  let year := yearOfCycle + shifted / 146097 * 400
  ⟨if month ≤ 2 then year + 1 else year, month, day⟩

/-- The day of a date, if the calendar has the date. -/
def ofCivil? (c : Civil) : Option Day := if c.isValid then some (ofCivil c) else none

/-- Whether a day lies in the calendar. -/
def inCalendar (d : Day) : Bool := first.number ≤ d.number && d.number ≤ last.number

/-- The day that is `n` days later. -/
def plus (d : Day) (n : Int) : Day := ⟨d.number + n⟩

/-- The day of the week, from Monday as 0. -/
def weekday (d : Day) : Int := (d.number + 3) % 7

/-- The Monday of the first week of a year, which is the week with the year's first Thursday. -/
def firstMonday (year : Int) : Day :=
  let newYear := ofCivil ⟨year, 1, 1⟩
  let monday := newYear.plus (-newYear.weekday)
  if 3 < newYear.weekday then monday.plus 7 else monday

/-- The number of weeks of a year. -/
def weeksIn (year : Int) : Int :=
  let weekday := (ofCivil ⟨year, 1, 1⟩).weekday
  if weekday = 3 ∨ (weekday = 2 ∧ isLeap year) then 53 else 52

/-- The day of a year, a week of the year and a day of the week from 1, if they exist. -/
def ofWeek? (year week day : Int) : Option Day :=
  if firstYear ≤ year ∧ year ≤ lastYear ∧ 1 ≤ week ∧ week ≤ weeksIn year ∧ 1 ≤ day ∧ day ≤ 7 then
    let found := (firstMonday year).plus ((week - 1) * 7 + (day - 1))
    if found.inCalendar then some found else none
  else none

/-- The date with four digits for the year and two each for the month and the day. -/
def chars (d : Day) : List Char :=
  let c := d.civil
  Text.paddedDigits 4 c.year.toNat ++ '-' :: Text.paddedDigits 2 c.month.toNat ++
    '-' :: Text.paddedDigits 2 c.day.toNat

/-- The date as text. -/
def text (d : Day) : String := String.ofList d.chars

/-- Reads a date with two hyphens. -/
def read? (cs : List Char) : Option Day :=
  match cs with
  | [a, b, c, d, '-', e, f, '-', g, h] => do
    ofCivil? ⟨← Text.readDigits 0 [a, b, c, d], ← Text.readDigits 0 [e, f],
      ← Text.readDigits 0 [g, h]⟩
  | _ => none

end Day

end Daylight
