import Daylight.Time.Day

/-!
# Sun events

Every solar day has a sunrise and a sunset. A query names one event of one calendar day; an absence
says why a query has no answer.
-/

namespace Daylight

/-- The two events of a day. -/
inductive Event where
  /-- The sun comes up. -/
  | sunrise
  /-- The sun goes down. -/
  | sunset
  deriving DecidableEq, Repr

/-- The name of an event. -/
def Event.text : Event → String
  | .sunrise => "sunrise"
  | .sunset => "sunset"

/-- The question for one event of one calendar day. -/
structure Query where
  /-- The event asked for. -/
  event : Event
  /-- The calendar day on which it is to lie. -/
  day : Day
  deriving DecidableEq, Repr

/-- A query as text. -/
def Query.text (q : Query) : String := q.event.text ++ ":" ++ q.day.text

/-- Why there is no such event. -/
inductive Absence where
  /-- The sun stays above the horizon. -/
  | alwaysAbove
  /-- The sun stays below the horizon. -/
  | alwaysBelow
  /-- The event exists, but on the calendar days before and after. -/
  | otherDay (event : Event)
  deriving DecidableEq, Repr

/-- The reason as text. -/
def Absence.text : Absence → String
  | .alwaysAbove => "Sun is always above the horizon on this day, at this location."
  | .alwaysBelow => "Sun is always below the horizon on this day, at this location."
  | .otherDay event => "Unable to find a " ++ event.text ++ " time on the date specified"

end Daylight
