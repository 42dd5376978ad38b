import Daylight.Event
import Daylight.Text.Quoted

/-!
# Failures

Every way in which an operation of this library can fail, named by its cause. A failure has a kind,
by which callers tell failures apart, and a message.
-/

namespace Daylight

/-- The kinds of failures. -/
inductive Failure.Kind where
  /-- A value is not acceptable. -/
  | value
  /-- A time leaves the calendar. -/
  | overflow
  /-- Two values cannot be combined. -/
  | type
  /-- An operation was refused or broke down. -/
  | runtime
  /-- The sun events of a day could not be determined. -/
  | calculation
  /-- An argument of the command line does not read. -/
  | argument
  /-- A database is used when it must not be. -/
  | misuse
  /-- A database cannot be reached. -/
  | operation
  deriving DecidableEq, Repr

/-- The causes of failure. -/
inductive Failure where
  /-- A moment without a zone has no place in time; the name says which moment. -/
  | naive (name : String)
  /-- A time leaves the calendar. -/
  | outOfRange
  /-- The calendar does not have this year. -/
  | noYear (year : Int)
  /-- A count of days is larger than any duration. -/
  | dayCount (days : Int)
  /-- A count of days is wider than a machine word. -/
  | wideCount
  /-- A moment without a zone is compared with one that has a zone. -/
  | mixedComparison
  /-- A moment without a zone is subtracted from one that has a zone, or the other way round. -/
  | mixedDifference
  /-- No time zone has this name. -/
  | unknownZone (name : String)
  /-- A latitude lies outside its bounds. -/
  | latitude
  /-- A longitude lies outside its bounds. -/
  | longitude
  /-- Four boundaries are not in their order. -/
  | boundaryOrder
  /-- No trigger has this name. -/
  | unknownTrigger (name : String)
  /-- A query has no answer; where the sun's course was computed, with the reason. -/
  | noEvent (query : Query) (absence : Option Absence)
  /-- The events around a day do not follow each other. -/
  | inconsistent (day : Day)
  /-- The environment asks for an unknown location mode. -/
  | modeVariable
  /-- A configuration holds an unknown location mode. -/
  | modeField
  /-- A static location lacks a coordinate. -/
  | missingCoordinates
  /-- A variable of the environment is not a number. -/
  | notNumber (name text : String)
  /-- The scheduler runs already. -/
  | alreadyStarted
  /-- A closed database is used. -/
  | closedDatabase
  /-- A database file cannot be opened. -/
  | unopenableDatabase
  /-- A whole number is too large for a column. -/
  | wideInteger
  /-- A delivery context takes no tasks. -/
  | contextRefused
  /-- A delivery context was shut down. -/
  | contextClosed
  /-- The settings cannot be written. -/
  | mirrorDown
  /-- A listener breaks down. -/
  | exploded (listener : String)
  /-- A text of the command line is not a date and time. -/
  | invalidMoment (text : String)
  /-- A number that is not finite would have to be written as JSON. -/
  | notFinite
  /-- A failure that a collaborator reports in its own words. -/
  | reported (kind : Failure.Kind) (text : String)
  deriving DecidableEq, Repr

namespace Failure

/-- The kind of a failure. -/
def kind : Failure → Kind
  | naive _ | unknownZone _ | latitude | longitude | boundaryOrder | unknownTrigger _ | modeVariable
  | modeField | missingCoordinates | notNumber _ _ | noYear _ | notFinite => .value
  | outOfRange | dayCount _ | wideCount | wideInteger => .overflow
  | mixedComparison | mixedDifference => .type
  | noEvent _ _ | inconsistent _ => .calculation
  | alreadyStarted | contextRefused | contextClosed | mirrorDown | exploded _ => .runtime
  | closedDatabase => .misuse
  | unopenableDatabase => .operation
  | invalidMoment _ => .argument
  | reported kind _ => kind

/-- What a failure says. -/
def message : Failure → String
  | naive name => name ++ " must be timezone-aware."
  | outOfRange => "date value out of range"
  | noYear year => "year " ++ toString year ++ " is out of range"
  | dayCount days => "days=" ++ toString days ++ "; must have magnitude <= 999999999"
  | wideCount => "Python int too large to convert to C int"
  | mixedComparison => "can't compare offset-naive and offset-aware datetimes"
  | mixedDifference => "can't subtract offset-naive and offset-aware datetimes"
  | unknownZone name => "unknown timezone: " ++ name
  | latitude => "latitude must be within [-90, 90]."
  | longitude => "longitude must be within [-180, 180]."
  | boundaryOrder => "twilight boundaries must satisfy " ++
      "previous_sunset < sunrise < sunset < next_sunrise."
  | unknownTrigger name => Text.quote name ++ " is not a valid Trigger"
  | noEvent query _ => "no " ++ query.event.text ++ " on " ++ query.day.text
  | inconsistent day => "inconsistent twilight boundaries for " ++ day.text
  | modeVariable => "TWILIGHT_LOCATION_MODE must be one of: static, push"
  | modeField => "location_mode must be one of: static, push"
  | missingCoordinates =>
    "TWILIGHT_LATITUDE and TWILIGHT_LONGITUDE are required for static location mode"
  | notNumber name text => name ++ " must be a number, got " ++ Text.quote text
  | alreadyStarted => "scheduler already started"
  | closedDatabase => "Cannot operate on a closed database."
  | unopenableDatabase => "unable to open database file"
  | wideInteger => "Python int too large to convert to SQLite INTEGER"
  | contextRefused => "context refused"
  | contextClosed => "cannot schedule new futures after shutdown"
  | mirrorDown => "mirror down"
  | exploded listener => listener ++ " exploded"
  | invalidMoment text => "invalid datetime: " ++ text
  | notFinite => "Out of range float values are not JSON compliant"
  | reported _ text => text

end Failure

end Daylight
