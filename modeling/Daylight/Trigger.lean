import Daylight.Failure

/-!
# Triggers

What makes the boundaries be evaluated again.
-/

namespace Daylight

/-- The reasons for an evaluation. -/
inductive Trigger where
  /-- The service has started. -/
  | startup
  /-- There is a new fix. -/
  | locationChanged
  /-- The wall clock or the time zone was changed. -/
  | timeChanged
  /-- The wake-up has come. -/
  | alarm
  deriving DecidableEq, Repr

namespace Trigger

/-- All triggers. -/
def all : List Trigger := [startup, locationChanged, timeChanged, alarm]

/-- The name of a trigger. -/
def text : Trigger → String
  | startup => "startup"
  | locationChanged => "location_changed"
  | timeChanged => "time_changed"
  | alarm => "alarm"

/-- The trigger of a name. -/
def ofText (name : String) : Except Failure Trigger :=
  match all.find? fun trigger => trigger.text = name with
  | some trigger => .ok trigger
  | none => .error (.unknownTrigger name)

end Trigger

end Daylight
