import Daylight.Failure

/-!
# The log

What the service writes down about its work.
-/

namespace Daylight

/-- How serious an entry is. -/
inductive Level where
  /-- Ordinary work. -/
  | info
  /-- Something was left out. -/
  | warning
  /-- Something broke. -/
  | error
  deriving DecidableEq, Repr

namespace Level

/-- The name of a level. -/
def text : Level → String
  | info => "INFO"
  | warning => "WARNING"
  | error => "ERROR"

/-- The place of a level among all levels. -/
def rank : Level → Nat
  | info => 1
  | warning => 2
  | error => 3

end Level

/-- One entry of the log. -/
structure LogEntry where
  /-- How serious it is. -/
  level : Level
  /-- What it says. -/
  text : String
  /-- The failure that it reports. -/
  cause : Option Failure
  deriving DecidableEq, Repr

end Daylight
