import Daylight.Decimal.Reader
import Daylight.Location
import Daylight.Time.Moment

/-!
# Configuration

The service is configured by a location mode, the coordinates of a static location, the name of a
time zone and the path of the settings database. The environment gives each of them in a variable;
blank coordinates and empty names count as not given.
-/

namespace Daylight

/-- The settings of one service. The mode is kept as it was given until it has been checked. -/
structure Config where
  /-- Where locations come from: `static` or `push`. -/
  mode : String
  /-- The latitude of a static location. -/
  latitude : Option Float
  /-- The longitude of a static location. -/
  longitude : Option Float
  /-- The name of the time zone. -/
  timezone : Option String
  /-- The path of the settings database. -/
  settingsPath : Option String
  deriving DecidableEq

namespace Config

/-- The mode of a fixed location. -/
def staticMode : String := "static"

/-- The mode of locations that are fed in. -/
def pushMode : String := "push"

/-- Checks the mode, then the coordinates that it needs, then the time zone. -/
def check (c : Config) : Except Failure Config :=
  if c.mode ≠ staticMode ∧ c.mode ≠ pushMode then .error .modeField
  else if c.mode = staticMode ∧ (c.latitude.isNone ∨ c.longitude.isNone) then
    .error .missingCoordinates
  else do
    let _ ← Zone.resolve c.timezone
    return c

/-- The variables of an environment with their values. -/
abbrev Environment := List (String × String)

/-- The mode that a variable names, in any case and with blanks around it; nothing names `push`. The
letters of both words have no other capitals than those of ASCII. -/
def readMode (value : Option String) : Except Failure String :=
  let value := value.getD ""
  let given := if value = "" then pushMode else value
  let word := String.ofList ((Text.trimWhere Text.isBlank given.toList).map Char.toLower)
  if word = staticMode ∨ word = pushMode then .ok word else .error .modeVariable

/-- The number that a variable holds. -/
def readNumber (env : Environment) (name : String) : Except Failure (Option Float) :=
  match env.lookup name with
  | none => .ok none
  | some value =>
    if Text.trim value = "" then .ok none
    else match Decimal.readGrouped value with
      | some x => .ok (some x)
      | none => .error (.notNumber name value)

/-- The text that a variable holds, if it is not empty. -/
def readText (env : Environment) (name : String) : Option String :=
  (env.lookup name).filter (· ≠ "")

/-- The configuration of an environment. -/
def ofEnvironment (env : Environment) : Except Failure Config := do
  let mode ← readMode (env.lookup "TWILIGHT_LOCATION_MODE")
  let latitude ← readNumber env "TWILIGHT_LATITUDE"
  let longitude ← readNumber env "TWILIGHT_LONGITUDE"
  check ⟨mode, latitude, longitude, readText env "TWILIGHT_TIMEZONE",
    readText env "TWILIGHT_SETTINGS_PATH"⟩

end Config

end Daylight
