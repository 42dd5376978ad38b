import Daylight.Config
import Daylight.Service

/-!
# Setting up a service

What a configuration stands for: a source of fixes, a settings mirror, and a service with both. A
static location is installed as a fix of its own; any other mode takes fixes as they are fed in. A
path asks for a database, and without one the flag is kept in memory.
-/

namespace Daylight

namespace Config

/-- The path of a database that is no file. -/
def memoryPath : String := ":memory:"

/-- The source of fixes. -/
def source (c : Config) (installed : Moment) : Except Failure Source :=
  if c.mode = staticMode then
    match c.latitude, c.longitude with
    | some latitude, some longitude => Source.ofCoordinates latitude longitude installed
    | _, _ => .error .missingCoordinates
  else .ok (.feed .empty)

/-- The settings mirror. Files are out of reach here: only a database in memory can be opened. -/
def mirror (c : Config) : Except Failure Mirror :=
  match c.settingsPath.filter (· ≠ "") with
  | none => .ok (.memory .empty false)
  | some path => if path = memoryPath then .ok (.table []) else .error .unopenableDatabase

/-- The tracker with all of its parts, at rest. The source is made first, then the mirror. -/
def tracker (c : Config) (now : Moment) : Except Failure Tracker := do
  let source ← c.source now
  let mirror ← c.mirror
  let clock : Clock := ⟨now, Zone.resolve c.timezone⟩
  return .ofParts clock Solar.almanac source (.timers .empty) mirror

end Config

/-- A reaction of listeners that do nothing. -/
def Reaction.idle {ω : Type} : Reaction ω := fun b _ _ => (b, none)

namespace Service

/-- The service of a tracker, with contexts for its listeners. -/
def ofTracker (contexts : List (ContextId × Context)) (t : Tracker) : Service :=
  Board.ofOwner contexts t

/-- The service of a configuration, with no listeners. -/
def ofConfig (c : Config) (now : Moment) : Except Failure Service := do
  let tracker ← c.tracker now
  return ofTracker [] tracker

end Service

end Daylight
