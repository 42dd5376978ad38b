import Daylight.Alarm
import Daylight.Board
import Daylight.Config
import Daylight.Feed
import Daylight.Settings
import Daylight.Solar
import Daylight.Trigger

/-!
# The tracker

The tracker decides when the boundaries are evaluated. Fixes, changes of the clock, the wake-up and
the start all put a trigger on one queue. The state here is all that lasts between two triggers: the
clock, where locations come from, the last good fix, the queue, the alarm and the settings mirror.
-/

namespace Daylight

/-- The clock that is read at an evaluation. -/
structure Clock where
  /-- What it shows. -/
  now : Moment
  /-- The zone of its calendar days, or why there is none. -/
  zone : Except Failure Zone

/-- Where locations come from. The only callback of the tracker is the one that takes a fix. -/
inductive Source where
  /-- Fixes are fed in. -/
  | feed (f : Feed Unit)
  /-- There is one location, which never changes. -/
  | fixed (location : Location)
  /-- A device has a last fix of its own, and a number of one-shot requests. -/
  | device (fix : Option Location) (waiting : Nat)

namespace Source

/-- The provider of a location that never changes. -/
def fixedProvider : String := "static"

/-- The source with one location; it knows when it was installed. -/
def ofCoordinates (latitude longitude : Float) (installed : Moment) : Except Failure Source :=
  fixed <$> Location.make latitude longitude (some 0.0) (some installed) fixedProvider

/-- The last fix. -/
def lastFix : Source → Option Location
  | feed f => f.last
  | fixed location => some location
  | device fix _ => fix

/-- Asks for every fix. A location that never changes has none to come. -/
def requestUpdates : Source → Source
  | feed f => feed (f.requestUpdates ())
  | source => source

end Source

/-- The wake-up of the tracker: remembered, or with timers. -/
inductive Alarms where
  /-- The last wake-up that was asked for. -/
  | manual (pending : Option Moment)
  /-- A clock with timers. -/
  | timers (clock : AlarmClock Unit)

namespace Alarms

/-- The pending wake-up. -/
def pending? : Alarms → Option Moment
  | manual pending => pending
  | timers clock => clock.pending?

/-- Drops the pending wake-up. -/
def cancel : Alarms → Alarms
  | manual _ => manual none
  | timers clock => timers clock.cancel

end Alarms

/-- Where the flag is mirrored. -/
inductive Mirror where
  /-- Nowhere. -/
  | none
  /-- In memory, where writing may break down. -/
  | memory (mirror : MemoryMirror) (isDown : Bool)
  /-- In a table. -/
  | table (rows : SettingsTable)

namespace Mirror

/-- Writes the flag. -/
def set (m : Mirror) (flag : Bool) : Except Failure Mirror :=
  match m with
  | none => .ok none
  | memory mirror isDown =>
    if isDown then .error .mirrorDown else .ok (memory (mirror.set flag) false)
  | table rows => .ok (table (rows.setFlag flag))

/-- Reads the flag. -/
def flag? : Mirror → Option Bool
  | none => .none
  | memory mirror _ => mirror.value
  | table rows => rows.flag?

/-- How often the flag was written, where that is counted. -/
def writes? : Mirror → Option Nat
  | memory mirror _ => some mirror.writes
  | _ => .none

end Mirror

/-- What stands on the queue. -/
inductive Signal where
  /-- A request to evaluate. -/
  | trigger (t : Trigger)
  /-- The request to end the loop. -/
  | stop
  deriving DecidableEq, Repr

/-- The tracker between two steps. -/
structure Tracker where
  /-- The clock. -/
  clock : Clock
  /-- What knows the events of all days. -/
  almanac : Almanac
  /-- Where locations come from. -/
  source : Source
  /-- The wake-up. -/
  alarms : Alarms
  /-- Where the flag is mirrored. -/
  mirror : Mirror
  /-- The last fix that was taken. -/
  cache : Option Location
  /-- The queue, its front first. -/
  queue : List Signal
  /-- Whether the loop was started. -/
  isRunning : Bool
  /-- Whether stopping waits for the loop to end; else it gives up. -/
  waits : Bool
  /-- The shared worker, if there is one now. -/
  shared : Option Nat
  /-- How many shared workers there were. -/
  sharedCount : Nat
  /-- The queries of all evaluations. -/
  asked : List Query

namespace Tracker

/-- A tracker at rest. -/
def ofParts (clock : Clock) (almanac : Almanac) (source : Source) (alarms : Alarms)
    (mirror : Mirror) : Tracker :=
  ⟨clock, almanac, source, alarms, mirror, none, [], false, true, none, 0, []⟩

/-- Whether a fix says where the device is. -/
def isGood (fix : Location) : Bool := !fix.isNullIsland

/-- The location of an evaluation: the last fix that was taken, or else the last one of the source,
unless that is null island. -/
def location? (t : Tracker) : Option Location :=
  match t.cache with
  | some location => some location
  | none => t.source.lastFix.filter isGood

/-- Puts a signal on the queue. -/
def enqueue (t : Tracker) (signal : Signal) : Tracker := { t with queue := t.queue ++ [signal] }

/-- Puts a trigger on the queue. -/
def submit (t : Tracker) (trigger : Trigger) : Tracker := t.enqueue (.trigger trigger)

/-- Takes a fix as the last one. -/
def remember (t : Tracker) (fix : Location) : Tracker := { t with cache := some fix }

end Tracker

end Daylight
