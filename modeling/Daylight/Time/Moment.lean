import Daylight.Time.Atlas
import Daylight.Failure

/-!
# Moments

A moment is a reading of a wall clock, exact to the microsecond, with the zone of the clock when it
is known. With a zone it stands for an instant; without one it is only a reading.

Moments of one zone are ordered by their readings, whatever their folds and offsets, and moments of
different zones by their instants. A moment with a zone cannot be ordered with one that has none. A
conversion between zones keeps the instant; it fails when the reading in universal time or in the
new zone leaves the calendar, and leaves a moment that is in the named zone already as it is, even
if its reading lies in a gap. A reading without a zone is converted as one of the system's clock; to
find out whether that clock shows it twice, the day on the side of its fold is looked at, which has
to lie in the calendar, too.

Milliseconds count from 1970-01-01T00:00 of universal time and are rounded down.
-/

namespace Daylight

/-- A wall clock reading, in a zone or without one. -/
structure Moment where
  /-- The reading in microseconds from 1970-01-01T00:00. -/
  wall : Int
  /-- The zone of the clock. -/
  zone : Option Zone
  /-- Which of the two sides of a change the reading means. -/
  fold : Bool
  deriving DecidableEq, Repr

namespace Moment

/-- The first reading of the calendar. -/
def lowest : Int := Day.first.start

/-- The last reading of the calendar. -/
def highest : Int := Day.last.start + dayLength - 1

/-- Whether a reading lies in the calendar. -/
def inCalendar (wall : Int) : Bool := lowest ≤ wall && wall ≤ highest

/-- A reading that has to lie in the calendar. -/
def checked (wall : Int) : Except Failure Int :=
  if inCalendar wall then .ok wall else .error .outOfRange

/-- The moment of universal time at an instant. -/
def ofInstant (instant : Int) : Moment := ⟨instant, some .utc, false⟩

/-- The day of the reading. -/
def day (m : Moment) : Day := .ofWall m.wall

/-- The offset of the clock. -/
def offset? (m : Moment) : Option Int := m.zone.map (·.offsetAtWall m.fold m.wall)

/-- The instant that a moment stands for. -/
def instant? (m : Moment) : Option Int := m.offset?.map (m.wall - ·)

/-- The offset of the system's clock at a reading. -/
def systemOffset (m : Moment) : Except Failure Int :=
  let neighbour := if m.fold then m.wall + dayLength else m.wall - dayLength
  if neighbour < lowest then .error (.noYear (firstYear - 1))
  else if highest < neighbour then .error (.noYear (lastYear + 1))
  else .ok (Zone.system.offsetAtWall m.fold m.wall)

/-- The same instant in another zone. A reading without a zone is one of the system's clock. -/
def inZone (m : Moment) (zone : Zone) : Except Failure Moment :=
  if zone.isNamed ∧ m.zone = some zone then .ok m
  else do
    let offset ← match m.offset? with
      | some offset => .ok offset
      | none => m.systemOffset
    let instant ← checked (m.wall - offset)
    let wall ← checked (instant + zone.offsetAtInstant instant)
    return ⟨wall, some zone, zone.repeats instant⟩

/-- The same instant in universal time. A reading without a zone is one of universal time. -/
def toUtc (m : Moment) : Except Failure Moment :=
  match m.zone with
  | none => .ok { m with zone := some .utc }
  | some _ => m.inZone .utc

/-- Milliseconds of a moment that has a zone. -/
def toMillis (m : Moment) : Except Failure Int :=
  match m.zone with
  | none => .error (.naive "dt")
  | some _ => do
    let utc ← m.inZone .utc
    return utc.wall / 1000

/-- The milliseconds of a day. -/
def millisOfDay : Int := 86400000

/-- The moment of universal time at a count of milliseconds. The count of days has to fit into a
machine word and then into a duration before the calendar comes into question. -/
def ofMillis (millis : Int) : Except Failure Moment :=
  let days := millis / millisOfDay
  if days < -2147483648 ∨ 2147483647 < days then .error .wideCount
  else if days < -999999999 ∨ 999999999 < days then .error (.dayCount days)
  else do
    let wall ← checked (millis * 1000)
    return .ofInstant wall

/-- Whether a moment is before another one. -/
def before (a b : Moment) : Except Failure Bool :=
  if a.zone = b.zone then .ok (a.wall < b.wall)
  else match a.instant?, b.instant? with
    | some a, some b => .ok (a < b)
    | _, _ => .error .mixedComparison

/-- The time from one moment to another. -/
def since (a b : Moment) : Except Failure Int :=
  if a.zone = b.zone then .ok (a.wall - b.wall)
  else match a.instant?, b.instant? with
    | some a, some b => .ok (a - b)
    | _, _ => .error .mixedDifference

/-- Whether the offset of a reading depends on its fold. -/
def isDoubtful (m : Moment) : Bool := { m with fold := !m.fold }.offset? != m.offset?

/-- Whether two moments are equal: in one zone by their readings, in two zones by their instants,
unless the offset of one of them is doubtful. -/
def same (a b : Moment) : Bool :=
  if a.zone = b.zone then a.wall = b.wall
  else match a.instant?, b.instant? with
    | some x, some y => x = y && !a.isDoubtful && !b.isDoubtful
    | _, _ => false

/-- The day on which a moment lies in a zone. -/
def localDay (now : Moment) (zone : Zone) : Except Failure Day :=
  match now.zone with
  | none => .error (.naive "now")
  | some _ => do
    let moved ← now.inZone zone
    return moved.day

end Moment

/-- The day that is `n` days later, if the calendar has it. -/
def Day.shift (d : Day) (n : Int) : Except Failure Day :=
  if (d.plus n).inCalendar then .ok (d.plus n) else .error .outOfRange

/-- The days before, at and after a moment in a zone. -/
structure AdjacentDays where
  /-- The day before. -/
  yesterday : Day
  /-- The day itself. -/
  today : Day
  /-- The day after. -/
  tomorrow : Day
  deriving DecidableEq, Repr

/-- The three days around a moment in a zone. -/
def Moment.adjacentDays (now : Moment) (zone : Zone) : Except Failure AdjacentDays := do
  let today ← now.localDay zone
  let yesterday ← today.shift (-1)
  let tomorrow ← today.shift 1
  return ⟨yesterday, today, tomorrow⟩

/-- The zone of a name; without a name, or with an empty one, that of the system. -/
def Zone.resolve (name : Option String) : Except Failure Zone :=
  match name with
  | none => .ok .system
  | some name =>
    if name = "" then .ok .system
    else match Atlas.find? name with
      | some r => .ok (.region r)
      | none => .error (.unknownZone name)

end Daylight
