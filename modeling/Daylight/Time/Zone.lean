import Daylight.Time.Day

/-!
# Time zones

A zone says by how much its wall clocks are ahead of universal time. All times here are whole
microseconds: instants from 1970-01-01T00:00 of universal time, wall clock readings from the same
reading of a wall clock.

A region's offset changes at known instants. Behind the last of them a yearly rule may go on, with
one change in and one change out of summer time every year. On the wall clock a change happens at
two readings, the one that it leaves and the one that it enters. Between them lies a gap when the
clock is put forward, and an hour that comes twice when it is put back. The fold of a reading says
which side is meant: without fold a change has happened from the later of its two readings on, with
fold from the earlier one on. So a reading that comes twice means the earlier instant without fold
and the later one with fold, and one in a gap has the offset from before the gap without fold and
from after it with fold.

A region's clock is asked to the second: what lies behind the second does not count.
-/

namespace Daylight

/-- The microseconds of a second. -/
def second : Int := 1000000

/-- The microseconds of a day. -/
def dayLength : Int := 86400 * second

/-- The start of the second that a time lies in. -/
def startOfSecond (time : Int) : Int := time / second * second

/-- The wall clock reading at the start of a day. -/
def Day.start (d : Day) : Int := d.number * dayLength

/-- The day of a wall clock reading. -/
def Day.ofWall (wall : Int) : Day := ⟨wall / dayLength⟩

/-- The day of the week of a month on which a yearly change falls, and its time of day. -/
structure ChangeRule where
  /-- The month. -/
  month : Int
  /-- The week of the month; the fifth is the last. -/
  week : Int
  /-- The day of the week, from Sunday as 0. -/
  weekday : Int
  /-- The seconds from midnight, which may be negative or reach into the next day. -/
  time : Int
  deriving DecidableEq, Repr

/-- The wall clock reading at which the change of a year falls, by the clock before it. -/
def ChangeRule.wall (r : ChangeRule) (year : Int) : Int :=
  let monthStart := Day.ofCivil ⟨year, r.month, 1⟩
  let firstOne := (r.weekday - (monthStart.weekday + 1)) % 7
  let day := firstOne + 7 * (r.week - 1)
  let day := if monthLength year r.month ≤ day then day - 7 else day
  (monthStart.plus day).start + r.time * second

/-- A change of offset. -/
structure Change where
  /-- The instant of the change. -/
  instant : Int
  /-- The offset before it. -/
  before : Int
  /-- The offset from it on. -/
  after : Int
  deriving DecidableEq, Repr

/-- The wall clock reading from which on a change has happened. -/
def Change.reading (fold : Bool) (c : Change) : Int :=
  c.instant + if fold then min c.before c.after else max c.before c.after

/-- The offset at a time, from the offset at the start and the changes in their order; `key` says
from which time on a change has happened. -/
def offsetAt (key : Change → Int) (time : Int) : Int → List Change → Int
  | offset, [] => offset
  | offset, c :: rest => if key c ≤ time then offsetAt key time c.after rest else offset

/-- Whether a number of seconds is an offset: every clock is less than a day away from universal
time. -/
abbrev IsOffset (seconds : Int) : Prop := -86400 < seconds ∧ seconds < 86400

/-- Summer time with its yearly changes. Offsets are in seconds. -/
structure Yearly where
  /-- The offset outside summer time. -/
  standard : Int
  /-- The offset during summer time, which may be the smaller one. -/
  summer : Int
  /-- The change into summer time. -/
  begins : ChangeRule
  /-- The change out of summer time. -/
  ends : ChangeRule
  deriving DecidableEq, Repr

/-- The two changes of a year, in their order. -/
def Yearly.changes (y : Yearly) (year : Int) : List Change :=
  let standard := y.standard * second
  let summer := y.summer * second
  let begins : Change := ⟨y.begins.wall year - standard, standard, summer⟩
  let ends : Change := ⟨y.ends.wall year - summer, summer, standard⟩
  if begins.instant < ends.instant then [begins, ends] else [ends, begins]

/-- A named zone. -/
structure Region where
  /-- The name. -/
  name : String
  /-- The offset before all recorded changes, in seconds. -/
  before : Int
  /-- The recorded changes in their order: seconds of universal time, and the new offset. -/
  recorded : List (Int × Int)
  /-- The rule behind the recorded changes. -/
  yearly : Option Yearly
  /-- All offsets are less than a day. -/
  isBounded : IsOffset before ∧ (∀ change ∈ recorded, IsOffset change.2) ∧
    ∀ rule ∈ yearly, IsOffset rule.standard ∧ IsOffset rule.summer := by decide
  deriving DecidableEq, Repr

/-- Recorded changes with the offset before each. -/
def chain (before : Int) : List (Int × Int) → List Change
  | [] => []
  | (instant, after) :: rest => ⟨instant * second, before * second, after * second⟩ ::
      chain after rest

/-- The recorded changes of a region. -/
def Region.changes (r : Region) : List Change := chain r.before r.recorded

/-- The changes that govern a time: those of its year by the yearly rule when all recorded changes
have happened before, else the recorded ones. -/
def Region.governing (r : Region) (key : Change → Int) (time : Int) : List Change :=
  match r.yearly with
  | some yearly =>
    if r.changes.all fun c => key c < time then yearly.changes (Day.ofWall time).civil.year
    else r.changes
  | none => r.changes

/-- The offset of a region at a time. -/
def Region.offsetAt (r : Region) (key : Change → Int) (time : Int) : Int :=
  let time := startOfSecond time
  let changes := r.governing key time
  Daylight.offsetAt key time ((changes.head?.map (·.before)).getD (r.before * second)) changes

/-- Whether the wall clock shows its reading at an instant for the second time. -/
def Region.repeats (r : Region) (instant : Int) : Bool :=
  let instant := startOfSecond instant
  (r.governing (·.instant) instant).any fun c =>
    c.instant ≤ instant && instant < c.instant + (c.before - c.after)

/-- What a zone with one offset was made for. Clocks in such zones show the same readings; only a
listing tells them apart. -/
inductive Zone.Purpose where
  /-- It is an offset, and nothing else. -/
  | offset
  /-- It is the zone of the system. -/
  | system
  /-- It is the offset of a timestamp in a request. -/
  | request
  deriving DecidableEq, Repr

/-- A time zone. -/
inductive Zone where
  /-- A zone with one offset, in microseconds, and what it was made for. -/
  | fixed (offset : Int) (purpose : Zone.Purpose)
  /-- A named zone. -/
  | region (r : Region)
  deriving DecidableEq, Repr

namespace Zone

/-- Universal time. -/
def utc : Zone := fixed 0 .offset

/-- The zone of the system when it names none. -/
def system : Zone := fixed 0 .system

/-- Whether a zone has a name. -/
def isNamed : Zone → Bool
  | fixed .. => false
  | region _ => true

/-- The offset at an instant. -/
def offsetAtInstant (instant : Int) : Zone → Int
  | fixed offset _ => offset
  | region r => r.offsetAt (·.instant) instant

/-- The offset at a wall clock reading. -/
def offsetAtWall (fold : Bool) (wall : Int) : Zone → Int
  | fixed offset _ => offset
  | region r => r.offsetAt (·.reading fold) wall

/-- Whether the wall clock shows its reading at an instant for the second time. -/
def repeats (instant : Int) : Zone → Bool
  | fixed .. => false
  | region r => r.repeats instant

end Zone

end Daylight
