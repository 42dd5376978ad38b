import Daylight.Boundaries
import Daylight.Location

/-!
# Evaluation

The boundaries around a moment, from a calculator that knows the sunrise and the sunset of every
calendar day. Everything is derived from the calendar day of the moment in the zone; nothing is kept
from one evaluation to the next.

The boundaries follow today's sunrise, not its date. Where today's sunset comes after it, the two
are the day, and yesterday's sunset is the one before. Where today's sunset comes first, as it does
far from the zone of the location, it belongs to the previous solar day: then tomorrow's sunset ends
the day. The sunrise after is tomorrow's, or the next one when tomorrow's does not come after the
sunset.

An evaluation asks one question after the other, and each answer decides what is asked next. It is
written once for every way of asking: as plain answers, or with the questions recorded.
-/

namespace Daylight

/-- What knows the events of all days: it answers with a moment, or says why there is none. -/
abbrev Calculator := Location → Query → Zone → Except Failure Moment

section

variable {m : Type → Type} [Monad m] [MonadExceptOf Failure m]

/-- A result that is known, in a computation that can fail. -/
def known {α : Type} : Except Failure α → m α
  | .ok a => pure a
  | .error e => throw e

/-- Boundaries from four moments. A moment without a zone, or moments that are out of order, make
the day inconsistent. -/
def boundariesOf (today : Day) (previousSunset sunrise sunset nextSunrise : Moment) :
    Except Failure Boundaries :=
  let built := do
    let sunrise ← sunrise.toMillis
    let sunset ← sunset.toMillis
    let previousSunset ← previousSunset.toMillis
    let nextSunrise ← nextSunrise.toMillis
    Boundaries.make previousSunset sunrise sunset nextSunrise
  match built with
  | .ok b => .ok b
  | .error e => if e.kind = .value then .error (.inconsistent today) else .error e

/-- The boundaries around a moment, when `ask` answers queries. -/
def evaluateWith (ask : Query → m Moment) (now : Moment) (zone : Zone) : m Boundaries := do
  let days ← known (now.adjacentDays zone)
  let sunrise ← ask ⟨.sunrise, days.today⟩
  let sameDay ← ask ⟨.sunset, days.today⟩
  let follows ← known (sunrise.before sameDay)
  let (sunset, previousSunset) ←
    if follows then do
      let previous ← ask ⟨.sunset, days.yesterday⟩
      pure (sameDay, previous)
    else do
      let next ← ask ⟨.sunset, days.tomorrow⟩
      pure (next, sameDay)
  let nextSunrise ← ask ⟨.sunrise, days.tomorrow⟩
  let later ← known (sunset.before nextSunrise)
  let nextSunrise ←
    if later then pure nextSunrise
    else do
      let dayAfter ← known (days.tomorrow.shift 1)
      ask ⟨.sunrise, dayAfter⟩
  known (boundariesOf days.today previousSunset sunrise sunset nextSunrise)

end

/-- The boundaries around a moment at a location; without a location there are none. -/
def evaluate (calculator : Calculator) (location : Option Location) (now : Moment) (zone : Zone) :
    Except Failure (Option Boundaries) :=
  match location with
  | none => .ok none
  | some location => some <$> evaluateWith (fun query => calculator location query zone) now zone

/-- The outcome of an evaluation with the questions that were asked. -/
structure Inquiry where
  /-- The outcome. -/
  outcome : Except Failure (Option Boundaries)
  /-- The questions, in their order. -/
  asked : List Query

/-- The boundaries around a moment at a location, and the questions asked for them. A question that
fails has been asked. -/
def inquire (calculator : Calculator) (location : Option Location) (now : Moment) (zone : Zone) :
    Inquiry :=
  match location with
  | none => ⟨.ok none, []⟩
  | some location =>
    let ask : Query → ExceptT Failure (StateM (List Query)) Moment := fun query => do
      modify (· ++ [query])
      known (calculator location query zone)
    let (outcome, asked) := (evaluateWith ask now zone).run.run []
    ⟨some <$> outcome, asked⟩

/-! ### Calculators -/

/-- A calculator with answers of its own for some queries, whatever the location and the zone. -/
structure Almanac where
  /-- What answers all other queries. -/
  base : Calculator
  /-- The queries with an answer of their own. -/
  overrides : List (Query × Except Failure Moment)

/-- The calculator of an almanac. -/
def Almanac.calculator (a : Almanac) : Calculator := fun location query zone =>
  match a.overrides.lookup query with
  | some answer => answer
  | none => a.base location query zone

/-- The almanac with an answer of its own for a query. -/
def Almanac.override (a : Almanac) (query : Query) (answer : Except Failure Moment) : Almanac :=
  { a with overrides := (query, answer) :: a.overrides.filter fun entry => entry.1 ≠ query }

/-- The almanac without an answer of its own for a query. -/
def Almanac.clear (a : Almanac) (query : Query) : Almanac :=
  { a with overrides := a.overrides.filter fun entry => entry.1 ≠ query }

/-- The same two times on every day, each as microseconds from midnight on a day that lies `shift`
days from the one asked for. -/
structure DailyTimes where
  /-- The time of the sunrise. -/
  sunrise : Int
  /-- The time of the sunset. -/
  sunset : Int
  /-- The days from the day asked for to the one of its sunrise. -/
  sunriseShift : Int
  /-- The days from the day asked for to the one of its sunset. -/
  sunsetShift : Int

/-- The calculator with the same two times on every day. -/
def DailyTimes.calculator (t : DailyTimes) : Calculator := fun _ query zone => do
  let (time, shift) := match query.event with
    | .sunrise => (t.sunrise, t.sunriseShift)
    | .sunset => (t.sunset, t.sunsetShift)
  let day ← query.day.shift shift
  return ⟨day.start + time, some zone, false⟩

end Daylight
