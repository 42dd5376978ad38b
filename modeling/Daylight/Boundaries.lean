import Daylight.Json.Value
import Daylight.Time.Notation

/-!
# Boundaries of day and night

Four instants around an evaluation, in milliseconds: the sunset before, sunrise and sunset of the
day, and the sunrise after. They are strictly in this order. It is day from sunrise on until just
before sunset, and night else. The next transition is the first of sunrise and sunset that is still
to come, or else the sunrise after.

Boundaries may lie outside the calendar; they can then be compared, but not be written as moments.
-/

namespace Daylight

/-- The day and night around one evaluation. -/
structure Boundaries where
  /-- The sunset before, in milliseconds. -/
  previousSunset : Int
  /-- The sunrise of the day, in milliseconds. -/
  sunrise : Int
  /-- The sunset of the day, in milliseconds. -/
  sunset : Int
  /-- The sunrise after, in milliseconds. -/
  nextSunrise : Int
  /-- The four follow each other. -/
  ordered : previousSunset < sunrise ∧ sunrise < sunset ∧ sunset < nextSunrise
  deriving DecidableEq

namespace Boundaries

/-- Boundaries whose order is checked. -/
def make (previousSunset sunrise sunset nextSunrise : Int) : Except Failure Boundaries :=
  if ordered : previousSunset < sunrise ∧ sunrise < sunset ∧ sunset < nextSunrise then
    .ok ⟨previousSunset, sunrise, sunset, nextSunrise, ordered⟩
  else .error .boundaryOrder

/-- The milliseconds of a moment; a reading without a zone is one of universal time. -/
def millisOf (now : Moment) : Except Failure Int := do
  let utc ← now.toUtc
  utc.toMillis

/-- Whether it is night at a count of milliseconds. -/
def isNightAt (b : Boundaries) (millis : Int) : Bool := !(b.sunrise ≤ millis && millis < b.sunset)

/-- The next transition at a count of milliseconds. -/
def transitionAfter (b : Boundaries) (millis : Int) : Int :=
  if millis < b.sunrise then b.sunrise
  else if millis < b.sunset then b.sunset
  else b.nextSunrise

/-- Whether it is night at a moment. -/
def isNight (b : Boundaries) (now : Moment) : Except Failure Bool := do
  let millis ← millisOf now
  return b.isNightAt millis

/-- The next transition at a moment. -/
def nextTransition (b : Boundaries) (now : Moment) : Except Failure Moment := do
  let millis ← millisOf now
  Moment.ofMillis (b.transitionAfter millis)

/-- The boundaries with their parts listed, as messages show them. -/
def listing (b : Boundaries) : String :=
  "TwilightState(sunrise_millis=" ++ toString b.sunrise ++
    ", sunset_millis=" ++ toString b.sunset ++
    ", previous_sunset_millis=" ++ toString b.previousSunset ++
    ", next_sunrise_millis=" ++ toString b.nextSunrise ++ ")"

/-- What boundaries mean at one moment. -/
structure Outlook where
  /-- Whether it is night. -/
  isNight : Bool
  /-- The next transition. -/
  nextTransition : Moment
  deriving DecidableEq

/-- The boundaries as moments, and what they mean at a moment if one is given. -/
structure Report where
  /-- The boundaries. -/
  boundaries : Boundaries
  /-- The sunrise of the day. -/
  sunrise : Moment
  /-- The sunset of the day. -/
  sunset : Moment
  /-- The sunset before. -/
  previousSunset : Moment
  /-- The sunrise after. -/
  nextSunrise : Moment
  /-- What the boundaries mean at the moment that was given. -/
  outlook : Option Outlook
  deriving DecidableEq

/-- What boundaries mean at a moment. -/
def outlook (b : Boundaries) (now : Moment) : Except Failure Outlook := do
  let isNight ← b.isNight now
  let nextTransition ← b.nextTransition now
  return ⟨isNight, nextTransition⟩

/-- The report of boundaries. It fails with the first boundary that lies outside the calendar. -/
def report (b : Boundaries) (now : Option Moment) : Except Failure Report := do
  let sunrise ← Moment.ofMillis b.sunrise
  let sunset ← Moment.ofMillis b.sunset
  let previousSunset ← Moment.ofMillis b.previousSunset
  let nextSunrise ← Moment.ofMillis b.nextSunrise
  match now with
  | none => return ⟨b, sunrise, sunset, previousSunset, nextSunrise, none⟩
  | some now =>
    let outlook ← b.outlook now
    return ⟨b, sunrise, sunset, previousSunset, nextSunrise, some outlook⟩

/-- The fields of a report, with moments written by `write`. -/
def Report.fields (r : Report) (write : Moment → String) : List (String × Json) :=
  let moment := fun (m : Moment) => Json.text (write m)
  [("sunrise_millis", .integer r.boundaries.sunrise),
    ("sunset_millis", .integer r.boundaries.sunset),
    ("previous_sunset_millis", .integer r.boundaries.previousSunset),
    ("next_sunrise_millis", .integer r.boundaries.nextSunrise),
    ("sunrise_utc", moment r.sunrise),
    ("sunset_utc", moment r.sunset),
    ("previous_sunset_utc", moment r.previousSunset),
    ("next_sunrise_utc", moment r.nextSunrise)] ++
  match r.outlook with
  | none => []
  | some outlook => [("is_night", .bool outlook.isNight),
      ("next_transition_utc", moment outlook.nextTransition)]

/-- A report as a JSON object. -/
def Report.json (r : Report) (write : Moment → String) : Json := .object (r.fields write)

end Boundaries

end Daylight
