import Daylight.Evaluation

/-!
# The sun's course

Sunrise and sunset by the low-accuracy series for the sun's position: the mean longitude and anomaly
give the apparent longitude, that and the tilt of the ecliptic the declination and the equation of
time. The upper edge of the disc is on the horizon when the sun's zenith distance is the sum of a
right angle, the radius of the disc and the refraction there. The hour angle at which it has that
zenith distance gives the time of the event, first for the start of the day, then once more for the
time that came out.

All of this is done in doubles, operation by operation as written here, since a result differs in
its last microsecond with the order of the operations.

An event belongs to the calendar day on which it falls in the given zone. When the event computed
for a day falls on another one, the day before or after is tried once.
-/

namespace Daylight.Solar

open Decimal (wholePart)

/-- The ratio of a circle to its diameter, as a double. -/
def pi : Float := 3.141592653589793

/-- Radians from degrees. -/
def radians (x : Float) : Float := x * (pi / 180.0)

/-- Degrees from radians. -/
def degrees (x : Float) : Float := x * (180.0 / pi)

/-- The remainder of a division by a positive number, which is not negative. -/
def remainder (x y : Float) : Float :=
  let rest := x - y * (x / y).floor
  if rest < 0.0 then rest + y else if y ≤ rest then rest - y else rest

/-- The distance from the centre of the sun to its edge, in degrees. -/
def discRadius : Float := 32.0 / (60.0 * 2.0)

/-- The zenith distance of the centre of the sun when its upper edge is on the horizon, without
refraction. -/
def horizon : Float := 90.0 + discRadius

/-- The refraction at a zenith distance, in degrees. -/
def refraction (zenith : Float) : Float :=
  let elevation := 90.0 - zenith
  if 85.0 ≤ elevation then 0.0
  else
    let tangent := (radians elevation).tan
    let seconds :=
      if 5.0 < elevation then
        58.1 / tangent - 0.07 / (tangent * tangent * tangent) +
          0.000086 / (tangent * tangent * tangent * tangent * tangent)
      else if -0.575 < elevation then
        let step1 := -12.79 + elevation * 0.711
        let step2 := 103.4 + elevation * step1
        let step3 := -518.2 + elevation * step2
        1735.0 + elevation * step3
      else -20.774 / tangent
    seconds / 3600.0

/-- The Julian day at which a calendar day begins. -/
def julianDay (d : Day) : Float :=
  let c := d.civil
  let (year, month) := if c.month ≤ 2 then (c.year - 1, c.month + 12) else (c.year, c.month)
  let century := year / 100
  let correction := 2 - century + century / 4
  let whole := wholePart (365.25 * Float.ofInt (year + 4716)) +
    wholePart (30.6001 * Float.ofInt (month + 1)) + c.day
  Float.ofInt whole + 0.0 + Float.ofInt correction - 1524.5

/-- Julian centuries since noon of 2000-01-01. -/
def centuries (julian : Float) : Float := (julian - 2451545.0) / 36525.0

/-- The mean longitude of the sun, in degrees. -/
def meanLongitude (t : Float) : Float :=
  remainder (280.46646 + t * (36000.76983 + 0.0003032 * t)) 360.0

/-- The mean anomaly of the sun, in degrees. -/
def meanAnomaly (t : Float) : Float := 357.52911 + t * (35999.05029 - 0.0001537 * t)

/-- The eccentricity of the orbit of the earth. -/
def eccentricity (t : Float) : Float := 0.016708634 - t * (0.000042037 + 0.0000001267 * t)

/-- The equation of the centre, in degrees. -/
def equationOfCentre (t : Float) : Float :=
  let m := radians (meanAnomaly t)
  m.sin * (1.914602 - t * (0.004817 + 0.000014 * t)) +
    (m + m).sin * (0.019993 - 0.000101 * t) + (m + m + m).sin * 0.000289

/-- The longitude of the node of the lunar orbit, in degrees. -/
def node (t : Float) : Float := 125.04 - 1934.136 * t

/-- The apparent longitude of the sun, in degrees. -/
def apparentLongitude (t : Float) : Float :=
  let trueLongitude := meanLongitude t + equationOfCentre t
  trueLongitude - 0.00569 - 0.00478 * (radians (node t)).sin

/-- The tilt of the ecliptic, in degrees. -/
def obliquity (t : Float) : Float :=
  let seconds := 21.448 - t * (46.815 + t * (0.00059 - t * 0.001813))
  let mean := 23.0 + (26.0 + seconds / 60.0) / 60.0
  mean + 0.00256 * (radians (node t)).cos

/-- The declination of the sun, in degrees. -/
def declination (t : Float) : Float :=
  degrees ((radians (obliquity t)).sin * (radians (apparentLongitude t)).sin).asin

/-- The minutes by which a sundial is ahead of a clock. -/
def equationOfTime (t : Float) : Float :=
  let longitude := radians (meanLongitude t)
  let e := eccentricity t
  let m := radians (meanAnomaly t)
  let tangent := (radians (obliquity t) / 2.0).tan
  let y := tangent * tangent
  let sin2l := (2.0 * longitude).sin
  let sinm := m.sin
  let cos2l := (2.0 * longitude).cos
  let sin4l := (4.0 * longitude).sin
  let sin2m := (2.0 * m).sin
  let total := y * sin2l - 2.0 * e * sinm + 4.0 * e * y * sinm * cos2l - 0.5 * y * y * sin4l -
    1.25 * e * e * sin2m
  degrees total * 4.0

/-- A latitude kept off the poles. -/
def offPole (latitude : Float) : Float :=
  if 89.8 < latitude then 89.8 else if latitude < -89.8 then -89.8 else latitude

/-- The cosine of the hour angle at which the edge of the sun is on the horizon. It is beyond one or
minus one where that never happens. -/
def hourAngleCosine (latitude declination : Float) : Float :=
  let zenith := horizon + 0.0 + refraction horizon
  ((radians zenith).cos - (radians latitude).sin * (radians declination).sin) /
    ((radians latitude).cos * (radians declination).cos)

/-- The minutes from the start of a day of universal time to an event, from the adjustment of the
time in days. -/
def minutesOf (event : Event) (latitude longitude julian adjustment : Float) : Option Float :=
  let t := centuries (julian + adjustment)
  let cosine := hourAngleCosine latitude (declination t)
  if -1.0 ≤ cosine ∧ cosine ≤ 1.0 then
    let angle := match event with
      | .sunrise => cosine.acos
      | .sunset => -cosine.acos
    let delta := -longitude - degrees angle
    let offset := delta * 4.0 - equationOfTime t
    let offset := if offset < -720.0 then offset + 1440.0 else offset
    some (720.0 + offset)
  else none

/-- An event for a calendar day, as microseconds from the start of that day of universal time, or
none where the sun does not reach the horizon. -/
def timeOf (event : Event) (location : Location) (d : Day) : Option Int := do
  let latitude := offPole location.latitude
  let julian := julianDay d
  let first ← minutesOf event latitude location.longitude julian 0.0
  let minutes ← minutesOf event latitude location.longitude julian (first / 1440.0)
  let days := wholePart (minutes / 1440.0)
  let seconds := (minutes - Float.ofInt days * 1440.0) * 60.0
  let whole := wholePart seconds
  let micros := wholePart ((seconds - Float.ofInt whole) * 1000000.0)
  return days * dayLength + whole * second + micros

/-- The moment of an event for a calendar day, in a zone. -/
def momentOf (event : Event) (location : Location) (d : Day) (zone : Zone) :
    Except Failure (Option Moment) :=
  match timeOf event location d with
  | none => .ok none
  | some time => do
    let wall ← Moment.checked (d.start + time)
    let moment ← (Moment.ofInstant wall).inZone zone
    return some moment

/-- The time of day, to the second, at which the sun is highest on a calendar day, in universal
time. -/
def noon (location : Location) (d : Day) : Day × Int :=
  let hours := (720.0 - 4.0 * location.longitude - equationOfTime (centuries (julianDay d))) / 60.0
  let hour := wholePart hours
  let minutes := (hours - Float.ofInt hour) * 60.0
  let minute := wholePart minutes
  let seconds := wholePart ((minutes - Float.ofInt minute) * 60.0)
  let total := hour * 3600 + minute * 60 + seconds
  (d.plus (total / 86400), total % 86400)

/-- The apparent zenith distance of the sun at a second of a day of universal time, in degrees. -/
def zenith (location : Location) (d : Day) (secondOfDay : Int) : Float :=
  let latitude := radians (offPole location.latitude)
  let t := centuries (julianDay d + Float.ofInt secondOfDay / 86400.0)
  let declination := radians (declination t)
  let fix := equationOfTime t + 4.0 * location.longitude
  let solarTime := Float.ofInt (secondOfDay / 60) + Float.ofInt (secondOfDay % 60) / 60.0 + fix
  let solarTime := if 1440.0 < solarTime then solarTime - 1440.0 else solarTime
  let hourAngle := solarTime / 4.0 - 180.0
  let hourAngle := if hourAngle < -180.0 then hourAngle + 360.0 else hourAngle
  let cosine := latitude.cos * declination.cos * (radians hourAngle).cos +
    latitude.sin * declination.sin
  let cosine := if 1.0 < cosine then 1.0 else if cosine < -1.0 then -1.0 else cosine
  let distance := degrees cosine.acos
  distance - refraction distance

/-- Why the sun does not reach the horizon on a day: it stays below when it is below at noon. -/
def absence (location : Location) (d : Day) : Absence :=
  let (noonDay, secondOfDay) := noon location d
  if 90.0 < zenith location noonDay secondOfDay then .alwaysBelow else .alwaysAbove

/-- Sunrise and sunset from the sun's course. -/
def calculator : Calculator := fun location query zone => do
  let none? := fun (found : Option Moment) => match found with
    | some moment => Except.ok moment
    | none => .error (Failure.noEvent query (some (absence location query.day)))
  let moment ← none? (← momentOf query.event location query.day zone)
  if moment.day = query.day then return moment
  else
    let other ← query.day.shift (if moment.day.number < query.day.number then 1 else -1)
    let moment ← none? (← momentOf query.event location other zone)
    if moment.day = query.day then return moment
    else throw (.noEvent query (some (.otherDay query.event)))

/-- The sun's course, with no answers of its own. -/
def almanac : Almanac := ⟨calculator, []⟩

end Daylight.Solar
