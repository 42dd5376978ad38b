import Daylight.Decimal.Shortest
import Daylight.Time.Notation

/-!
# Locations

A location is one fix of a device: a latitude and a longitude in degrees within their bounds, and
what is known about the fix. Devices that find nothing report latitude and longitude zero; that fix
is called null island.

A coordinate that is not a number lies outside all bounds, since no comparison holds of it.
-/

namespace Daylight

/-- Whether a latitude lies between the poles. -/
abbrev IsLatitude (x : Float) : Prop := -90.0 ≤ x ∧ x ≤ 90.0

/-- Whether a longitude lies within half a turn of the meridian. -/
abbrev IsLongitude (x : Float) : Prop := -180.0 ≤ x ∧ x ≤ 180.0

/-- One fix of a device. -/
structure Location where
  /-- The latitude in degrees, to the north. -/
  latitude : Float
  /-- The longitude in degrees, to the east. -/
  longitude : Float
  /-- The radius of uncertainty in metres. -/
  accuracy : Option Float
  /-- When the fix was taken. -/
  timestamp : Option Moment
  /-- Who took the fix. -/
  provider : String
  /-- The latitude lies within its bounds. -/
  isLatitude : IsLatitude latitude
  /-- The longitude lies within its bounds. -/
  isLongitude : IsLongitude longitude
  deriving DecidableEq

namespace Location

/-- A location whose coordinates are checked, the latitude first. -/
def make (latitude longitude : Float) (accuracy : Option Float) (timestamp : Option Moment)
    (provider : String) : Except Failure Location :=
  if inLatitude : IsLatitude latitude then
    if inLongitude : IsLongitude longitude then
      .ok ⟨latitude, longitude, accuracy, timestamp, provider, inLatitude, inLongitude⟩
    else .error .longitude
  else .error .latitude

/-- The provider of a fix whose provider is not given. -/
def unknownProvider : String := "unknown"

/-- Whether a fix is the one that devices report when they find nothing. -/
def isNullIsland (l : Location) : Bool := l.latitude == 0.0 && l.longitude == 0.0

/-- Whether two optional values are equal in the sense of `same`. -/
def sameOption {α : Type} (same : α → α → Bool) : Option α → Option α → Bool
  | none, none => true
  | some a, some b => same a b
  | _, _ => false

/-- Whether two fixes are equal: numbers by value, so that one that is not a number differs even
from itself, and times as moments. -/
def same (a b : Location) : Bool :=
  a.latitude == b.latitude && a.longitude == b.longitude &&
    sameOption (fun x y => x == y) a.accuracy b.accuracy &&
    sameOption Moment.same a.timestamp b.timestamp && a.provider = b.provider

/-- An optional value, as messages show it. -/
def optionText {α : Type} (text : α → String) : Option α → String
  | none => "None"
  | some a => text a

/-- A location with its parts listed, as messages show it. -/
def listing (l : Location) : String :=
  "Location(latitude=" ++ Decimal.floatText l.latitude ++
    ", longitude=" ++ Decimal.floatText l.longitude ++
    ", accuracy=" ++ optionText Decimal.floatText l.accuracy ++
    ", timestamp=" ++ optionText Moment.listing l.timestamp ++
    ", provider=" ++ Text.quote l.provider ++ ")"

end Location

end Daylight
