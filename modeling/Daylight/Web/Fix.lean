import Daylight.Location
import Daylight.Json.Reader
import Daylight.Web.Timestamp

/-!
# Fixes in requests

A fix comes as a JSON object with latitude and longitude, and optionally accuracy, timestamp and
provider. Other fields do not count, and of a repeated field the last one does. Every field is read
for itself, and all objections are listed in the order of the fields; only a fix without objection
is a location.

A number may be given as such, as a truth value, or as a text that writes it in ASCII digits. What
is not a number lies outside all bounds, and the upper bound is checked first.
-/

namespace Daylight.Web

open Daylight.Text

/-! ### Numbers -/

/-- Whether two underscores stand next to each other. -/
def hasDoubleUnderscore : List Char → Bool
  | '_' :: '_' :: _ => true
  | _ :: rest => hasDoubleUnderscore rest
  | [] => false

/-- The text without its underscores, unless one of them is first, last or next to another one. -/
def joinUnderscores (cs : List Char) : Option (List Char) :=
  if cs.head? = some '_' ∨ cs.getLast? = some '_' ∨ hasDoubleUnderscore cs then none
  else some (cs.filter (· ≠ '_'))

/-- The number that a text writes: with margins around it, or else in groups and without margins. -/
def numberOfText? (s : String) : Option Float :=
  match Decimal.readNumeral (trimWhere isMargin s.toList) with
  | some x => some x
  | none => (joinUnderscores s.toList).bind Decimal.readNumeral

/-- The number of a value. A whole number that is larger than all doubles is none. -/
def readNumber : Json → Except Complaint Float
  | .real x => .ok x
  | .integer n =>
    let x := Decimal.floatOfInt n
    if x.isInf then .error .notNumber else .ok x
  | .bool b => .ok (if b then 1.0 else 0.0)
  | .text s =>
    match numberOfText? s with
    | some x => .ok x
    | none => .error .unreadableNumber
  | _ => .error .notNumber

/-- A number that has to be at least a bound. -/
def atLeast (lowest x : Float) : Except Complaint Float :=
  if lowest ≤ x then .ok x else .error .belowBound

/-- A number that has to be at most a bound. -/
def atMost (highest x : Float) : Except Complaint Float :=
  if x ≤ highest then .ok x else .error .aboveBound

/-! ### Fields -/

/-- A number between two bounds. -/
def readCoordinate (size : Float) (value : Json) : Except Complaint Float := do
  let x ← readNumber value
  let x ← atMost size x
  atLeast (-size) x

/-- A number that is not negative. -/
def readAccuracy (value : Json) : Except Complaint Float := do
  let x ← readNumber value
  atLeast 0.0 x

/-- A text. -/
def readProvider : Json → Except Complaint String
  | .text s => .ok s
  | _ => .error .notText

/-- The provider of a fix that names none. -/
def defaultProvider : String := "api"

/-- What is read from a field, with a complaint turned into an objection. -/
def inField {α : Type} (name : String) (read : Json → Except Complaint α) (value : Json) :
    Except Objection α :=
  (read value).mapError fun complaint => ⟨.field name, complaint, value.isFinite⟩

/-- A field that has to be there. -/
def required {α : Type} (body : List (String × Json)) (name : String)
    (read : Json → Except Complaint α) : Except Objection α :=
  match Json.lookUp name body with
  | none => .error ⟨.field name, .missing, (Json.object body).isFinite⟩
  | some value => inField name read value

/-- A field that may be left out. -/
def optional {α : Type} (body : List (String × Json)) (name : String) (absent : α)
    (read : Json → Except Complaint α) : Except Objection α :=
  match Json.lookUp name body with
  | none => .ok absent
  | some value => inField name read value

/-- A reader that takes the null value for nothing. -/
def nullable {α : Type} (read : Json → Except Complaint α) : Json → Except Complaint (Option α)
  | .null => .ok none
  | value => some <$> read value

/-- The objection to a field, if there is one. -/
def objectionOf {α : Type} : Except Objection α → List Objection
  | .ok _ => []
  | .error objection => [objection]

/-! ### The body -/

/-- A fix as it was given, with its fields read one by one. -/
structure GivenFix where
  /-- The latitude. -/
  latitude : Except Objection Float
  /-- The longitude. -/
  longitude : Except Objection Float
  /-- The accuracy. -/
  accuracy : Except Objection (Option Float)
  /-- The timestamp. -/
  timestamp : Except Objection (Option Moment)
  /-- The provider. -/
  provider : Except Objection String

namespace GivenFix

/-- Reads the fields of an object. -/
def ofFields (body : List (String × Json)) : GivenFix where
  latitude := required body "latitude" (readCoordinate 90.0)
  longitude := required body "longitude" (readCoordinate 180.0)
  accuracy := optional body "accuracy" none (nullable readAccuracy)
  timestamp := optional body "timestamp" none (nullable readMoment)
  provider := optional body "provider" defaultProvider readProvider

/-- All objections, in the order of the fields. -/
def objections (g : GivenFix) : List Objection :=
  objectionOf g.latitude ++ objectionOf g.longitude ++ objectionOf g.accuracy ++
    objectionOf g.timestamp ++ objectionOf g.provider

/-- The location, if no field is objected to. -/
def location (g : GivenFix) : Except (List Objection) (Except Failure Location) :=
  match g.latitude, g.longitude, g.accuracy, g.timestamp, g.provider with
  | .ok latitude, .ok longitude, .ok accuracy, .ok timestamp, .ok provider =>
    .ok (Location.make latitude longitude accuracy timestamp provider)
  | _, _, _, _, _ => .error g.objections

end GivenFix

/-- The body of a request. -/
inductive Body where
  /-- There is none. -/
  | absent
  /-- A text, to be read as JSON. -/
  | raw (text : String)
  /-- A value. -/
  | value (v : Json)

/-- Why a body holds no fix. -/
inductive Refusal where
  /-- Its text cannot be taken in. -/
  | unreadable
  /-- It is objected to. -/
  | objections (list : List Objection)
  deriving DecidableEq, Repr

/-- The value of a text. -/
def readText (cs : List Char) : Except Refusal Json :=
  match (Encoding.reread? cs).map Json.read with
  | some (.ok value) => .ok value
  | some (.error (.malformed index)) => .error (.objections [⟨.position index, .notJson, true⟩])
  | some (.error .outOfBounds) | none => .error .unreadable

/-- The value of a body. -/
def Body.read : Body → Except Refusal Json
  | absent => .error (.objections [⟨.body, .missing, true⟩])
  | raw text =>
    if text.isEmpty then .error (.objections [⟨.body, .missing, true⟩]) else readText text.toList
  | value v => .ok v

/-- The fix in the body of a request. -/
def readFix (body : Body) : Except Refusal (Except Failure Location) := do
  match ← body.read with
  | .object fields => (GivenFix.ofFields fields).location.mapError .objections
  | other => .error (.objections [⟨.body, .notObject, other.isFinite⟩])

end Daylight.Web
