import Daylight.Decimal.Shortest
import Daylight.Text.Quoted

/-!
# JSON values

Values as a request or an answer holds them. A number written with a point or a power of ten is a
real, any other an integer of any size. An object keeps its fields in the order in which they were
written, repeated keys included; looking a key up finds its last field.
-/

namespace Daylight

/-- A JSON value. -/
inductive Json where
  /-- The null value. -/
  | null
  /-- A truth value. -/
  | bool (b : Bool)
  /-- A whole number. -/
  | integer (n : Int)
  /-- A number written with a point or a power of ten. -/
  | real (x : Float)
  /-- A text. -/
  | text (s : String)
  /-- A list of values. -/
  | array (items : List Json)
  /-- Fields with their keys. -/
  | object (fields : List (String × Json))
  deriving Inhabited

namespace Json

open Text

/-- The last value among `fields` with the given key. -/
def lookUp (key : String) (fields : List (String × Json)) : Option Json :=
  (fields.reverse.find? fun field => field.1 = key).map (·.2)

/-- The last value with the given key, of an object that has it. -/
def field? (key : String) : Json → Option Json
  | object fields => lookUp key fields
  | _ => none

/-- Whether a value counts as true: null, zero, and what is empty do not. -/
def truth : Json → Bool
  | null => false
  | bool b => b
  | integer n => n ≠ 0
  | real x => !(x == 0.0)
  | text s => s ≠ ""
  | array items => !items.isEmpty
  | object fields => !fields.isEmpty

mutual

/-- Whether all numbers in a value are finite. -/
def isFinite : Json → Bool
  | real x => x.isFinite
  | array items => areFinite items
  | object fields => fieldsAreFinite fields
  | _ => true

/-- Whether all numbers in a list of values are finite. -/
def areFinite : List Json → Bool
  | [] => true
  | item :: items => isFinite item && areFinite items

/-- Whether all numbers in the fields of an object are finite. Of a repeated key only the last field
counts. -/
def fieldsAreFinite : List (String × Json) → Bool
  | [] => true
  | (key, value) :: fields =>
    ((fields.any fun field => field.1 = key) || isFinite value) && fieldsAreFinite fields

end

/-- One UTF-16 unit as an escape. -/
def escapeUnit (unit : Nat) : List Char := '\\' :: 'u' :: hexDigits 4 unit

/-- A character inside a JSON text. Every character outside printable ASCII is escaped, those above
the basic plane as two units. -/
def escapeChar (c : Char) : List Char :=
  if c = '"' ∨ c = '\\' then ['\\', c]
  else if c = '\n' then ['\\', 'n']
  else if c = '\r' then ['\\', 'r']
  else if c = '\t' then ['\\', 't']
  else if c.toNat = 0x08 then ['\\', 'b']
  else if c.toNat = 0x0C then ['\\', 'f']
  else if 0x20 ≤ c.toNat ∧ c.toNat < 0x7F then [c]
  else if c.toNat < 0x10000 then escapeUnit c.toNat
  else
    let above := c.toNat - 0x10000
    escapeUnit (0xD800 + above / 0x400) ++ escapeUnit (0xDC00 + above % 0x400)

/-- A text with its quotes. -/
def renderText (s : String) : String :=
  String.ofList ('"' :: (s.toList.flatMap escapeChar ++ ['"']))

/-- A number, which may be none of the finite ones. -/
def renderReal (x : Float) : String :=
  match Decimal.Binary.ofFloat x with
  | .notANumber => "NaN"
  | .infinite negative => if negative then "-Infinity" else "Infinity"
  | .finite .. => Decimal.floatText x

mutual

/-- The written form, with a blank behind every comma and colon. -/
def render : Json → String
  | null => "null"
  | bool b => if b then "true" else "false"
  | integer n => toString n
  | real x => renderReal x
  | text s => renderText s
  | array items => "[" ++ renderItems items ++ "]"
  | object fields => "\x7b" ++ renderFields fields ++ "\x7d"

/-- The items of a list. -/
def renderItems : List Json → String
  | [] => ""
  | [item] => render item
  | item :: items => render item ++ ", " ++ renderItems items

/-- The fields of an object. -/
def renderFields : List (String × Json) → String
  | [] => ""
  | [(key, value)] => renderText key ++ ": " ++ render value
  | (key, value) :: fields => renderText key ++ ": " ++ render value ++ ", " ++ renderFields fields

end

/-- Puts a field into its place in a list that is sorted by key. -/
def insertField (field : String × Json) : List (String × Json) → List (String × Json)
  | [] => [field]
  | next :: fields => if next.1 < field.1 then next :: insertField field fields
    else field :: next :: fields

mutual

/-- The same value with the fields of every object sorted by their keys. -/
def sorted : Json → Json
  | array items => array (sortedItems items)
  | object fields => object (sortedFields fields)
  | value => value

/-- The same items, each of them sorted. -/
def sortedItems : List Json → List Json
  | [] => []
  | item :: items => sorted item :: sortedItems items

/-- The same fields, sorted by key, with their values sorted. -/
def sortedFields : List (String × Json) → List (String × Json)
  | [] => []
  | (key, value) :: fields => insertField (key, sorted value) (sortedFields fields)

end

end Json

end Daylight
