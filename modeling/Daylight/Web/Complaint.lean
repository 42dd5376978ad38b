import Daylight.Json.Value

/-!
# Complaints about a request

What is wrong with the body of a request, and where. Every field is looked at for itself, and a
field is complained about at most once, so an answer lists its complaints in the order of the
fields. A complaint about the body as a whole is the only one of its answer.

An answer shows the values that it complains about. JSON has no number that is not finite, so with
such a value there can be no answer.
-/

namespace Daylight.Web

/-- What is wrong with a part of a request. -/
inductive Complaint where
  /-- It is not there. -/
  | missing
  /-- It is a text that does not write a number. -/
  | unreadableNumber
  /-- It is neither a number nor a text. -/
  | notNumber
  /-- It is not at least as large as its lower bound. -/
  | belowBound
  /-- It is not at most as large as its upper bound. -/
  | aboveBound
  /-- It is a text that writes neither a moment nor a day. -/
  | unreadableMoment
  /-- It is a moment that the calendar does not have. -/
  | unreachableMoment
  /-- It is neither a text nor a number, so it is no moment. -/
  | notMoment
  /-- It is not a text. -/
  | notText
  /-- It is not an object. -/
  | notObject
  /-- It is not JSON. -/
  | notJson
  deriving DecidableEq, Repr

/-- The name of a complaint. -/
def Complaint.text : Complaint → String
  | missing => "missing"
  | unreadableNumber => "float_parsing"
  | notNumber => "float_type"
  | belowBound => "greater_than_equal"
  | aboveBound => "less_than_equal"
  | unreadableMoment => "datetime_from_date_parsing"
  | unreachableMoment => "datetime_parsing"
  | notMoment => "datetime_type"
  | notText => "string_type"
  | notObject => "model_attributes_type"
  | notJson => "json_invalid"

/-- The part of a request that a complaint is about. -/
inductive Place where
  /-- The body. -/
  | body
  /-- A field of the body. -/
  | field (name : String)
  /-- The character at which the body stops being JSON. -/
  | position (index : Nat)
  deriving DecidableEq, Repr

/-- The path to a part of a request. -/
def Place.path : Place → List Json
  | body => [.text "body"]
  | field name => [.text "body", .text name]
  | position index => [.text "body", .integer index]

/-- A complaint about a part of a request. -/
structure Objection where
  /-- The part. -/
  place : Place
  /-- What is wrong with it. -/
  complaint : Complaint
  /-- Whether an answer can show the value that is complained about. -/
  isShowable : Bool
  deriving DecidableEq, Repr

/-- An objection as a path and a name. -/
def Objection.json (o : Objection) : Json := .array [.array o.place.path, .text o.complaint.text]

end Daylight.Web
