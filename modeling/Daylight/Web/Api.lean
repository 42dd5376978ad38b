import Daylight.Service
import Daylight.Web.Fix
import Daylight.Web.Target

/-!
# Requests over HTTP

Three routes lead to the service: one shows the last published boundaries, one takes a fix, and one
takes notice of a changed clock. A path that ends in slashes leads where it leads without them, and
one line break at its end does not count. A fix is passed on and only then judged, so null island is
accepted like any other place. Some pages describe the routes; what they say is not given here.
-/

namespace Daylight.Web

/-- What can be asked of the service. -/
inductive Route where
  /-- The last published boundaries. -/
  | twilight
  /-- A new fix. -/
  | location
  /-- A change of the clock or the zone. -/
  | timeChanged
  deriving DecidableEq, Repr

namespace Route

/-- All routes. -/
def all : List Route := [twilight, location, timeChanged]

/-- The path of a route. -/
def path : Route → String
  | twilight => "/twilight"
  | location => "/location"
  | timeChanged => "/time-changed"

/-- The method of a route. -/
def method : Route → String
  | twilight => "GET"
  | location | timeChanged => "POST"

/-- The route of a path. -/
def ofPath? (path : String) : Option Route := all.find? fun route => route.path = path

end Route

/-- The paths of the pages that describe the routes. -/
def pages : List String := ["/openapi.json", "/docs", "/docs/oauth2-redirect", "/redoc"]

/-- The methods of the pages. -/
def pageMethods : List String := ["GET", "HEAD"]

/-- A path without the slashes at its end, and without one line break there. -/
def barePath (path : List Char) : String :=
  let trimmed := path.reverse.dropWhile (· = '/')
  String.ofList (if trimmed.head? = some '\n' then trimmed.drop 1 else trimmed).reverse

/-- A request. -/
structure Request where
  /-- The method, in any case. -/
  method : String
  /-- The target. -/
  target : String
  /-- The body. -/
  body : Body

/-- The answer to a request. -/
inductive Response where
  /-- What was reported has put a trigger on the queue. -/
  | queued (trigger : Trigger)
  /-- The boundaries that were published last, if there are any. -/
  | state (report : Option Boundaries.Report)
  /-- A page that describes the routes. -/
  | page
  /-- The request is objected to. -/
  | invalid (objections : List Objection)
  /-- The body of the request cannot be taken in. -/
  | unreadable
  /-- There is no such path. -/
  | notFound
  /-- The path has another method. -/
  | methodNotAllowed
  deriving DecidableEq

namespace Response

/-- The status code of an answer. -/
def status : Response → Nat
  | queued _ | state _ | page => 200
  | unreadable => 400
  | invalid _ => 422
  | notFound => 404
  | methodNotAllowed => 405

/-- A body that says what is wrong. -/
def detail (text : String) : Json := .object [("detail", .text text)]

/-- The body of an answer. -/
def body : Response → Json
  | queued trigger => .object [("queued", .text trigger.text)]
  | state none => .object [("state", .null)]
  | state (some report) => .object [("state", report.json Moment.zuluText)]
  | page => .null
  | unreadable => detail "There was an error parsing the body"
  | invalid objections => .array (objections.map Objection.json)
  | notFound => detail "Not Found"
  | methodNotAllowed => detail "Method Not Allowed"

end Response

/-- The boundaries that were published last, as seen now. The clock is read in universal time. -/
def showState (s : Service) : Except Failure Response := do
  let now ← s.owner.clock.now.inZone .utc
  match s.registry.last with
  | none => return .state none
  | some b => return .state (some (← b.report (some now)))

/-- The answer to a body that holds no fix. -/
def refuse : Refusal → Except Failure Response
  | .unreadable => .ok .unreadable
  | .objections list =>
    if list.all (·.isShowable) then .ok (.invalid list) else .error .notFinite

/-- Takes a fix. -/
def takeFix (s : Service) (body : Body) : Service × Except Failure Response :=
  match readFix body with
  | .error refusal => (s, refuse refusal)
  | .ok (.error e) => (s, .error e)
  | .ok (.ok fix) => (s.reportLocation fix, .ok (.queued .locationChanged))

/-- Answers a request for a route. -/
def follow (s : Service) (route : Route) (body : Body) : Service × Except Failure Response :=
  match route with
  | .twilight => (s, showState s)
  | .location => takeFix s body
  | .timeChanged => (s.onTimeChanged, .ok (.queued .timeChanged))

/-- Answers a request. -/
def respond (s : Service) (r : Request) : Service × Except Failure Response :=
  let path := barePath (Target.path r.target)
  let method := r.method.toUpper
  match Route.ofPath? path with
  | some route =>
    if method = route.method then follow s route r.body else (s, .ok .methodNotAllowed)
  | none =>
    if path ∉ pages then (s, .ok .notFound)
    else if method ∈ pageMethods then (s, .ok .page)
    else (s, .ok .methodNotAllowed)

end Daylight.Web
