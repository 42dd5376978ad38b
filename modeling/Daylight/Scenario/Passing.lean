import Daylight.Feed
import Daylight.Scenario.Basic
import Daylight.Tracker

/-!
# Passing fixes on

A source of fixes with named callbacks. A callback that gets a fix does the next one of its actions,
if any is left: it asks for more fixes, passes one on itself, or fails. A failure ends the passing
of the fix, and callbacks that have not had it yet do not get it.

Every action of a callback is done at most once, so callbacks run inside of at most as many others
as there are actions.
-/

namespace Daylight.Scenario

/-- What can be done to a source of fixes. -/
inductive FixAction where
  /-- Ask for every fix. -/
  | requestUpdates (callback : String)
  /-- Ask for one fix. -/
  | requestSingle (callback : String)
  /-- Pass a fix on. -/
  | push (fix : Location)
  /-- Fail. -/
  | fail (failure : Failure)

/-- A source of fixes. -/
inductive Outlet where
  /-- A feed. -/
  | feed (f : Feed String)
  /-- One location that never changes. -/
  | fixed (location : Location)

/-- The last fix of a source. -/
def Outlet.lastFix : Outlet → Option Location
  | feed f => f.last
  | fixed location => some location

/-- A source with its callbacks. -/
structure Relay where
  /-- The source. -/
  outlet : Outlet
  /-- The actions that every callback has left. -/
  plans : List (String × List FixAction)
  /-- The fixes that callbacks got. -/
  delivered : List (String × Location)

namespace Relay

/-- The next action of a callback, and the relay without it. -/
def next (r : Relay) (callback : String) : Option FixAction × Relay :=
  match (r.plans.lookup callback).getD [] with
  | [] => (none, r)
  | action :: rest =>
    (some action, { r with
      plans := r.plans.map fun plan => if plan.1 = callback then (callback, rest) else plan })

/-- Hands a fix to a callback; what it does then is done by `perform`. -/
def deliver (perform : Relay → FixAction → Relay × Except Failure Unit) (fix : Location)
    (r : Relay) (callback : String) : Relay × Except Failure Unit :=
  match { r with delivered := r.delivered ++ [(callback, fix)] }.next callback with
  | (none, r) => (r, .ok ())
  | (some action, r) => perform r action

/-- Performs an action, with callbacks inside at most so many others. -/
def perform : Nat → Relay → FixAction → Relay × Except Failure Unit
  | 0, r, _ => (r, .ok ())
  | depth + 1, r, action =>
    match action, r.outlet with
    | .fail failure, _ => (r, .error failure)
    | .requestUpdates callback, .feed f =>
      ({ r with outlet := .feed (f.requestUpdates callback) }, .ok ())
    | .requestUpdates _, .fixed _ => (r, .ok ())
    | .requestSingle callback, .feed f =>
      ({ r with outlet := .feed (f.requestSingle callback) }, .ok ())
    | .requestSingle callback, .fixed location => deliver (perform depth) location r callback
    | .push fix, .feed f =>
      let (f, callbacks) := f.push fix
      performAll (deliver (perform depth) fix) { r with outlet := .feed f } callbacks
    | .push _, .fixed _ => (r, .ok ())

/-- Performs an action from outside, with nothing noted before it. -/
def step (depth : Nat) (r : Relay) (action : FixAction) : Episode Relay Unit :=
  let (r, answer) := perform depth { r with delivered := [] } action
  ⟨answer, r⟩

/-- How deep callbacks can run inside each other. -/
def depth (r : Relay) : Nat := (r.plans.flatMap (·.2)).length + 1

/-- Performs actions one after the other. -/
def play (r : Relay) (actions : List FixAction) : List (Episode Relay Unit) :=
  Scenario.play (step r.depth) r actions

end Relay

end Daylight.Scenario
