import Daylight.Scenario.Basic
import Daylight.Setup
import Daylight.Web.Api

/-!
# Sessions

A session is a list of actions on a service, one after the other, with listeners that act in their
turn: a script says what each listener does whenever it is told something. So everything that can
happen to a service is an action, whether it comes from outside or from a listener, in the middle of
another action.

A listener that acts may tell itself, without an end. A listener that is told inside `nesting` other
tellings does nothing; every script that ends by itself stays far below that.
-/

namespace Daylight.Scenario

/-- What can be done to a service. -/
inductive Action where
  /-- Register a listener; without a context it shares a worker. -/
  | register (listener : String) (context : Option ContextId)
  /-- Remove a listener. -/
  | unregister (listener : String)
  /-- Publish boundaries, or that there are none. -/
  | publish (state : Option Boundaries)
  /-- Tell all listeners, changed or not. -/
  | notify (state : Option Boundaries)
  /-- Ask for the boundaries that were published last. -/
  | current
  /-- Ask for the number of listeners. -/
  | size
  /-- Run what waits in a context. -/
  | run (context : ContextId)
  /-- Close a context. -/
  | shutDown (context : ContextId)
  /-- Start the loop. -/
  | start
  /-- Stop the loop. -/
  | stop
  /-- Put a trigger on the queue. -/
  | submit (trigger : Trigger)
  /-- Say that the clock or the zone was changed. -/
  | changeTime
  /-- Say that the wake-up has come. -/
  | wakeUp
  /-- Hand a fix, or nothing, to the tracker. -/
  | locate (fix : Option Location)
  /-- Report a fix to the service. -/
  | report (fix : Location)
  /-- Process the queue. -/
  | runPending
  /-- Evaluate now. -/
  | evaluate (reason : Option Trigger)
  /-- Run the callback of a timer, or the wake-up that is remembered. -/
  | fire (number : Option Int)
  /-- Set the clock. -/
  | setNow (now : Moment)
  /-- Set the zone of the clock. -/
  | setZone (zone : Zone)
  /-- Give a query an answer of its own. -/
  | override (query : Query) (answer : Except Failure Moment)
  /-- Take the answer of a query back. -/
  | clearOverride (query : Query)
  /-- Set the last fix of the device. -/
  | setFix (fix : Option Location)
  /-- Hand a fix to the one-shot requests of the device. -/
  | handSingle (fix : Location)
  /-- Let writing to the mirror break down, or work again. -/
  | breakMirror (isDown : Bool)
  /-- Send a request. -/
  | request (r : Web.Request)
  /-- Fail. -/
  | fail (failure : Failure)

/-- What an action answers. -/
inductive Answer where
  /-- Nothing but that it is done. -/
  | done
  /-- Yes or no. -/
  | truth (b : Bool)
  /-- A number. -/
  | count (n : Nat)
  /-- Boundaries, or that there are none. -/
  | state (b : Option Boundaries)
  /-- There was no wake-up to fire. -/
  | noAlarm
  /-- The answer to a request. -/
  | response (r : Web.Response)
  deriving DecidableEq

/-- Sets the clock of a service. -/
def setClock (s : Service) (change : Clock → Clock) : Service :=
  s.mapOwner fun t => { t with clock := change t.clock }

/-- Changes what the service knows about the events of days. -/
def changeAlmanac (s : Service) (change : Almanac → Almanac) : Service :=
  s.mapOwner fun t => { t with almanac := change t.almanac }

/-- Sets the last fix of a device; no other source can be set. -/
def setDeviceFix (fix : Option Location) : Source → Source
  | .device _ waiting => .device fix waiting
  | source => source

/-- Lets writing to a mirror in memory break down, or work again. -/
def setMirrorDown (isDown : Bool) : Mirror → Mirror
  | .memory mirror _ => .memory mirror isDown
  | mirror => mirror

/-- An answer that nothing can keep from being given. -/
def certain {α : Type} (answer : α → Answer) (result : Service × α) :
    Service × Except Failure Answer :=
  (result.1, .ok (answer result.2))

/-- An action that is done. -/
def done (s : Service) : Service × Except Failure Answer := (s, .ok .done)

/-- Performs an action, with listeners that react. -/
def perform (react : Reaction Tracker) (s : Service) : Action → Service × Except Failure Answer
  | .register listener context => done (s.registerListener listener context)
  | .unregister listener => done (s.unregister listener)
  | .publish state => certain .truth (s.publish react state)
  | .notify state => done (s.notifyAll react state)
  | .current => (s, .ok (.state s.registry.last))
  | .size => (s, .ok (.count s.registry.bindings.length))
  | .run context => certain .count (s.run react context)
  | .shutDown context => done (s.shutDown context)
  | .start => let (s, outcome) := s.start; (s, (fun _ => .done) <$> outcome)
  | .stop => done (s.stop react)
  | .submit trigger => done (s.submit trigger)
  | .changeTime => done s.onTimeChanged
  | .wakeUp => done s.onAlarm
  | .locate fix => done (s.onLocation fix)
  | .report fix => done (s.reportLocation fix)
  | .runPending => certain .count (s.runPending react)
  | .evaluate reason => let (s, outcome) := s.cycle react reason; (s, .state <$> outcome)
  | .fire number => certain (fun fired => if fired then .done else .noAlarm) (s.fire number)
  | .setNow now => done (setClock s fun clock => { clock with now := now })
  | .setZone zone => done (setClock s fun clock => { clock with zone := .ok zone })
  | .override query answer => done (changeAlmanac s (·.override query answer))
  | .clearOverride query => done (changeAlmanac s (·.clear query))
  | .setFix fix => done (s.mapOwner fun t => { t with source := setDeviceFix fix t.source })
  | .handSingle fix => certain .count (s.handSingle fix)
  | .breakMirror isDown =>
    done (s.mapOwner fun t => { t with mirror := setMirrorDown isDown t.mirror })
  | .request r => let (s, outcome) := Web.respond s r; (s, .response <$> outcome)
  | .fail failure => (s, .error failure)

/-- What every listener does whenever it is told something. -/
abbrev Script := String → List Action

/-- How an outcome failed, if it did. -/
def failure? {α : Type} : Except Failure α → Option Failure
  | .ok _ => none
  | .error e => some e

/-- The reaction of listeners with a script, inside at most so many others. -/
def Script.reaction (script : Script) : Nat → Reaction Tracker
  | 0 => .idle
  | depth + 1 => fun s listener _ =>
    let (s, outcome) := performAll (perform (script.reaction depth)) s (script listener)
    (s, failure? outcome)

/-- How many tellings a listener may be told in. -/
def nesting : Nat := 256

/-- How many rounds the workers may need to come to rest. -/
def rounds : Nat := 4096

/-- The service with empty journals. -/
def refreshed (s : Service) : Service :=
  { s with
    journal := .empty
    workerJournal := .empty
    owner := { s.owner with asked := [] } }

/-- Performs an action from outside, and lets the workers come to rest. The journals of the service
after it hold what happened during the action. -/
def Script.step (script : Script) (s : Service) (action : Action) : Episode Service Answer :=
  let react := script.reaction nesting
  let (s, answer) := perform react (refreshed s) action
  ⟨answer, s.settle react rounds⟩

end Daylight.Scenario
