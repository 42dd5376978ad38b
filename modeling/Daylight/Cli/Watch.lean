import Daylight.Setup

/-!
# Watching

Watching is a service with one location, whose only listener prints what is published, in one line
each. Nothing happens between two wake-ups: first the loop is started and comes to rest, then,
whenever the clock goes on, the timer that was started last has its callback run and the loop comes
to rest again. The zone is looked up at every evaluation, so a name that is unknown keeps every
evaluation from coming to an end, but not the loop.
-/

namespace Daylight.Cli

/-- The line that shows boundaries as seen at a moment. -/
def stateLine (now : Moment) (state : Option Boundaries) : Except Failure String := do
  let payload ← match state with
    | none => pure Json.null
    | some b => (·.json Moment.text) <$> b.report (some now)
  return (Json.object [("state", payload)]).sorted.render ++ "\n"

/-- A service that is watched, with the lines it has printed since it was at rest before. -/
structure Watch where
  /-- The service. -/
  service : Service
  /-- The lines. -/
  lines : List String

namespace Watch

/-- The name of the listener that prints. -/
def printer : String := "printer"

/-- The lines for what the listener was told. -/
def printed (s : Service) : List String :=
  (s.journal.deliveries ++ s.workerJournal.deliveries).filterMap fun delivery =>
    (stateLine s.owner.clock.now delivery.2).toOption

/-- The reaction of the listener, which fails when the line cannot be written. -/
def printing : Reaction Tracker := fun s _ state =>
  match stateLine s.owner.clock.now state with
  | .ok _ => (s, none)
  | .error e => (s, some e)

/-- How many rounds the listener's worker may need. -/
def rounds : Nat := 2

/-- The journals of a service emptied. -/
def emptied (s : Service) : Service := { s with journal := .empty, workerJournal := .empty }

/-- Processes the queue and waits until the listener was told. -/
def rest (s : Service) : Watch :=
  let (s, _) := s.runPending printing
  let s := s.settle printing rounds
  ⟨s, printed s⟩

/-- Starts watching a location, where a calculator knows the events. -/
def start (calculator : Calculator) (latitude longitude : Float) (zone : Option String) (now : Moment) :
    Except Failure Watch := do
  let source ← Source.ofCoordinates latitude longitude now
  let clock : Clock := ⟨now, Zone.resolve zone⟩
  let tracker := Tracker.ofParts clock ⟨calculator, []⟩ source (.timers .empty) .none
  let (s, started) := ((Service.ofTracker [] tracker).registerListener printer none).start
  started
  return rest s

/-- What happens when the clock goes on and the timer that was started last has run down. -/
def advance (w : Watch) (now : Moment) : Watch :=
  let s := (emptied w.service).mapOwner fun t => { t with clock := { t.clock with now := now } }
  rest (Service.fire s none).1

/-- The pending wake-up. -/
def pending? (w : Watch) : Option Moment := w.service.owner.alarms.pending?

/-- The log of what happened since the service was at rest before. -/
def log (w : Watch) : List LogEntry := w.service.journal.log ++ w.service.workerJournal.log

/-- Watches while the clock goes on, with every state of rest. -/
def stages (w : Watch) : List Moment → List Watch
  | [] => [w]
  | now :: nows => w :: stages (w.advance now) nows

end Watch

end Daylight.Cli
