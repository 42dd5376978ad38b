import Daylight.Cli.Command
import Daylight.Cli.Watch

/-!
# The program

The program evaluates once, or watches while the clock goes on. What it prints is JSON, one object
in a line, with sorted keys. An evaluation that finds no sunrise or sunset prints why, and the
program says so by its exit code; a misuse of the command line has an exit code of its own. Every
other failure ends the program as it is.

What knows the sunrises and sunsets is a parameter of everything but the program itself, which asks the
sun's course.
-/

namespace Daylight.Cli

/-- What a run of the program leaves behind. -/
structure Outcome where
  /-- The exit code. -/
  exit : Nat
  /-- What it has printed. -/
  output : String
  /-- The complaint about its arguments, with the form that they were read by. -/
  complaint : Option (Form × Misuse)
  /-- The wake-ups that were pending whenever it was at rest. -/
  alarms : List (Option Moment)
  /-- The log. -/
  log : List LogEntry

namespace Outcome

/-- A run that has come to its end. -/
def success (output : String) : Outcome := ⟨0, output, none, [], []⟩

/-- A run whose evaluation has no answer. -/
def unanswered (output : String) (log : List LogEntry) : Outcome := ⟨1, output, none, [], log⟩

/-- A run that is refused. -/
def refused (form : Form) (cause : Misuse) : Outcome := ⟨2, "", some (form, cause), [], []⟩

end Outcome

/-- The provider of a location that is given on the command line. -/
def provider : String := "cli"

/-- The line that says why there are no boundaries. -/
def absenceLine (e : Failure) : String :=
  (Json.object [("error", .text e.message), ("state", .null)]).sorted.render ++ "\n"

/-- Evaluates once, at a moment or else now. The clock is read in universal time. -/
def evaluateOnce (calculator : Calculator) (latitude longitude : Float) (zone : Option String)
    (instant : Option Moment) (now : Moment) : Except Failure Outcome := do
  let now ← match instant with
    | some instant => .ok instant
    | none => now.inZone .utc
  let location ← Location.make latitude longitude none none provider
  let zone ← Zone.resolve zone
  match Daylight.evaluate calculator (some location) now zone with
  | .ok state => return .success (← stateLine now state)
  | .error e =>
    if e.kind = .calculation then
      return .unanswered (absenceLine e) (Service.absenceEntries (some location) e)
    else throw e

/-- Watches while the clock goes on. -/
def watchThrough (calculator : Calculator) (latitude longitude : Float) (zone : Option String) (now : Moment)
    (nows : List Moment) : Except Failure Outcome := do
  let w ← Watch.start calculator latitude longitude zone now
  let stages := w.stages nows
  return { Outcome.success (String.join (stages.flatMap (·.lines))) with
    alarms := stages.map (·.pending?)
    log := stages.flatMap (·.log) }

/-- Runs a command, when the clock shows `now` and then goes on to `nows`. -/
def Command.run (c : Command) (calculator : Calculator) (now : Moment) (nows : List Moment) :
    Except Failure Outcome :=
  match c with
  | nothing => .ok (.success "")
  | evaluate latitude longitude instant zone =>
    evaluateOnce calculator latitude longitude zone instant now
  | watch latitude longitude zone => watchThrough calculator latitude longitude zone now nows

/-- How the program ends when it does not get as far as a command. -/
def Stop.outcome : Stop → Except Failure Outcome
  | misuse form cause => .ok (.refused form cause)
  | version => .ok (.success (Form.versionText ++ "\n"))
  | help form => .ok (.success (form.usage ++ "\n"))
  | failure e => .error e

/-- Runs the program with its arguments, where a calculator knows the events. -/
def runWith (calculator : Calculator) (args : List String) (now : Moment) (nows : List Moment) :
    Except Failure Outcome :=
  match Call.ofArguments args with
  | .ok call => call.command.run calculator now nows
  | .error stop => stop.outcome

/-- Runs the program with its arguments. -/
def run (args : List String) (now : Moment) (nows : List Moment) : Except Failure Outcome :=
  runWith Solar.calculator args now nows

end Daylight.Cli
