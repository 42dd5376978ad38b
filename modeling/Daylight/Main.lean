import Daylight.Cli.Program
import Std.Time.DateTime.Timestamp

/-!
# The executable

The outer layer of the program: it reads the arguments and the system's clock, prints, and sleeps
until the next wake-up. The arguments are read, and everything is decided, in `Daylight.Cli`.
-/

namespace Daylight.Main

open Cli

/-- The moment that the system's clock shows. -/
def currentMoment : IO Moment := do
  let timestamp ← Std.Time.Timestamp.now
  return .ofInstant (timestamp.toNanosecondsSinceUnixEpoch.val / 1000)

/-- The rank of the least level that the log shows. -/
def threshold (logLevel : String) : Nat := Options.logLevels.idxOf logLevel

/-- Writes log entries to standard error. -/
def writeLog (logLevel : String) (now : Moment) (log : List LogEntry) : IO Unit :=
  for entry in log do
    if threshold logLevel ≤ entry.level.rank then
      IO.eprintln (now.text ++ " " ++ entry.level.text ++ ": " ++ entry.text)

/-- Writes text to standard output at once. -/
def write (text : String) : IO Unit := do
  let out ← IO.getStdout
  out.putStr text
  out.flush

/-- The longest sleep, in milliseconds. -/
def longestSleep : Nat := 1000

/-- The milliseconds until a wake-up, as far as they are slept at once. -/
def sleepUntil (due now : Moment) : Nat := min longestSleep ((due.wall - now.wall) / 1000 + 1).toNat

/-- Watches for as long as the program runs. -/
partial def keepWatching (logLevel : String) (w : Watch) : IO Unit := do
  let now ← currentMoment
  match w.pending? with
  | none =>
    IO.sleep longestSleep.toUInt32
    keepWatching logLevel w
  | some due =>
    if due.wall ≤ now.wall then
      let w := w.advance now
      write (String.join w.lines)
      writeLog logLevel now w.log
      keepWatching logLevel w
    else
      IO.sleep (sleepUntil due now).toUInt32
      keepWatching logLevel w

/-- Ends the program with a failure. -/
def fail (e : Failure) : IO UInt32 := do
  IO.eprintln e.message
  return 1

/-- Ends the program with an outcome. -/
def finish (logLevel : String) (now : Moment) (o : Outcome) : IO UInt32 := do
  write o.output
  writeLog logLevel now o.log
  match o.complaint with
  | some (form, cause) => IO.eprintln (form.usage ++ "\n" ++ cause.complaint form)
  | none => pure ()
  return o.exit.toUInt32

/-- Makes a call. -/
def perform (call : Call) (now : Moment) : IO UInt32 := do
  match call.command with
  | .watch latitude longitude zone =>
    match Watch.start Solar.calculator latitude longitude zone now with
    | .ok w =>
      write (String.join w.lines)
      writeLog call.logLevel now w.log
      keepWatching call.logLevel w
      return 0
    | .error e => fail e
  | command =>
    match command.run Solar.calculator now [] with
    | .ok outcome => finish call.logLevel now outcome
    | .error e => fail e

end Daylight.Main

/-- Runs the program. -/
def main (args : List String) : IO UInt32 := do
  let now ← Daylight.Main.currentMoment
  match Daylight.Cli.Call.ofArguments args with
  | .ok call => Daylight.Main.perform call now
  | .error stop =>
    match stop.outcome with
    | .ok outcome => Daylight.Main.finish Daylight.Cli.Options.none.logLevel now outcome
    | .error e => Daylight.Main.fail e
