import Daylight.Decimal.Fixed
import Daylight.Decimal.Reader
import Daylight.Log
import Daylight.Time.Notation

/-!
# The wake-up alarm

An alarm clock has at most one pending wake-up. Scheduling one arms a timer with the time that is
left, measured once against the clock; it cancels the timer of another instant, and changes nothing
when the same instant is pending already. Timers are kept after they have fired or were cancelled,
because their callback may still be run, late or more than once: it then finds that its timer is not
the live one and does nothing.
-/

namespace Daylight

/-- A timer that was started. -/
structure Timer (κ : Type) where
  /-- The instant of the wake-up, in universal time. -/
  due : Moment
  /-- The microseconds that were left when the timer was started. -/
  delay : Int
  /-- Whether it was cancelled. -/
  cancelled : Bool
  /-- Whether its task was run. -/
  fired : Bool
  /-- What is to be done at the wake-up. -/
  task : κ
  deriving DecidableEq, Repr

/-- All timers that were started, and the number of the one that is live. -/
structure AlarmClock (κ : Type) where
  /-- The timers in the order in which they were started. -/
  timers : List (Timer κ)
  /-- The number of the live timer. -/
  live : Option Nat
  deriving DecidableEq, Repr

namespace AlarmClock

variable {κ : Type}

/-- The clock with no timer. -/
def empty : AlarmClock κ := ⟨[], none⟩

/-- The live timer. -/
def liveTimer? (a : AlarmClock κ) : Option (Timer κ) := a.live.bind fun i => a.timers[i]?

/-- The instant of the pending wake-up. -/
def pending? (a : AlarmClock κ) : Option Moment := a.liveTimer?.map (·.due)

/-- Cancels the live timer. -/
def cancel (a : AlarmClock κ) : AlarmClock κ :=
  match a.live with
  | none => a
  | some i => ⟨a.timers.modify i fun t => { t with cancelled := true }, none⟩

/-- Starts a timer for the only wake-up. -/
def arm (a : AlarmClock κ) (due : Moment) (delay : Int) (task : κ) : AlarmClock κ :=
  ⟨a.timers ++ [⟨due, delay, false, false, task⟩], some a.timers.length⟩

/-- Asks for a wake-up when the clock shows `now`. The answer is the timer that was started, or none
when this wake-up is pending already. If the time that is left cannot be told, the wake-up before is
cancelled all the same. -/
def schedule (a : AlarmClock κ) (wanted now : Moment) (task : κ) :
    AlarmClock κ × Except Failure (Option (Timer κ)) :=
  match wanted.toUtc with
  | .error e => (a, .error e)
  | .ok due =>
    if a.pending?.map (·.wall) = some due.wall then (a, .ok none)
    else
      let a := a.cancel
      match due.since now with
      | .error e => (a, .error e)
      | .ok left =>
        let a := a.arm due (max 0 left) task
        (a, .ok a.liveTimer?)

/-- The place of a timer that is given by a number, if there is one. Numbers below zero count from
the timer that was started last. -/
def place? (a : AlarmClock κ) (number : Int) : Option Nat :=
  let place := if number < 0 then number + a.timers.length else number
  if 0 ≤ place ∧ place < a.timers.length then some place.toNat else none

/-- Runs the callback of a timer: the task of the live timer is due, any other callback does
nothing. -/
def fire (a : AlarmClock κ) (number : Nat) : AlarmClock κ × Option κ :=
  if a.live = some number then
    (⟨a.timers.modify number fun t => { t with fired := true }, none⟩,
      a.timers[number]?.map (·.task))
  else (a, none)

end AlarmClock

/-- The delay of a timer in seconds. -/
def Timer.seconds {κ : Type} (t : Timer κ) : Float :=
  (Decimal.Numeral.mk false t.delay.toNat (-6)).toFloat

/-- The log entry for a timer that was started. -/
def Timer.startedEntry {κ : Type} (t : Timer κ) : LogEntry :=
  ⟨.info, "Scheduled wake-up at " ++ t.due.text ++ " (in " ++ Decimal.fixedText 0 t.seconds ++ "s)",
    none⟩

/-- The log entry for a wake-up. -/
def firedEntry : LogEntry := ⟨.info, "Wake-up alarm fired", none⟩

end Daylight
