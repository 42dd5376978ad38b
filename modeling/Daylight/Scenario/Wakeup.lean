import Daylight.Alarm
import Daylight.Scenario.Basic

/-!
# Wake-ups

An alarm clock at work: wake-ups are asked for and dropped, the clock is set, and callbacks of
timers are run, late or more than once if need be. A wake-up has a label, and what is done when it
comes is again a list of actions, so a wake-up can ask for the next one, or fail.

The actions of a wake-up are done at most once, since its timer is live at most once. So a wake-up
can come inside of at most as many others as wake-ups are asked for.
-/

namespace Daylight.Scenario

/-- What can be done to an alarm clock. -/
inductive AlarmAction where
  /-- Ask for a wake-up, with a label and what is to be done then. -/
  | schedule (wanted : Moment) (label : String) (behind : List AlarmAction)
  /-- Drop the pending wake-up. -/
  | cancel
  /-- Set the clock. -/
  | setNow (now : Moment)
  /-- Run the callback of a timer. -/
  | fire (number : Int)
  /-- Fail. -/
  | fail (failure : Failure)
  deriving Inhabited

mutual

/-- The number of wake-ups that an action may ask for, counting those inside it. -/
def AlarmAction.weight : AlarmAction → Nat
  | schedule _ _ behind => AlarmAction.totalWeight behind + 1
  | _ => 0

/-- The number of wake-ups that actions may ask for. -/
def AlarmAction.totalWeight : List AlarmAction → Nat
  | [] => 0
  | action :: actions => action.weight + AlarmAction.totalWeight actions

end

/-- What is to be done at a wake-up. -/
structure Wakeup where
  /-- Its label. -/
  label : String
  /-- The actions. -/
  actions : List AlarmAction

/-- An alarm clock at work. -/
structure Bedside where
  /-- The alarm clock. -/
  clock : AlarmClock Wakeup
  /-- What the wall clock shows. -/
  now : Moment
  /-- The wake-ups that have come, with what was pending then. -/
  woken : List (String × Option Moment)
  /-- The log. -/
  log : List LogEntry

namespace Bedside

/-- An alarm clock with nothing pending. -/
def ofNow (now : Moment) : Bedside := ⟨.empty, now, [], []⟩

/-- Asks for a wake-up. -/
def schedule (b : Bedside) (wanted : Moment) (wakeup : Wakeup) : Bedside × Except Failure Unit :=
  let (clock, started) := b.clock.schedule wanted b.now wakeup
  let b := { b with clock := clock }
  match started with
  | .error e => (b, .error e)
  | .ok none => (b, .ok ())
  | .ok (some timer) => ({ b with log := b.log ++ [timer.startedEntry] }, .ok ())

/-- Notes that a wake-up has come. -/
def wake (b : Bedside) (wakeup : Wakeup) : Bedside :=
  { b with
    woken := b.woken ++ [(wakeup.label, b.clock.pending?)]
    log := b.log ++ [firedEntry] }

/-- Runs the callback of a timer; what is due is done by `perform`. -/
def fire (perform : Bedside → AlarmAction → Bedside × Except Failure Unit) (b : Bedside)
    (number : Int) : Bedside × Except Failure Unit :=
  match b.clock.place? number with
  | none => (b, .ok ())
  | some place =>
    let (clock, due) := b.clock.fire place
    let b := { b with clock := clock }
    match due with
    | none => (b, .ok ())
    | some wakeup => performAll perform (b.wake wakeup) wakeup.actions

/-- Performs an action, with wake-ups inside at most so many others. -/
def perform : Nat → Bedside → AlarmAction → Bedside × Except Failure Unit
  | _, b, .schedule wanted label behind => b.schedule wanted ⟨label, behind⟩
  | _, b, .cancel => ({ b with clock := b.clock.cancel }, .ok ())
  | _, b, .setNow now => ({ b with now := now }, .ok ())
  | _, b, .fail failure => (b, .error failure)
  | 0, b, .fire _ => (b, .ok ())
  | depth + 1, b, .fire number => fire (perform depth) b number

/-- Performs an action from outside, with nothing noted before it. -/
def step (depth : Nat) (b : Bedside) (action : AlarmAction) : Episode Bedside Unit :=
  let (b, answer) := perform depth { b with woken := [], log := [] } action
  ⟨answer, b⟩

/-- Performs actions one after the other. -/
def play (b : Bedside) (actions : List AlarmAction) : List (Episode Bedside Unit) :=
  Scenario.play (step (AlarmAction.totalWeight actions + 1)) b actions

end Bedside

end Daylight.Scenario
