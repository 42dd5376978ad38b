import Daylight.Tracker

/-!
# The service

The service is the board with the tracker as its owner. A cycle evaluates the boundaries, publishes
them if they changed, mirrors the flag then, and asks for a wake-up at the next transition. An
evaluation that finds no sunrise or sunset is logged and changes nothing; any other failure ends the
cycle. Without a location there is nothing to evaluate: that there are no boundaries is published,
and no wake-up is asked for.

The loop takes triggers off the queue until it comes to a stop signal. It runs when the service is
stopped, which waits for it; triggers can also be processed at any other time by the caller.
-/

namespace Daylight

/-- The board with the tracker. -/
abbrev Service := Board Tracker

namespace Service

/-- Puts a trigger on the queue. -/
def submit (s : Service) (trigger : Trigger) : Service := s.mapOwner (·.submit trigger)

/-- An optional value, as the log shows it. -/
def stateText : Option Boundaries → String := Location.optionText Boundaries.listing

/-- Takes a fix, unless there is none or it is null island. -/
def onLocation (s : Service) (fix : Option Location) : Service :=
  match fix.filter Tracker.isGood with
  | none => s.report ⟨.warning, "Ignoring empty location fix: " ++
      Location.optionText Location.listing fix, none⟩
  | some fix =>
    let s := s.report ⟨.info, "Location changed: provider=" ++ fix.provider ++
      " accuracy=" ++ Location.optionText Decimal.floatText fix.accuracy ++
      " time=" ++ Location.optionText Moment.text fix.timestamp, none⟩
    submit (s.mapOwner (·.remember fix)) .locationChanged

/-- The clock or the zone was changed. -/
def onTimeChanged (s : Service) : Service := submit s .timeChanged

/-- The wake-up has come. -/
def onAlarm (s : Service) : Service := submit s .alarm

/-! ### The cycle -/

/-- Why an evaluation is done, as the log shows it. -/
def reasonText (reason : Option Trigger) : String :=
  (reason.map Trigger.text).getD "direct call"

/-- The log entry for an event that the sun's course does not have. -/
def absenceEntry (location : Location) (query : Query) (absence : Absence) : LogEntry :=
  ⟨.warning, "No " ++ query.event.text ++ " on " ++ query.day.text ++
    " at lat=" ++ Decimal.fixedText 4 location.latitude ++
    " lon=" ++ Decimal.fixedText 4 location.longitude ++ ": " ++ absence.text, none⟩

/-- The log entries for a failure: why the sun's course has no answer, if that is the cause. -/
def absenceEntries (location : Option Location) (e : Failure) : List LogEntry :=
  match location, e with
  | some location, .noEvent query (some absence) => [absenceEntry location query absence]
  | _, _ => []

/-- Logs why the sun's course has no answer, if that is why an evaluation failed. -/
def reportAbsence (s : Service) (location : Option Location) (e : Failure) : Service :=
  (absenceEntries location e).foldl Board.report s

/-- Writes the flag to the mirror; a failure is logged. -/
def mirrorFlag (s : Service) (flag : Bool) : Service :=
  match s.owner.mirror.set flag with
  | .ok mirror => s.mapOwner fun t => { t with mirror := mirror }
  | .error e => s.report ⟨.error, "Failed to mirror is-night flag to settings", some e⟩

/-- Asks for a wake-up. -/
def schedule (s : Service) (wanted : Moment) : Service × Except Failure Unit :=
  match s.owner.alarms with
  | .manual _ => (s.mapOwner fun t => { t with alarms := .manual (some wanted) }, .ok ())
  | .timers clock =>
    let (clock, started) := clock.schedule wanted s.owner.clock.now ()
    let s := s.mapOwner fun t => { t with alarms := .timers clock }
    match started with
    | .ok none => (s, .ok ())
    | .ok (some timer) => (s.report timer.startedEntry, .ok ())
    | .error e => (s, .error e)

/-- Mirrors the flag of boundaries that were published just now. -/
def mirrorNight (s : Service) (now : Moment) (b : Boundaries) : Service × Except Failure Unit :=
  match b.isNight now with
  | .ok flag => (mirrorFlag s flag, .ok ())
  | .error e => (s, .error e)

/-- Asks for the wake-up at the next transition. -/
def scheduleNext (s : Service) (now : Moment) (b : Boundaries) : Service × Except Failure Unit :=
  match b.nextTransition now with
  | .ok next => schedule s next
  | .error e => (s, .error e)

/-- Publishes, and logs a change. -/
def announce (react : Reaction Tracker) (s : Service) (reason : Option Trigger)
    (state : Option Boundaries) : Service × Bool :=
  let (s, changed) := s.publish react state
  if changed then
    (s.report ⟨.info, "Twilight state changed on " ++ reasonText reason ++ ": " ++ stateText state,
      none⟩, true)
  else (s, false)

/-- What follows an evaluation. -/
def conclude (react : Reaction Tracker) (s : Service) (reason : Option Trigger) (now : Moment)
    (state : Option Boundaries) : Service × Except Failure (Option Boundaries) :=
  let (s, changed) := announce react s reason state
  match state with
  | none => (s, .ok none)
  | some b =>
    let (s, mirrored) := if changed then mirrorNight s now b else (s, .ok ())
    match mirrored with
    | .error e => (s, .error e)
    | .ok () =>
      match scheduleNext s now b with
      | (s, .ok ()) => (s, .ok (some b))
      | (s, .error e) => (s, .error e)

/-- One evaluation with what follows from it. The answer is what was evaluated; it is none also when
an event is missing. -/
def cycle (react : Reaction Tracker) (s : Service) (reason : Option Trigger) :
    Service × Except Failure (Option Boundaries) :=
  let location := s.owner.location?
  let now := s.owner.clock.now
  match s.owner.clock.zone with
  | .error e => (s, .error e)
  | .ok zone =>
    let inquiry := inquire s.owner.almanac.calculator location now zone
    let s := s.mapOwner fun t => { t with asked := t.asked ++ inquiry.asked }
    match inquiry.outcome with
    | .ok state => conclude react s reason now state
    | .error e =>
      let s := reportAbsence s location e
      if e.kind = .calculation then
        (s.report ⟨.warning, "Twilight evaluation failed on " ++ reasonText reason ++ ": " ++
          e.message, none⟩, .ok none)
      else (s, .error e)

/-- Processes a trigger; a failure is logged. -/
def process (react : Reaction Tracker) (s : Service) (trigger : Trigger) : Service :=
  match cycle react s (some trigger) with
  | (s, .ok _) => s
  | (s, .error e) =>
    s.report ⟨.error, "Unhandled error while processing trigger " ++ trigger.text, some e⟩

/-- Processes triggers up to the first stop signal or the end of the queue, at most `bound` of them.
The answer is how many were processed. -/
def drain (react : Reaction Tracker) : Nat → Service → Service × Nat
  | 0, s => (s, 0)
  | bound + 1, s =>
    match s.owner.queue with
    | [] => (s, 0)
    | .stop :: rest => (s.mapOwner fun t => { t with queue := rest }, 0)
    | .trigger trigger :: rest =>
      let s := process react (s.mapOwner fun t => { t with queue := rest }) trigger
      let (s, count) := drain react bound s
      (s, count + 1)

/-- How many triggers may come from listeners while the queue is processed. -/
def patience : Nat := 4096

/-- Processes what is on the queue, and what comes while it is processed. -/
def runPending (react : Reaction Tracker) (s : Service) : Service × Nat :=
  drain react (s.owner.queue.length + patience) s

/-- Runs the loop until it takes a stop signal. -/
def runLoop (react : Reaction Tracker) (s : Service) : Service :=
  let (s, _) := drain react (s.owner.queue.length + patience) s
  s.report ⟨.info, "Twilight scheduler stopped", none⟩

/-! ### Starting and stopping -/

/-- Asks the source for its next fix. A location that never changes is handed over at once. -/
def requestSingle (s : Service) : Service :=
  match s.owner.source with
  | .feed f => s.mapOwner fun t => { t with source := .feed (f.requestSingle ()) }
  | .fixed location => onLocation s (some location)
  | .device fix waiting => s.mapOwner fun t => { t with source := .device fix (waiting + 1) }

/-- Starts the loop: asks for fixes and submits the first trigger. -/
def start (s : Service) : Service × Except Failure Unit :=
  if s.owner.isRunning then (s, .error .alreadyStarted)
  else
    let s := s.report ⟨.info, "Starting twilight scheduler", none⟩
    let s := s.mapOwner fun t => { t with source := t.source.requestUpdates }
    let s := if s.owner.source.lastFix.isNone then requestSingle s else s
    let s := submit s .startup
    (s.mapOwner fun t => { t with isRunning := true }, .ok ())

/-- Ends the loop, if it was started, and drops the wake-up. -/
def stopLoop (react : Reaction Tracker) (s : Service) : Service :=
  let s :=
    if s.owner.isRunning then
      let s := s.mapOwner (·.enqueue .stop)
      let s := if s.owner.waits then runLoop react s else s
      s.mapOwner fun t => { t with isRunning := false }
    else s
  s.mapOwner fun t => { t with alarms := t.alarms.cancel }

/-- Closes the shared worker, if there is one. -/
def closeShared (s : Service) : Service :=
  match s.owner.shared with
  | none => s
  | some generation =>
    (s.shutDown (.shared generation)).mapOwner fun t => { t with shared := none }

/-- Stops the service. -/
def stop (react : Reaction Tracker) (s : Service) : Service := closeShared (stopLoop react s)

/-! ### The public surface -/

/-- The shared worker, made if there is none. -/
def openShared (s : Service) : Service × ContextId :=
  match s.owner.shared with
  | some generation => (s, .shared generation)
  | none =>
    let id := ContextId.shared s.owner.sharedCount
    let s := s.mapOwner fun t =>
      { t with shared := some t.sharedCount, sharedCount := t.sharedCount + 1 }
    ({ s with contexts := s.contexts ++ [(id, .ofKind .worker)] }, id)

/-- Registers a listener; without a context it shares a worker with all others that bring none. -/
def registerListener (s : Service) (listener : String) (context : Option ContextId) : Service :=
  match context with
  | some id => s.register listener id
  | none =>
    let (s, id) := openShared s
    s.register listener id

/-- Hands a fix to the tracker as often as the feed's callbacks ask for it. -/
def handOver (s : Service) (fix : Location) (callbacks : List Unit) : Service :=
  callbacks.foldl (fun s _ => onLocation s (some fix)) s

/-- Reports a fix: through the feed, if there is one, and else to the tracker. -/
def reportLocation (s : Service) (fix : Location) : Service :=
  match s.owner.source with
  | .feed f =>
    let (f, callbacks) := f.push fix
    handOver (s.mapOwner fun t => { t with source := .feed f }) fix callbacks
  | _ => onLocation s (some fix)

/-- Runs the callback of a timer, or the wake-up that is remembered. The answer is whether there is
such a timer or wake-up. -/
def fire (s : Service) (number : Option Int) : Service × Bool :=
  match s.owner.alarms with
  | .manual none => (s, false)
  | .manual (some _) =>
    (onAlarm (s.mapOwner fun t => { t with alarms := .manual none }), true)
  | .timers clock =>
    match clock.place? (number.getD (-1)) with
    | none => (s, false)
    | some place =>
      let (clock, task) := clock.fire place
      let s := s.mapOwner fun t => { t with alarms := .timers clock }
      match task with
      | none => (s, true)
      | some () => (onAlarm (s.report firedEntry), true)

/-- Hands a fix to the one-shot requests of a device; the answer is their number. -/
def handSingle (s : Service) (fix : Location) : Service × Nat :=
  match s.owner.source with
  | .device last waiting =>
    let s := s.mapOwner fun t => { t with source := .device last 0 }
    (handOver s fix (List.replicate waiting ()), waiting)
  | _ => (s, 0)

end Service

end Daylight
