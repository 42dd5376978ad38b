import Daylight.Proofs.Arrivals
import Daylight.Proofs.LiveTimer
import Daylight.Proofs.Leftover
import Daylight.Proofs.Publishing

/-!
# What is put on the queue, and what is taken off it

Triggers come from everywhere: fixes, changes of the time, the callbacks of timers, requests, the start, and
listeners in the middle of a cycle. Each is put on the queue behind all others (`Adds`), and nothing but
processing takes anything off it. What is processed is a list of cycles (`turns`), each for the trigger that
stood first.

The signal to stop is put on the queue, too. The loop takes what stands before it, and the signal last. What
is submitted in the meantime stands behind it.

## What is proved

* `adds_onLocation`, `adds_start`, `adds_fire`, `adds_respond` and others: what is submitted from outside.
* `addsSome_cycle`: a cycle takes nothing off the queue, however it ends.
* `queue_of_drain`, `drain_to_stop`: what processing the queue does to it, without a signal to stop and
  with one. No trigger is lost, and none comes before its time.
* `rings_drain`, `rings_stop`: all this does nothing to the timers but call the alarm clock.
-/

namespace Daylight

/-- The trigger of a signal. -/
def Signal.trigger? : Signal → Option Trigger
  | .trigger t => some t
  | .stop => none

theorem filterMap_trigger? (ts : List Trigger) : (ts.map Signal.trigger).filterMap Signal.trigger? = ts := by
  induction ts with
  | nil => rfl
  | cons t ts ih => rw [List.map_cons, List.filterMap_cons, Signal.trigger?, ih]

namespace Service

/-- The triggers on the queue. -/
def waiting (s : Service) : List Trigger := s.owner.queue.filterMap Signal.trigger?

theorem waiting_of_queue {s : Service} {ts : List Trigger} (h : s.owner.queue = ts.map .trigger) :
    s.waiting = ts := by
  rw [waiting, h, filterMap_trigger?]

/-- At most, the alarm clock is called. Stopping waits for the loop if it did before. -/
structure Rings (s s' : Service) : Prop where
  /-- Stopping waits for the loop as before. -/
  waits : s'.owner.waits = s.owner.waits
  /-- The timers are those after some calls. -/
  alarms : ∀ clock, s.owner.alarms = .timers clock →
    ∃ calls, s'.owner.alarms = .timers (runCalls AlarmClock.step clock calls).1

/-- Triggers are put on the queue, and none is taken off it. -/
structure Adds (s : Service) (more : List Trigger) (s' : Service) : Prop extends Rings s s' where
  /-- The triggers are put behind all others. -/
  queue : s'.owner.queue = s.owner.queue ++ more.map .trigger

section

variable {s s' s'' : Service} {more later : List Trigger}

theorem rings_of_alarms (hw : s'.owner.waits = s.owner.waits) (ha : s'.owner.alarms = s.owner.alarms) :
    s.Rings s' :=
  ⟨hw, fun _ hclock => ⟨[], ha.trans hclock⟩⟩

theorem Rings.refl (s : Service) : s.Rings s := rings_of_alarms rfl rfl

theorem Rings.trans (h : s.Rings s') (h' : s'.Rings s'') : s.Rings s'' := by
  refine ⟨h'.waits.trans h.waits, fun clock hclock => ?_⟩
  obtain ⟨calls, hcalls⟩ := h.alarms clock hclock
  obtain ⟨calls', hcalls'⟩ := h'.alarms _ hcalls
  exact ⟨calls ++ calls', by rw [runCalls_append, hcalls']⟩

/-- What leaves the queue and the timers alone. -/
theorem adds_of_eq (hq : s'.owner.queue = s.owner.queue) (hw : s'.owner.waits = s.owner.waits)
    (ha : s'.owner.alarms = s.owner.alarms) : s.Adds [] s' :=
  ⟨rings_of_alarms hw ha, hq.trans (List.append_nil _).symm⟩

theorem adds_of_owner (h : s'.owner = s.owner) : s.Adds [] s' :=
  adds_of_eq (by rw [h]) (by rw [h]) (by rw [h])

theorem Adds.refl (s : Service) : s.Adds [] s := adds_of_owner rfl

theorem Adds.trans (h : s.Adds more s') (h' : s'.Adds later s'') : s.Adds (more ++ later) s'' :=
  ⟨h.toRings.trans h'.toRings, by rw [h'.queue, h.queue, List.map_append, List.append_assoc]⟩

theorem Adds.waiting (h : s.Adds more s') : s'.waiting = s.waiting ++ more := by
  rw [Service.waiting, h.queue, List.filterMap_append, filterMap_trigger?]
  rfl

theorem Adds.afterwards (h : s.Adds [] s') (h' : s'.Adds more s'') : s.Adds more s'' := h.trans h'

theorem Adds.quietly (h : s.Adds more s') (h' : s'.Adds [] s'') : s.Adds more s'' := by
  have hboth := h.trans h'
  rwa [List.append_nil] at hboth

/-! ### What is submitted from outside -/

/-- What a fix puts on the queue. -/
def located (fix : Option Location) : List Trigger :=
  if (fix.filter Tracker.isGood).isSome then [.locationChanged] else []

/-- What a fix puts on the queue that is reported to the service: once for every callback of the feed. -/
def reported (s : Service) (fix : Location) : List Trigger :=
  match s.owner.source with
  | .feed f => (f.push fix).2.flatMap fun _ => located (some fix)
  | _ => located (some fix)

/-- What a fix puts on the queue that is handed to the one-shot requests of a device. -/
def handed (s : Service) (fix : Location) : List Trigger :=
  match s.owner.source with
  | .device _ waiting => (List.replicate waiting ()).flatMap fun _ => located (some fix)
  | _ => []

/-- What the callback of a timer puts on the queue: the wake-up, if the timer is the live one. -/
def rung (s : Service) (number : Option Int) : List Trigger :=
  match s.owner.alarms with
  | .manual pending => if pending.isSome then [.alarm] else []
  | .timers clock => if clock.place? (number.getD (-1)) = clock.live ∧ clock.live.isSome then [.alarm] else []

/-- What a request for a route puts on the queue. -/
def followed (s : Service) (route : Web.Route) (body : Web.Body) : List Trigger :=
  match route with
  | .twilight => []
  | .timeChanged => [.timeChanged]
  | .location =>
    match Web.readFix body with
    | .ok (.ok fix) => s.reported fix
    | _ => []

/-- What a request puts on the queue. -/
def requested (s : Service) (r : Web.Request) : List Trigger :=
  match Web.Route.ofPath? (Web.barePath (Web.Target.path r.target)) with
  | some route => if r.method.toUpper = route.method then s.followed route r.body else []
  | none => []

theorem adds_mapOwner (s : Service) (change : Tracker → Tracker)
    (hq : (change s.owner).queue = s.owner.queue) (hw : (change s.owner).waits = s.owner.waits)
    (ha : (change s.owner).alarms = s.owner.alarms) : s.Adds [] (s.mapOwner change) :=
  adds_of_eq hq hw ha

theorem adds_report (s : Service) (entry : LogEntry) : s.Adds [] (s.report entry) :=
  adds_of_owner (owner_report s entry)

theorem adds_submit (s : Service) (trigger : Trigger) : s.Adds [trigger] (s.submit trigger) :=
  ⟨rings_of_alarms rfl rfl, rfl⟩

theorem adds_onLocation (s : Service) (fix : Option Location) :
    s.Adds (located fix) (s.onLocation fix) := by
  unfold onLocation located
  cases fix.filter Tracker.isGood with
  | none => exact adds_report s _
  | some fix =>
    constructor
    · apply rings_of_alarms <;> simp [submit, Board.mapOwner, Tracker.submit, Tracker.enqueue, Tracker.remember]
    · simp [submit, Board.mapOwner, Tracker.submit, Tracker.enqueue, Tracker.remember]

theorem adds_handOver (s : Service) (fix : Location) (callbacks : List Unit) :
    s.Adds (callbacks.flatMap fun _ => located (some fix)) (s.handOver fix callbacks) := by
  induction callbacks generalizing s with
  | nil => exact Adds.refl s
  | cons _ callbacks ih => exact (adds_onLocation s (some fix)).trans (ih _)

theorem adds_reportLocation (s : Service) (fix : Location) :
    s.Adds (s.reported fix) (s.reportLocation fix) := by
  unfold reported reportLocation
  cases s.owner.source with
  | feed f =>
    have hstored := adds_mapOwner s (fun t => { t with source := .feed (f.push fix).1 }) rfl rfl rfl
    exact hstored.trans (adds_handOver _ fix _)
  | fixed location => exact adds_onLocation s (some fix)
  | device last waiting => exact adds_onLocation s (some fix)

theorem adds_handSingle (s : Service) (fix : Location) : s.Adds (s.handed fix) (s.handSingle fix).1 := by
  unfold handed handSingle
  cases s.owner.source with
  | feed f => exact Adds.refl s
  | fixed location => exact Adds.refl s
  | device last waiting =>
    have hdrained := adds_mapOwner s (fun t => { t with source := .device last 0 }) rfl rfl rfl
    exact hdrained.trans (adds_handOver _ fix _)

theorem adds_registerListener (s : Service) (listener : String) (context : Option ContextId) :
    s.Adds [] (s.registerListener listener context) := by
  unfold registerListener openShared
  cases context with
  | some id => exact adds_of_owner rfl
  | none =>
    cases s.owner.shared with
    | some generation => exact adds_of_owner rfl
    | none => exact adds_of_eq rfl rfl rfl

/-- Starting submits the first trigger, and nothing else: a source that hands its location over at once
knows one already. -/
theorem adds_start (s : Service) :
    s.Adds (if s.owner.isRunning then [] else [.startup]) s.start.1 := by
  unfold start
  split
  · exact Adds.refl s
  · have hlogged := adds_report s ⟨.info, "Starting twilight scheduler", none⟩
    have hasked := hlogged.trans
      (adds_mapOwner _ (fun t => { t with source := t.source.requestUpdates }) rfl rfl rfl)
    refine Adds.quietly (Adds.afterwards (hasked.trans ?_) (adds_submit _ .startup))
      (adds_mapOwner _ (fun t => { t with isRunning := true }) rfl rfl rfl)
    split
    · rename_i hnone
      unfold requestSingle
      split
      · exact adds_mapOwner _ _ rfl rfl rfl
      · rename_i location hsource
        rw [hsource] at hnone
        cases hnone
      · exact adds_mapOwner _ _ rfl rfl rfl
    · exact Adds.refl _

/-- The callback of a timer calls the alarm clock. -/
theorem adds_fire (s : Service) (number : Option Int) : s.Adds (s.rung number) (s.fire number).1 := by
  unfold rung fire
  cases halarms : s.owner.alarms with
  | manual pending =>
    have hmanual : ∀ s' : Service, s'.owner.waits = s.owner.waits → s.Rings s' := fun s' hw =>
      ⟨hw, fun clock hclock => absurd (halarms.symm.trans hclock) (by simp)⟩
    cases pending with
    | none => exact Adds.refl s
    | some at' => exact ⟨hmanual _ rfl, rfl⟩
  | timers clock =>
    dsimp only
    cases hplace : clock.place? (number.getD (-1)) with
    | none =>
      rw [if_neg (by rintro ⟨hnone, hsome⟩; rw [← hnone] at hsome; cases hsome)]
      exact Adds.refl s
    | some place =>
      have hrings : ∀ s' : Service, s'.owner.waits = s.owner.waits →
          s'.owner.alarms = .timers (clock.fire place).1 → s.Rings s' := fun s' hw ha => by
        refine ⟨hw, fun clock' hclock' => ⟨[.callback place], ?_⟩⟩
        obtain rfl := Alarms.timers.inj (halarms.symm.trans hclock')
        exact ha
      by_cases hlive : clock.live = some place
      · have hdue : (clock.fire place).2 = some () := by
          simp [AlarmClock.fire, hlive, List.getElem?_eq_getElem (AlarmClock.lt_of_place? hplace)]
        rw [if_pos ⟨hlive.symm, by simp [hlive]⟩]
        dsimp only
        rw [hdue]
        constructor
        · apply hrings <;> simp [onAlarm, submit, Board.mapOwner, Tracker.submit, Tracker.enqueue]
        · simp [onAlarm, submit, Board.mapOwner, Tracker.submit, Tracker.enqueue]
      · have hstale : (clock.fire place).2 = none := by simp only [AlarmClock.fire, if_neg hlive]
        rw [if_neg fun h => hlive h.1.symm]
        dsimp only
        rw [hstale]
        exact ⟨hrings _ rfl rfl, (List.append_nil _).symm⟩

theorem adds_follow (s : Service) (route : Web.Route) (body : Web.Body) :
    s.Adds (s.followed route body) (Web.follow s route body).1 := by
  cases route with
  | twilight => exact Adds.refl s
  | timeChanged => exact adds_submit s .timeChanged
  | location =>
    simp only [followed, Web.follow, Web.takeFix]
    cases Web.readFix body with
    | error refusal => exact Adds.refl s
    | ok outcome =>
      cases outcome with
      | error e => exact Adds.refl s
      | ok fix => exact adds_reportLocation s fix

theorem adds_respond (s : Service) (r : Web.Request) : s.Adds (s.requested r) (Web.respond s r).1 := by
  unfold requested Web.respond
  dsimp only
  generalize Web.barePath (Web.Target.path r.target) = path
  cases Web.Route.ofPath? path with
  | some route =>
    dsimp only
    split
    · exact adds_follow s route r.body
    · exact Adds.refl s
  | none =>
    dsimp only
    split
    · exact Adds.refl s
    · split
      · exact Adds.refl s
      · exact Adds.refl s

end

/-! ### Listeners and cycles -/

/-- Some triggers are put on the queue. -/
def AddsSome (s s' : Service) : Prop := ∃ more, s.Adds more s'

/-- What the queue has gained, where nothing was taken off it. -/
def gained (s s' : Service) : List Trigger := s'.waiting.drop s.waiting.length

section

variable {s s' s'' : Service}

theorem AddsSome.refl (s : Service) : s.AddsSome s := ⟨[], Adds.refl s⟩

theorem AddsSome.trans (h : s.AddsSome s') (h' : s'.AddsSome s'') : s.AddsSome s'' := by
  obtain ⟨more, hmore⟩ := h
  obtain ⟨later, hlater⟩ := h'
  exact ⟨more ++ later, hmore.trans hlater⟩

theorem addsSome_of_owner (h : s'.owner = s.owner) : s.AddsSome s' := ⟨[], adds_of_owner h⟩

/-- Which triggers they are can be seen from the queue. -/
theorem AddsSome.adds_gained (h : s.AddsSome s') : s.Adds (s.gained s') s' := by
  obtain ⟨more, hmore⟩ := h
  have hgained : s.gained s' = more := by
    rw [gained, hmore.waiting, List.drop_left]
  rw [hgained]
  exact hmore

end

end Service

/-- Listeners that submit triggers and call the alarm clock, and leave the queue and the timers alone else. -/
def Submitting (react : Reaction Tracker) : Prop :=
  ∀ s : Service, ∀ listener state, s.AddsSome (react s listener state).1

namespace Service

/-- Asking for a wake-up calls the alarm clock. -/
theorem addsSome_schedule (s : Service) (wanted : Moment) : s.AddsSome (s.schedule wanted).1 := by
  cases halarms : s.owner.alarms with
  | manual pending =>
    refine ⟨[], ?_, ?_⟩
    · refine ⟨?_, fun clock hclock => absurd (halarms.symm.trans hclock) (by simp)⟩
      simp only [schedule, halarms, Board.mapOwner]
    · simp only [schedule, halarms, Board.mapOwner, List.map_nil, List.append_nil]
  | timers clock =>
    obtain ⟨howner, -⟩ := schedule_timers halarms wanted
    refine ⟨[], ?_, ?_⟩
    · refine ⟨by rw [howner], fun clock' hclock' => ⟨[.schedule wanted s.owner.clock.now ()], ?_⟩⟩
      obtain rfl := Alarms.timers.inj (halarms.symm.trans hclock')
      rw [howner]
      rfl
    · rw [howner, List.map_nil, List.append_nil]

section

variable {react : Reaction Tracker} (hr : Submitting react)

include hr

/-- What comes after a service, with listeners that submit. -/
theorem kept_addsSome (s : Service) : Kept react s.AddsSome :=
  ⟨fun _ write h => h.trans (addsSome_of_owner (owner_record _ write)),
    fun _ _ _ h => h.trans (addsSome_of_owner rfl),
    fun s' listener state h => h.trans (hr s' listener state)⟩

theorem addsSome_notifyAll (s : Service) (state : Option Boundaries) :
    s.AddsSome (s.notifyAll react state) :=
  (kept_addsSome hr s).notifyAll (AddsSome.refl s) state

theorem addsSome_publish (s : Service) (state : Option Boundaries) :
    s.AddsSome (s.publish react state).1 :=
  (kept_addsSome hr s).publish (fun _ _ h => h.trans (addsSome_of_owner rfl)) (AddsSome.refl s) state

theorem addsSome_run (s : Service) (id : ContextId) : s.AddsSome (s.run react id).1 :=
  (kept_addsSome hr s).run (AddsSome.refl s) id

/-- **A cycle takes nothing off the queue**, however it ends. -/
theorem addsSome_cycle (s : Service) (reason : Option Trigger) : s.AddsSome (s.cycle react reason).1 := by
  refine (kept_addsSome hr s).cycle (fun s' asked mirror h => ?_) (fun s' state h => ?_)
    (fun s' wanted h => ?_) (AddsSome.refl s) reason
  · exact h.trans ⟨[], adds_mapOwner s' _ rfl rfl rfl⟩
  · exact h.trans (addsSome_of_owner rfl)
  · exact h.trans (addsSome_schedule s' wanted)

end

end Service

/-- What listeners submit in the course of a cycle. -/
def Turn.brought (react : Reaction Tracker) (t : Turn) : List Trigger := t.before.gained (t.after react)

/-- What listeners submit in the course of several cycles. -/
def History.brought (react : Reaction Tracker) (turns : History) : List Trigger :=
  turns.flatMap (Turn.brought react)

/-- The triggers for which cycles are run. -/
def History.reasons (turns : History) : List Trigger := turns.filterMap (·.reason)

namespace Service

/-- Processing a trigger puts on the queue what its cycle does. -/
theorem adds_process {react : Reaction Tracker} (hr : Submitting react) (s : Service) (trigger : Trigger) :
    s.Adds ((⟨s, some trigger⟩ : Turn).brought react) (s.process react trigger) :=
  (addsSome_cycle hr s (some trigger)).adds_gained.quietly (adds_of_owner (owner_process react s trigger))

/-! ### Processing the queue -/

/-- The cycles that are run when the queue is processed. -/
def turns (react : Reaction Tracker) : Nat → Service → History
  | 0, _ => []
  | bound + 1, s =>
    match s.owner.queue with
    | .trigger trigger :: rest =>
      ⟨s.leave rest, some trigger⟩ :: turns react bound ((s.leave rest).process react trigger)
    | _ => []

variable {react : Reaction Tracker}

/-- Processing the queue runs these cycles, and answers with their number. -/
theorem count_drain (bound : Nat) (s : Service) :
    (s.drain react bound).2 = (s.turns react bound).length := by
  induction bound generalizing s with
  | zero => rfl
  | succ bound ih =>
    unfold drain turns
    split
    · rename_i hq
      rw [hq]
      rfl
    · rename_i hq
      rw [hq]
      rfl
    · rename_i trigger rest hq
      rw [hq]
      exact congrArg (· + 1) (ih _)

section

variable (hr : Submitting react)

include hr

theorem rings_drain (bound : Nat) (s : Service) : s.Rings (s.drain react bound).1 := by
  induction bound generalizing s with
  | zero => exact Rings.refl s
  | succ bound ih =>
    unfold drain
    split
    · exact Rings.refl s
    · exact rings_of_alarms rfl rfl
    · rename_i trigger rest hq
      have hleft : s.Rings (s.leave rest) := rings_of_alarms rfl rfl
      exact (hleft.trans (adds_process hr (s.leave rest) trigger).toRings).trans (ih _)

/-- **Processing a queue without a signal to stop**: the triggers that are taken, and then those that wait
after it, are those that waited before, and then what listeners have submitted. -/
theorem queue_of_drain (bound : Nat) {s : Service} {ts : List Trigger}
    (hq : s.owner.queue = ts.map .trigger) :
    ∃ rest, (s.drain react bound).1.owner.queue = rest.map .trigger ∧
      (s.turns react bound).reasons ++ rest = ts ++ (s.turns react bound).brought react := by
  induction bound generalizing s ts with
  | zero => exact ⟨ts, hq, (List.append_nil ts).symm⟩
  | succ bound ih =>
    cases ts with
    | nil => exact ⟨[], by simp [drain, hq], by simp [turns, hq, History.reasons, History.brought]⟩
    | cons t ts =>
      have hgrown := (adds_process hr (s.leave (ts.map .trigger)) t).queue
      simp only [leave, Board.mapOwner, ← List.map_append] at hgrown
      obtain ⟨rest, hrest, htaken⟩ := ih hgrown
      refine ⟨rest, ?_, ?_⟩
      · simp only [drain, hq, List.map_cons]
        exact hrest
      · simp only [turns, hq, List.map_cons, History.reasons, History.brought, List.filterMap_cons,
          List.flatMap_cons, List.cons_append]
        rw [List.append_assoc] at htaken
        exact congrArg (t :: ·) htaken

/-- **Processing a queue with a signal to stop**: exactly what stands before the signal is taken, and then
the signal. What listeners submit meanwhile is put behind it. -/
theorem drain_to_stop {bound : Nat} {s : Service} {ts later : List Trigger}
    (hq : s.owner.queue = ts.map .trigger ++ .stop :: later.map .trigger) (hbound : ts.length < bound) :
    (s.turns react bound).reasons = ts ∧ (s.drain react bound).1.owner.queue =
      (later ++ (s.turns react bound).brought react).map .trigger := by
  induction ts generalizing s later bound with
  | nil =>
    obtain ⟨bound, rfl⟩ := Nat.exists_eq_succ_of_ne_zero (by omega : bound ≠ 0)
    constructor
    · simp [turns, hq, History.reasons]
    · simp [drain, turns, hq, Board.mapOwner, History.brought]
  | cons t ts ih =>
    obtain ⟨bound, rfl⟩ := Nat.exists_eq_succ_of_ne_zero (by omega : bound ≠ 0)
    have hgrown :=
      (adds_process hr (s.leave (ts.map .trigger ++ .stop :: later.map .trigger)) t).queue
    simp only [leave, Board.mapOwner, List.append_assoc, List.cons_append, ← List.map_append] at hgrown
    have hless : ts.length < bound := by
      rw [List.length_cons] at hbound
      omega
    obtain ⟨htaken, hmore⟩ := ih hgrown hless
    constructor
    · simp only [turns, hq, List.map_cons, List.cons_append, History.reasons, List.filterMap_cons]
      exact congrArg (t :: ·) htaken
    · simp only [drain, turns, hq, List.map_cons, List.cons_append, History.brought, List.flatMap_cons]
      rw [List.append_assoc] at hmore
      exact hmore

end

/-! ### Stopping -/

theorem adds_closeShared (s : Service) : s.Adds [] s.closeShared := by
  unfold closeShared
  split
  · exact Adds.refl s
  · exact adds_of_eq rfl rfl rfl

/-- Closing the shared worker changes neither the timers nor whether the loop runs. -/
theorem closeShared_keeps (s : Service) : s.closeShared.owner.alarms = s.owner.alarms ∧
    s.closeShared.owner.isRunning = s.owner.isRunning := by
  unfold closeShared
  split
  · exact ⟨rfl, rfl⟩
  · exact ⟨rfl, rfl⟩

theorem rings_disarm (s : Service) : s.Rings s.disarm := by
  refine ⟨rfl, fun clock hclock => ⟨[.cancel], ?_⟩⟩
  simp only [disarm, Board.mapOwner, hclock, Alarms.cancel]
  rfl

/-- The service with the signal to stop on its queue. -/
def halting (s : Service) : Service := s.mapOwner (·.enqueue .stop)

/-- The service after the loop has come to its end. -/
def halted (react : Reaction Tracker) (s : Service) : Service :=
  (s.halting.runLoop react).mapOwner fun t => { t with isRunning := false }

theorem stop_of_running {s : Service} (h : s.owner.isRunning = true) (hw : s.owner.waits = true) :
    s.stop react = (s.halted react).disarm.closeShared := by
  have hwaits : (Board.mapOwner s (·.enqueue .stop)).owner.waits = true := hw
  simp only [stop, stopLoop, h, hwaits, if_true]
  rfl

theorem stop_of_idle {s : Service} (h : s.owner.isRunning = false) :
    s.stop react = s.disarm.closeShared := by
  simp only [stop, stopLoop, h, Bool.false_eq_true, if_false]
  rfl

/-- The cycles that are run when a service that runs is stopped. -/
def lastTurns (react : Reaction Tracker) (s : Service) : History :=
  s.halting.turns react (s.halting.owner.queue.length + patience)

/-- When a service that runs is stopped, exactly the triggers that wait are taken. -/
theorem queue_of_halted (hr : Submitting react) {s : Service} {ts : List Trigger}
    (hq : s.owner.queue = ts.map .trigger) : (s.lastTurns react).reasons = ts ∧
      (s.halted react).owner.queue = ((s.lastTurns react).brought react).map .trigger := by
  have hhalting : s.halting.owner.queue = ts.map .trigger ++ .stop :: ([] : List Trigger).map .trigger := by
    show s.owner.queue ++ [.stop] = _
    rw [hq]
    rfl
  have hbound : ts.length < s.halting.owner.queue.length + patience := by
    rw [hhalting]
    simp only [List.map_nil, List.length_append, List.length_map, List.length_cons, patience]
    omega
  obtain ⟨htaken, hmore⟩ := drain_to_stop hr hhalting hbound
  refine ⟨htaken, ?_⟩
  show (s.halting.runLoop react).owner.queue = _
  rw [runLoop, owner_report]
  exact hmore

theorem rings_halted (hr : Submitting react) (s : Service) : s.Rings (s.halted react) := by
  have hhalting : s.Rings s.halting := rings_of_alarms rfl rfl
  have hdrained := rings_drain hr (s.halting.owner.queue.length + patience) s.halting
  have hlogged := hdrained.trans (adds_report _ ⟨.info, "Twilight scheduler stopped", none⟩).toRings
  exact (hhalting.trans hlogged).trans ⟨rfl, fun _ hclock => ⟨[], hclock⟩⟩

theorem rings_stop (hr : Submitting react) {s : Service} (hw : s.owner.waits = true) :
    s.Rings (s.stop react) := by
  cases h : s.owner.isRunning with
  | true =>
    rw [stop_of_running h hw]
    exact ((rings_halted hr s).trans (rings_disarm _)).trans (adds_closeShared _).toRings
  | false =>
    rw [stop_of_idle h]
    exact (rings_disarm s).trans (adds_closeShared _).toRings

end Service

end Daylight
