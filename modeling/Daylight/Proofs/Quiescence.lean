import Daylight.Proofs.Queue
import Daylight.Scenario.Session

/-!
# Stopping leaves nothing behind

A service is started, stopped and started again, and in between triggers come in, are processed by whoever
processes what is pending, or wait. The loop runs while the service is stopped: the signal to stop is put
behind the triggers that wait, so the loop takes them first, and the signal last. What listeners submit in
the meantime waits for the next start.

So the triggers that were taken, and then those that wait, are at any time what was submitted, in the
order in which it was submitted. When a service that runs is stopped, nothing waits of what was submitted
before. The wake-up is dropped last, so that what the loop has asked for goes, too; and a timer that was
cancelled is never live again, so its callback, however late, does nothing.

## What is proved

* `tidy_perform`: the step lemma. No action loses a trigger or changes the order, and none leaves a signal
  to stop behind.
* `tidy_after`: the run lemma, for any actions.
* `live_ne_of_keeps`, `queue_fire_of_stale`: a timer that waits no more is never live again, and then its
  callback does nothing.
* `quiet_after_stop`: all this together, for every stop of a service that was started.
-/

namespace Daylight

/-! ### Actions -/

/-- Between two actions no signal to stop is on the queue, stopping waits for the loop, and the timers are
those that some calls have started. -/
structure Service.IsTidy (s : Service) : Prop where
  /-- Only triggers are on the queue. -/
  queue : ∃ ts : List Trigger, s.owner.queue = ts.map .trigger
  /-- Stopping waits for the loop. -/
  waits : s.owner.waits = true
  /-- The timers are those of an alarm clock. -/
  alarms : ∃ calls, s.owner.alarms = .timers (runCalls AlarmClock.step .empty calls).1

theorem Service.IsTidy.of_rings {s s' : Service} (hs : s.IsTidy) (h : s.Rings s') {ts : List Trigger}
    (hq : s'.owner.queue = ts.map .trigger) : s'.IsTidy := by
  obtain ⟨calls, hcalls⟩ := hs.alarms
  obtain ⟨more, hmore⟩ := h.alarms _ hcalls
  exact ⟨⟨ts, hq⟩, h.waits.trans hs.waits, calls ++ more, by rw [runCalls_append, hmore]⟩

theorem Service.IsTidy.of_adds {s s' : Service} (hs : s.IsTidy) {more : List Trigger} (h : s.Adds more s') :
    s'.IsTidy ∧ s'.waiting = s.waiting ++ more := by
  obtain ⟨ts, hts⟩ := hs.queue
  have hq : s'.owner.queue = (ts ++ more).map .trigger := by
    rw [h.queue, hts, List.map_append]
  exact ⟨hs.of_rings h.toRings hq, h.waiting⟩

namespace Scenario

variable (react : Reaction Tracker)

/-- The cycles of the triggers that an action takes off the queue. -/
def taken (s : Service) : Action → History
  | .runPending => s.turns react (s.owner.queue.length + Service.patience)
  | .stop => if s.owner.isRunning && s.owner.waits then s.lastTurns react else []
  | _ => []

/-- The triggers that an action takes off the queue. -/
def handled (s : Service) (a : Action) : List Trigger := (taken react s a).reasons

/-- The triggers that are submitted in an action: by the action itself, or by listeners that it tells. -/
def submitted (s : Service) : Action → List Trigger
  | .submit trigger => [trigger]
  | .changeTime => [.timeChanged]
  | .wakeUp => [.alarm]
  | .locate fix => Service.located fix
  | .report fix => s.reported fix
  | .handSingle fix => s.handed fix
  | .start => if s.owner.isRunning then [] else [.startup]
  | .fire number => s.rung number
  | .request r => s.requested r
  | .publish state => s.gained (s.publish react state).1
  | .notify state => s.gained (s.notifyAll react state)
  | .run context => s.gained (s.run react context).1
  | .evaluate reason => Turn.brought react ⟨s, reason⟩
  | .runPending => (taken react s .runPending).brought react
  | .stop => (taken react s .stop).brought react
  | _ => []

/-- The service after some actions, whether they fail or not. -/
def after (s : Service) (actions : List Action) : Service :=
  actions.foldl (fun s a => (perform react s a).1) s

/-- What actions come to, one after the other. -/
def collect {α : Type} (f : Service → Action → List α) (s : Service) : List Action → List α
  | [] => []
  | a :: actions => f s a ++ collect f (perform react s a).1 actions

theorem after_append (s : Service) (actions more : List Action) :
    after react s (actions ++ more) = after react (after react s actions) more :=
  List.foldl_append

theorem collect_append {α : Type} (f : Service → Action → List α) (s : Service)
    (actions more : List Action) : collect react f s (actions ++ more) =
      collect react f s actions ++ collect react f (after react s actions) more := by
  induction actions generalizing s with
  | nil => rfl
  | cons a actions ih =>
    rw [List.cons_append, collect, ih, collect, List.append_assoc]
    rfl

variable {react} (hr : Submitting react)

include hr

/-- Processing what is pending. -/
theorem tidy_runPending {s : Service} (hs : s.IsTidy) : (perform react s .runPending).1.IsTidy ∧
    handled react s .runPending ++ (perform react s .runPending).1.waiting =
      s.waiting ++ submitted react s .runPending := by
  obtain ⟨ts, hts⟩ := hs.queue
  obtain ⟨rest, hrest, htaken⟩ :=
    Service.queue_of_drain hr (s.owner.queue.length + Service.patience) hts
  have hqueue : (perform react s .runPending).1.owner.queue = rest.map .trigger := hrest
  refine ⟨hs.of_rings (Service.rings_drain hr _ s) hqueue, ?_⟩
  rw [Service.waiting_of_queue hts, Service.waiting_of_queue hqueue]
  exact htaken

/-- Stopping a service that runs takes all that waits. -/
theorem handled_stop {s : Service} (hs : s.IsTidy) (h : s.owner.isRunning = true) :
    handled react s .stop = s.waiting := by
  obtain ⟨ts, hts⟩ := hs.queue
  obtain ⟨htaken, -⟩ := Service.queue_of_halted hr hts
  rw [Service.waiting_of_queue hts]
  simp only [handled, taken, h, hs.waits, Bool.and_self, if_true]
  exact htaken

/-- Stopping, whether the service was started or not. -/
theorem tidy_stop {s : Service} (hs : s.IsTidy) : (perform react s .stop).1.IsTidy ∧
    handled react s .stop ++ (perform react s .stop).1.waiting = s.waiting ++ submitted react s .stop := by
  have hrings : s.Rings (perform react s .stop).1 := Service.rings_stop hr hs.waits
  obtain ⟨ts, hts⟩ := hs.queue
  cases h : s.owner.isRunning with
  | true =>
    obtain ⟨-, hmore⟩ := Service.queue_of_halted hr hts
    have hqueue : (perform react s .stop).1.owner.queue =
        ((s.lastTurns react).brought react).map .trigger := by
      show (s.stop react).owner.queue = _
      rw [Service.stop_of_running h hs.waits, (Service.adds_closeShared _).queue, List.map_nil,
        List.append_nil]
      exact hmore
    refine ⟨hs.of_rings hrings hqueue, ?_⟩
    rw [handled_stop hr hs h, Service.waiting_of_queue hqueue]
    simp only [submitted, taken, h, hs.waits, Bool.and_self, if_true]
  | false =>
    have hqueue : (perform react s .stop).1.owner.queue = ts.map .trigger := by
      show (s.stop react).owner.queue = _
      rw [Service.stop_of_idle h, (Service.adds_closeShared _).queue, List.map_nil, List.append_nil]
      exact hts
    refine ⟨hs.of_rings hrings hqueue, ?_⟩
    rw [Service.waiting_of_queue hts, Service.waiting_of_queue hqueue]
    simp [handled, submitted, taken, h, History.reasons, History.brought]

/-- What an action does to the queue, but for the two that take something off it: it submits what is its
own, or tells listeners, who may submit something. -/
theorem adds_perform (s : Service) (a : Action) :
    (taken react s a = [] ∧ s.Adds (submitted react s a) (perform react s a).1) ∨
      a = .runPending ∨ a = .stop := by
  cases a with
  | runPending => exact Or.inr (Or.inl rfl)
  | stop => exact Or.inr (Or.inr rfl)
  | publish state => exact Or.inl ⟨rfl, (Service.addsSome_publish hr s state).adds_gained⟩
  | notify state => exact Or.inl ⟨rfl, (Service.addsSome_notifyAll hr s state).adds_gained⟩
  | run context => exact Or.inl ⟨rfl, (Service.addsSome_run hr s context).adds_gained⟩
  | evaluate reason => exact Or.inl ⟨rfl, (Service.addsSome_cycle hr s reason).adds_gained⟩
  | register listener context => exact Or.inl ⟨rfl, Service.adds_registerListener s listener context⟩
  | unregister listener => exact Or.inl ⟨rfl, Service.adds_of_eq rfl rfl rfl⟩
  | current => exact Or.inl ⟨rfl, Service.Adds.refl s⟩
  | size => exact Or.inl ⟨rfl, Service.Adds.refl s⟩
  | shutDown context => exact Or.inl ⟨rfl, Service.adds_of_eq rfl rfl rfl⟩
  | start => exact Or.inl ⟨rfl, Service.adds_start s⟩
  | submit trigger => exact Or.inl ⟨rfl, Service.adds_submit s trigger⟩
  | changeTime => exact Or.inl ⟨rfl, Service.adds_submit s .timeChanged⟩
  | wakeUp => exact Or.inl ⟨rfl, Service.adds_submit s .alarm⟩
  | locate fix => exact Or.inl ⟨rfl, Service.adds_onLocation s fix⟩
  | report fix => exact Or.inl ⟨rfl, Service.adds_reportLocation s fix⟩
  | fire number => exact Or.inl ⟨rfl, Service.adds_fire s number⟩
  | setNow now => exact Or.inl ⟨rfl, Service.adds_of_eq rfl rfl rfl⟩
  | setZone zone => exact Or.inl ⟨rfl, Service.adds_of_eq rfl rfl rfl⟩
  | override query answer => exact Or.inl ⟨rfl, Service.adds_of_eq rfl rfl rfl⟩
  | clearOverride query => exact Or.inl ⟨rfl, Service.adds_of_eq rfl rfl rfl⟩
  | setFix fix => exact Or.inl ⟨rfl, Service.adds_of_eq rfl rfl rfl⟩
  | handSingle fix => exact Or.inl ⟨rfl, Service.adds_handSingle s fix⟩
  | breakMirror isDown => exact Or.inl ⟨rfl, Service.adds_of_eq rfl rfl rfl⟩
  | request r =>
    refine Or.inl ⟨rfl, ?_⟩
    simp only [perform, submitted]
    exact Service.adds_respond s r
  | fail failure => exact Or.inl ⟨rfl, Service.Adds.refl s⟩

/-- **The step lemma.** After an action no signal to stop is on the queue. What the action has taken, and
then what waits after it, is what waited before it, and then what was submitted in it. -/
theorem tidy_perform {s : Service} (hs : s.IsTidy) (a : Action) : (perform react s a).1.IsTidy ∧
    handled react s a ++ (perform react s a).1.waiting = s.waiting ++ submitted react s a := by
  rcases adds_perform hr s a with ⟨hnone, hadds⟩ | rfl | rfl
  · rw [handled, hnone]
    exact hs.of_adds hadds
  · exact tidy_runPending hr hs
  · exact tidy_stop hr hs

/-- An action calls the alarm clock, and does nothing else to it. -/
theorem rings_perform {s : Service} (hs : s.IsTidy) (a : Action) : s.Rings (perform react s a).1 := by
  rcases adds_perform hr s a with ⟨-, hadds⟩ | rfl | rfl
  · exact hadds.toRings
  · exact Service.rings_drain hr _ s
  · exact Service.rings_stop hr hs.waits

/-- **The run lemma.** What was taken in any actions, and then what waits after them, is what waited before
them, and then what was submitted in them. -/
theorem tidy_after {s : Service} (hs : s.IsTidy) (actions : List Action) :
    (after react s actions).IsTidy ∧
      collect react (handled react) s actions ++ (after react s actions).waiting =
        s.waiting ++ collect react (submitted react) s actions := by
  induction actions generalizing s with
  | nil => exact ⟨hs, (List.append_nil _).symm⟩
  | cons a actions ih =>
    obtain ⟨htidy, hstep⟩ := tidy_perform hr hs a
    obtain ⟨hlast, hrest⟩ := ih htidy
    refine ⟨hlast, ?_⟩
    calc handled react s a ++ collect react (handled react) (perform react s a).1 actions ++
          (after react s (a :: actions)).waiting
        = handled react s a ++ ((perform react s a).1.waiting ++
            collect react (submitted react) (perform react s a).1 actions) := by
          rw [List.append_assoc, ← hrest]
          rfl
      _ = s.waiting ++ (submitted react s a ++
            collect react (submitted react) (perform react s a).1 actions) := by
          rw [← List.append_assoc, hstep, List.append_assoc]

/-- The timers after some actions are those before them, after some calls. -/
theorem rings_after {s : Service} (hs : s.IsTidy) (actions : List Action) :
    s.Rings (after react s actions) := by
  induction actions generalizing s with
  | nil => exact Service.Rings.refl s
  | cons a actions ih =>
    obtain ⟨htidy, -⟩ := tidy_perform hr hs a
    exact (rings_perform hr hs a).trans (ih htidy)

end Scenario

/-! ### Stale callbacks -/

/-- A timer that waits no more is never live again. -/
theorem AlarmClock.live_ne_of_keeps {κ : Type} {a b : AlarmClock κ} (hb : b.TellsLive) (h : a.Keeps b)
    {i : Nat} (hi : i < a.timers.length) (hno : ¬ a.Waits i) : b.live ≠ some i := by
  intro hlive
  obtain ⟨t', ht', hcancelled, hfired⟩ := (hb i).mpr hlive
  obtain ⟨t, ht, -, -, hstays, hstays'⟩ := h i a.timers[i] (List.getElem?_eq_getElem hi)
  obtain rfl : t' = t := Option.some.inj (ht'.symm.trans ht)
  refine hno ⟨a.timers[i], List.getElem?_eq_getElem hi, ?_, ?_⟩
  · by_contra hc
    rw [hstays (by simpa using hc)] at hcancelled
    cases hcancelled
  · by_contra hf
    rw [hstays' (by simpa using hf)] at hfired
    cases hfired

/-- The callback of a timer that is not live does nothing to the queue. -/
theorem queue_fire_of_stale {s : Service} {clock : AlarmClock Unit} (hs : s.owner.alarms = .timers clock)
    {number : Option Int} {i : Nat} (hplace : clock.place? (number.getD (-1)) = some i)
    (hlive : clock.live ≠ some i) : (s.fire number).1.owner.queue = s.owner.queue := by
  have hrung : s.rung number = [] := by
    simp only [Service.rung, hs, hplace]
    rw [if_neg fun h => hlive h.1.symm]
  rw [(s.adds_fire number).queue, hrung, List.map_nil, List.append_nil]

theorem isAtRest_disarm {s : Service} {clock : AlarmClock Unit} (hs : s.owner.alarms = .timers clock)
    (h : clock.TellsLive) : IsAtRest s.disarm := by
  have hlive := AlarmClock.live_cancel clock
  refine ⟨clock.cancel, ?_, ?_, fun i hi => ?_⟩
  · simp only [Service.disarm, Board.mapOwner, hs, Alarms.cancel]
  · simp only [AlarmClock.pending?, AlarmClock.liveTimer?, hlive, Option.bind_none, Option.map_none]
  · have hi := (h.cancel i).mp hi
    rw [hlive] at hi
    cases hi

/-- A service that was not started yet, or has nothing to do. -/
structure Service.IsFresh (s : Service) : Prop where
  /-- Nothing is on the queue. -/
  queue : s.owner.queue = []
  /-- Stopping waits for the loop. -/
  waits : s.owner.waits = true
  /-- No timer was started. -/
  alarms : s.owner.alarms = .timers .empty

theorem Service.IsFresh.isTidy {s : Service} (h : s.IsFresh) : s.IsTidy :=
  ⟨⟨[], h.queue⟩, h.waits, [], h.alarms⟩

namespace Scenario

variable {react : Reaction Tracker} (hr : Submitting react)

include hr

/-- After a service that runs was stopped, the loop does not run, and no wake-up is pending. -/
theorem isAtRest_stop {s : Service} (hs : s.IsTidy) (h : s.owner.isRunning = true) :
    (s.stop react).owner.isRunning = false ∧ IsAtRest (s.stop react) := by
  obtain ⟨calls, hcalls⟩ := hs.alarms
  obtain ⟨more, hmore⟩ := (Service.rings_halted hr s).alarms _ hcalls
  have hlive : (runCalls AlarmClock.step (runCalls AlarmClock.step .empty calls).1 more).1.TellsLive :=
    AlarmClock.tellsLive_run (AlarmClock.tellsLive_run AlarmClock.tellsLive_empty calls) more
  obtain ⟨halarms, hrunning⟩ := (s.halted react).disarm.closeShared_keeps
  rw [Service.stop_of_running h hs.waits]
  constructor
  · rw [hrunning]
    rfl
  · obtain ⟨clock, hclock, hrest⟩ := isAtRest_disarm hmore hlive
    exact ⟨clock, halarms.trans hclock, hrest⟩

/-- **Triggers are neither lost nor reordered, and stopping leaves nothing behind.** After any actions from
a fresh service, the triggers that were taken off the queue, in their order, and then those that wait, are
what was submitted. When the service runs then and is stopped, every trigger that was submitted before has
been taken, each once and in order; no signal to stop is on the queue; no wake-up is pending and no timer
waits; and whatever happens later, the callback of a timer that was started before puts nothing on the
queue. -/
theorem quiet_after_stop {s₀ : Service} (h₀ : s₀.IsFresh) (actions : List Action) :
    let s := after react s₀ actions
    let stopped := after react s₀ (actions ++ [.stop])
    collect react (handled react) s₀ actions ++ s.waiting = collect react (submitted react) s₀ actions ∧
      (s.owner.isRunning = true →
        collect react (handled react) s₀ (actions ++ [.stop]) =
            collect react (submitted react) s₀ actions ∧
          .stop ∉ stopped.owner.queue ∧ stopped.owner.isRunning = false ∧ IsAtRest stopped ∧
          ∃ clock, stopped.owner.alarms = .timers clock ∧
            ∀ (later : List Action) (number : Option Int) (clock' : AlarmClock Unit) (i : Nat),
              (after react stopped later).owner.alarms = .timers clock' →
              clock'.place? (number.getD (-1)) = some i → i < clock.timers.length →
              ((after react stopped later).fire number).1.owner.queue =
                (after react stopped later).owner.queue) := by
  intro s stopped
  obtain ⟨hs, hconserved⟩ := tidy_after hr h₀.isTidy actions
  have hnothing : s₀.waiting = [] := by rw [Service.waiting, h₀.queue, List.filterMap_nil]
  rw [hnothing, List.nil_append] at hconserved
  refine ⟨hconserved, fun hrunning => ?_⟩
  have hstopped : stopped = s.stop react := after_append react s₀ actions [.stop]
  have htidy : stopped.IsTidy := (tidy_after hr h₀.isTidy (actions ++ [.stop])).1
  obtain ⟨hended, hrest⟩ := isAtRest_stop hr hs hrunning
  rw [← hstopped] at hended hrest
  refine ⟨?_, ?_, hended, hrest, ?_⟩
  · rw [collect_append, ← hconserved]
    exact congrArg _ ((List.append_nil _).trans (handled_stop hr hs hrunning))
  · obtain ⟨ts, hts⟩ := htidy.queue
    rw [hts]
    simp
  · obtain ⟨clock, hclock, -, hno⟩ := hrest
    refine ⟨clock, hclock, fun later number clock' i hclock' hplace hi => ?_⟩
    obtain ⟨calls, hcalls⟩ := (rings_after hr htidy later).alarms clock hclock
    obtain rfl := Alarms.timers.inj (hcalls.symm.trans hclock')
    obtain ⟨before, hbefore⟩ := htidy.alarms
    obtain rfl := Alarms.timers.inj (hbefore.symm.trans hclock)
    have hlive := AlarmClock.tellsLive_run (AlarmClock.tellsLive_empty (κ := Unit)) before
    have hnotlive := AlarmClock.live_ne_of_keeps (AlarmClock.tellsLive_run hlive calls)
      (AlarmClock.keeps_run _ calls) hi (hno i)
    exact queue_fire_of_stale hclock' hplace hnotlive

omit hr in
/-- A service is started, stopped and started again: both times the first trigger is taken, and what was
submitted before the second stop, too. -/
theorem quiet_noon :
    let actions : List Action := [.start, .runPending, .changeTime, .stop, .start, .wakeUp]
    let stopped := after .idle noonService (actions ++ [.stop])
    collect .idle (handled .idle) noonService (actions ++ [.stop]) =
        [.startup, .timeChanged, .startup, .alarm] ∧
      .stop ∉ stopped.owner.queue ∧ IsAtRest stopped := by
  have hidle : Submitting .idle := fun s _ _ => Service.AddsSome.refl s
  have hfresh : noonService.IsFresh := ⟨rfl, rfl, rfl⟩
  obtain ⟨-, hstopped⟩ := quiet_after_stop hidle hfresh
    [.start, .runPending, .changeTime, .stop, .start, .wakeUp]
  obtain ⟨htaken, hnone, -, hrest, -⟩ := hstopped (by decide +kernel)
  refine ⟨?_, hnone, hrest⟩
  rw [htaken]
  decide +kernel

end Scenario

end Daylight
