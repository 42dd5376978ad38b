import Daylight.Proofs.Handling
import Daylight.Proofs.Quiescence

/-!
# Every start subscribes

When a service is started it asks its feed for every fix, and for the next one, too, if the feed has none
yet. When it is stopped it takes neither request back. So a feed has one subscription for each time the
service was started, and hands every fix to the tracker as often.

A request for the next fix adds nothing for a tracker that gets all fixes anyway, whether it was made at the
last start or is left over from an earlier one: a one-shot request is passed over where there is a
subscription. It is two subscriptions of one callback that are not told apart.

Listeners may do anything meanwhile, report fixes included, but start the service again (`Uninvolved`).

## What is proved

* `spanning_keepsFeed`, `keepsFeed_cycle`, `keepsFeed_stop`: nothing but a start makes a subscription, and
  nothing takes one away.
* `isSubscribed_perform`: the step lemma. An action adds as many subscriptions as it starts the service.
* `isSubscribed_after`: the run lemma, for any actions.
* `triggers_reportLocation`: what a good fix does after any run. It becomes the last one, and there is one
  trigger for it for each time the service was started.
-/

namespace Daylight

namespace Service

/-! ### What makes no subscription -/

/-- The feed keeps its subscriptions, no request for the next fix comes in, and the loop is not started. -/
structure KeepsFeed (s s' : Service) : Prop where
  /-- The feed has the same subscriptions. -/
  feed : ∀ f, s.owner.source = .feed f → ∃ g, s'.owner.source = .feed g ∧
    g.subscribers = f.subscribers ∧ (f.oneShots = [] → g.oneShots = [])
  /-- The loop runs only if it did before. -/
  isRunning : s'.owner.isRunning = true → s.owner.isRunning = true

section

variable {s s' s'' : Service}

theorem keepsFeed_of_eq (hs : s'.owner.source = s.owner.source)
    (hr : s'.owner.isRunning = s.owner.isRunning) : s.KeepsFeed s' :=
  ⟨fun f hf => ⟨f, hs.trans hf, rfl, fun h => h⟩, fun h => hr.symm.trans h⟩

theorem keepsFeed_of_owner (h : s'.owner = s.owner) : s.KeepsFeed s' :=
  keepsFeed_of_eq (by rw [h]) (by rw [h])

theorem KeepsFeed.refl (s : Service) : s.KeepsFeed s := keepsFeed_of_owner rfl

theorem KeepsFeed.trans (h : s.KeepsFeed s') (h' : s'.KeepsFeed s'') : s.KeepsFeed s'' := by
  refine ⟨fun f hf => ?_, fun hrunning => h.isRunning (h'.isRunning hrunning)⟩
  obtain ⟨g, hg, hsame, hnone⟩ := h.feed f hf
  obtain ⟨g', hg', hsame', hnone'⟩ := h'.feed g hg
  exact ⟨g', hg', hsame'.trans hsame, fun hf => hnone' (hnone hf)⟩

theorem keepsFeed_mapOwner (s : Service) (change : Tracker → Tracker)
    (hs : (change s.owner).source = s.owner.source)
    (hr : (change s.owner).isRunning = s.owner.isRunning) : s.KeepsFeed (s.mapOwner change) :=
  keepsFeed_of_eq hs hr

theorem keepsFeed_report (s : Service) (entry : LogEntry) : s.KeepsFeed (s.report entry) :=
  keepsFeed_of_owner (owner_report s entry)

theorem keepsFeed_submit (s : Service) (trigger : Trigger) : s.KeepsFeed (s.submit trigger) :=
  keepsFeed_mapOwner s _ rfl rfl

/-- **Nothing that is handled from outside makes a subscription.** Passing a fix on closes the requests for it,
and leaves the subscriptions; what a device does is of no account to a feed. -/
theorem spanning_keepsFeed : Spanning KeepsFeed where
  refl := KeepsFeed.refl
  trans := KeepsFeed.trans
  report := keepsFeed_report
  submit := keepsFeed_submit
  remember s _ := keepsFeed_mapOwner s _ rfl rfl
  push := by
    intro s f fix hf
    refine ⟨fun f' hf' => ⟨(f.push fix).1, rfl, ?_, fun _ => rfl⟩, fun h => h⟩
    obtain rfl : f = f' := Source.feed.inj (hf.symm.trans hf')
    rfl
  close := by
    intro s last waiting hdevice
    refine ⟨fun f hf => ?_, fun h => h⟩
    rw [hdevice] at hf
    cases hf
  alarms s _ := keepsFeed_mapOwner s _ rfl rfl

theorem keepsFeed_registerListener (s : Service) (listener : String) (context : Option ContextId) :
    s.KeepsFeed (s.registerListener listener context) := by
  unfold registerListener openShared
  cases context with
  | some id => exact keepsFeed_of_owner rfl
  | none =>
    cases s.owner.shared with
    | some generation => exact keepsFeed_of_owner rfl
    | none => exact keepsFeed_of_eq rfl rfl

theorem keepsFeed_closeShared (s : Service) : s.KeepsFeed s.closeShared := by
  unfold closeShared
  split
  · exact KeepsFeed.refl s
  · exact keepsFeed_of_eq rfl rfl

end

end Service

/-! ### Listeners and cycles -/

/-- Listeners that make no subscription and do not start the service. -/
def Uninvolved (react : Reaction Tracker) : Prop :=
  ∀ s : Service, ∀ listener state, s.KeepsFeed (react s listener state).1

namespace Service

variable {react : Reaction Tracker} (hr : Uninvolved react)

include hr

theorem kept_keepsFeed (s : Service) : Kept react s.KeepsFeed :=
  ⟨fun _ write h => h.trans (keepsFeed_of_owner (owner_record _ write)),
    fun _ _ _ h => h.trans (keepsFeed_of_owner rfl),
    fun s' listener state h => h.trans (hr s' listener state)⟩

theorem keepsFeed_notifyAll (s : Service) (state : Option Boundaries) :
    s.KeepsFeed (s.notifyAll react state) :=
  (kept_keepsFeed hr s).notifyAll (KeepsFeed.refl s) state

theorem keepsFeed_publish (s : Service) (state : Option Boundaries) :
    s.KeepsFeed (s.publish react state).1 :=
  (kept_keepsFeed hr s).publish (fun _ _ h => h.trans (keepsFeed_of_owner rfl)) (KeepsFeed.refl s) state

theorem keepsFeed_run (s : Service) (id : ContextId) : s.KeepsFeed (s.run react id).1 :=
  (kept_keepsFeed hr s).run (KeepsFeed.refl s) id

theorem keepsFeed_cycle (s : Service) (reason : Option Trigger) :
    s.KeepsFeed (s.cycle react reason).1 :=
  (kept_keepsFeed hr s).cycle (fun _ _ _ h => h.trans (keepsFeed_of_eq rfl rfl))
    (fun _ _ h => h.trans (keepsFeed_of_owner rfl))
    (fun s' wanted h => h.trans (spanning_keepsFeed.schedule s' wanted)) (KeepsFeed.refl s) reason

theorem keepsFeed_drain (bound : Nat) (s : Service) : s.KeepsFeed (s.drain react bound).1 :=
  (kept_keepsFeed hr s).drain (fun _ _ _ h => h.trans (keepsFeed_of_eq rfl rfl))
    (fun _ _ h => h.trans (keepsFeed_of_owner rfl))
    (fun s' wanted h => h.trans (spanning_keepsFeed.schedule s' wanted))
    (fun _ _ h => h.trans (keepsFeed_of_eq rfl rfl)) bound (KeepsFeed.refl s)

theorem keepsFeed_runLoop (s : Service) : s.KeepsFeed (s.runLoop react) :=
  (keepsFeed_drain hr (s.owner.queue.length + patience) s).trans
    (keepsFeed_report _ ⟨.info, "Twilight scheduler stopped", none⟩)

/-- **Stopping takes no subscription back.** -/
theorem keepsFeed_stop (s : Service) : s.KeepsFeed (s.stop react) := by
  have hended : s.KeepsFeed (s.stopLoop react) := by
    unfold stopLoop
    refine KeepsFeed.trans ?_
      (keepsFeed_mapOwner _ (fun t => { t with alarms := t.alarms.cancel }) rfl rfl)
    cases hrunning : s.owner.isRunning with
    | false => exact KeepsFeed.refl s
    | true =>
      have hhalting : s.KeepsFeed s.halting := keepsFeed_mapOwner s _ rfl rfl
      have hlooped :
          s.KeepsFeed (if s.halting.owner.waits then s.halting.runLoop react else s.halting) := by
        split
        · exact hhalting.trans (keepsFeed_runLoop hr s.halting)
        · exact hhalting
      exact ⟨fun f hf => hlooped.feed f hf, fun _ => hrunning⟩
  exact hended.trans (keepsFeed_closeShared _)

end Service

/-! ### What makes one -/

namespace Service

/-- The feed has so many subscriptions, and a request for the next fix only where it has one. The loop runs
only after it was started. -/
structure IsSubscribed (s : Service) (times : Nat) : Prop where
  /-- The feed has the subscriptions. -/
  feed : ∃ f, s.owner.source = .feed f ∧ f.subscribers.length = times ∧ (times = 0 → f.oneShots = [])
  /-- The loop was started if it runs. -/
  started : s.owner.isRunning = true → 0 < times

section

variable {s s' : Service} {times : Nat}

theorem IsSubscribed.of_keepsFeed (h : s.IsSubscribed times) (h' : s.KeepsFeed s') :
    s'.IsSubscribed times := by
  obtain ⟨f, hf, hlength, hnone⟩ := h.feed
  obtain ⟨g, hg, hsame, hnone'⟩ := h'.feed f hf
  refine ⟨⟨g, hg, ?_, fun hzero => hnone' (hnone hzero)⟩,
    fun hrunning => h.started (h'.isRunning hrunning)⟩
  rw [hsame, hlength]

/-- A start asks the feed for every fix, and for the next one if there was none. -/
theorem source_start {f : Feed Unit} (hf : s.owner.source = .feed f) (hr : s.owner.isRunning = false) :
    s.start.1.owner.source =
      .feed (if f.last.isNone then (f.requestUpdates ()).requestSingle () else f.requestUpdates ()) := by
  have hasked : ((s.report ⟨.info, "Starting twilight scheduler", none⟩).mapOwner
      fun t => { t with source := t.source.requestUpdates }).owner.source = .feed (f.requestUpdates ()) := by
    simp only [Board.mapOwner, owner_report, hf, Source.requestUpdates]
  have hlast : (Source.feed (f.requestUpdates ())).lastFix = f.last := rfl
  simp only [start, hr, Bool.false_eq_true, if_false, requestSingle, hasked, hlast]
  cases f.last with
  | none => rfl
  | some fix => exact hasked

/-- **Starting subscribes once more.** -/
theorem isSubscribed_start (h : s.IsSubscribed times) (hr : s.owner.isRunning = false) :
    s.start.1.IsSubscribed (times + 1) := by
  obtain ⟨f, hf, hlength, -⟩ := h.feed
  refine ⟨⟨_, source_start hf hr, ?_, fun hzero => absurd hzero (Nat.succ_ne_zero times)⟩,
    fun _ => Nat.succ_pos times⟩
  split
  · simp [Feed.requestSingle, Feed.requestUpdates, hlength]
  · simp [Feed.requestUpdates, hlength]

end

end Service

/-! ### Actions -/

namespace Scenario

/-- How often an action starts the service: one that runs is not started again. -/
def startsOf (s : Service) : Action → Nat
  | .start => if s.owner.isRunning then 0 else 1
  | _ => 0

/-- How often actions start the service. -/
def starts (react : Reaction Tracker) (s : Service) : List Action → Nat
  | [] => 0
  | a :: actions => startsOf s a + starts react (perform react s a).1 actions

section

variable {react : Reaction Tracker} (hr : Uninvolved react)

include hr

open Service in
/-- An action makes no subscription, unless it starts the service. -/
theorem keepsFeed_perform (s : Service) (a : Action) :
    (startsOf s a = 0 ∧ s.KeepsFeed (perform react s a).1) ∨ (a = .start ∧ s.owner.isRunning = false) := by
  cases a with
  | start =>
    cases hrunning : s.owner.isRunning with
    | false => exact .inr ⟨rfl, rfl⟩
    | true =>
      left
      simp only [startsOf, perform, start, hrunning, if_true, true_and]
      exact KeepsFeed.refl s
  | stop => exact .inl ⟨rfl, keepsFeed_stop hr s⟩
  | publish state => exact .inl ⟨rfl, keepsFeed_publish hr s state⟩
  | notify state => exact .inl ⟨rfl, keepsFeed_notifyAll hr s state⟩
  | run context => exact .inl ⟨rfl, keepsFeed_run hr s context⟩
  | evaluate reason => exact .inl ⟨rfl, keepsFeed_cycle hr s reason⟩
  | runPending => exact .inl ⟨rfl, keepsFeed_drain hr _ s⟩
  | register listener context => exact .inl ⟨rfl, keepsFeed_registerListener s listener context⟩
  | unregister _ | shutDown _ | current | size | fail _ => exact .inl ⟨rfl, keepsFeed_of_owner rfl⟩
  | submit trigger => exact .inl ⟨rfl, keepsFeed_submit s trigger⟩
  | changeTime => exact .inl ⟨rfl, keepsFeed_submit s .timeChanged⟩
  | wakeUp => exact .inl ⟨rfl, keepsFeed_submit s .alarm⟩
  | locate fix => exact .inl ⟨rfl, spanning_keepsFeed.onLocation s fix⟩
  | report fix => exact .inl ⟨rfl, spanning_keepsFeed.reportLocation s fix⟩
  | fire number => exact .inl ⟨rfl, spanning_keepsFeed.fire s number⟩
  | handSingle fix => exact .inl ⟨rfl, spanning_keepsFeed.handSingle s fix⟩
  | request r =>
    refine .inl ⟨rfl, ?_⟩
    simp only [perform]
    exact spanning_keepsFeed.respond s r
  | setFix fix =>
    refine .inl ⟨rfl, ?_⟩
    cases hsource : s.owner.source with
    | feed f =>
      exact keepsFeed_of_eq (by simp only [perform, done, Board.mapOwner, hsource, setDeviceFix]) rfl
    | fixed location => exact ⟨fun f hf => absurd (hsource.symm.trans hf) (by simp), fun h => h⟩
    | device last waiting => exact ⟨fun f hf => absurd (hsource.symm.trans hf) (by simp), fun h => h⟩
  | setNow _ | setZone _ | override _ _ | clearOverride _ | breakMirror _ =>
    exact .inl ⟨rfl, keepsFeed_of_eq rfl rfl⟩

/-- **The step lemma.** An action adds as many subscriptions as it starts the service. -/
theorem isSubscribed_perform {s : Service} {times : Nat} (h : s.IsSubscribed times) (a : Action) :
    (perform react s a).1.IsSubscribed (times + startsOf s a) := by
  rcases keepsFeed_perform hr s a with ⟨hnone, hkept⟩ | ⟨rfl, hrunning⟩
  · rw [hnone]
    exact h.of_keepsFeed hkept
  · simp only [startsOf, hrunning, Bool.false_eq_true, if_false]
    exact Service.isSubscribed_start h hrunning

/-- **The run lemma.** -/
theorem isSubscribed_after {s : Service} {times : Nat} (h : s.IsSubscribed times) (actions : List Action) :
    (after react s actions).IsSubscribed (times + starts react s actions) := by
  induction actions generalizing s times with
  | nil => exact h
  | cons a actions ih =>
    have hstep := ih (isSubscribed_perform hr h a)
    rwa [Nat.add_assoc] at hstep

end

end Scenario

/-! ### A fix -/

namespace Service

variable {s : Service} {fix : Location}

theorem owner_onLocation_of_isGood (s : Service) (hfix : Tracker.isGood fix = true) :
    (s.onLocation (some fix)).owner = (s.owner.remember fix).submit .locationChanged := by
  obtain ⟨entry, hentry⟩ := onLocation_of_isGood s hfix
  rw [hentry]
  simp only [submit, Board.mapOwner, owner_report]

/-- A good fix that is handed over becomes the last one, with one trigger for each time. -/
theorem owner_handOver (s : Service) (hfix : Tracker.isGood fix = true) (callbacks : List Unit) :
    (s.handOver fix callbacks).owner = { s.owner with
      cache := if callbacks.length = 0 then s.owner.cache else some fix
      queue := s.owner.queue ++ List.replicate callbacks.length (.trigger .locationChanged) } := by
  induction callbacks generalizing s with
  | nil => simp [handOver]
  | cons _ callbacks ih =>
    have hfirst := owner_onLocation_of_isGood s hfix
    have hrest := ih (s.onLocation (some fix))
    rw [hfirst] at hrest
    show ((s.onLocation (some fix)).handOver fix callbacks).owner = _
    rw [hrest]
    simp [Tracker.submit, Tracker.enqueue, Tracker.remember, List.replicate_succ]

/-- A subscribed tracker gets a fix once for each subscription; requests for the next fix add nothing. -/
theorem IsSubscribed.length_recipients {times : Nat} (h : s.IsSubscribed times) :
    ∃ f, s.owner.source = .feed f ∧ f.recipients.length = times := by
  obtain ⟨f, hf, hlength, hnone⟩ := h.feed
  refine ⟨f, hf, ?_⟩
  by_cases hnil : f.subscribers = []
  · have hzero : times = 0 := by rw [← hlength, hnil]; rfl
    rw [Feed.recipients, hnone hzero, hnil, hzero]
    rfl
  · rw [Feed.recipients, Feed.Alike.recipients_of_ne_nil hnil, hlength]

/-- A report of a good fix to a tracker with so many subscriptions. -/
theorem owner_reportLocation_of_isGood {times : Nat} (h : s.IsSubscribed times)
    (hfix : Tracker.isGood fix = true) :
    (s.reportLocation fix).owner.source.lastFix = some fix ∧
      (s.reportLocation fix).owner.cache = (if times = 0 then s.owner.cache else some fix) ∧
      (s.reportLocation fix).owner.queue =
        s.owner.queue ++ List.replicate times (.trigger .locationChanged) := by
  obtain ⟨f, hf, rfl⟩ := h.length_recipients
  simp only [reportLocation, hf]
  rw [owner_handOver _ hfix]
  exact ⟨rfl, rfl, rfl⟩

end Service

/-- A service that is fed with fixes and was not started yet. Nobody has asked for a fix. -/
structure Service.IsUnstarted (s : Service) : Prop where
  /-- The loop does not run. -/
  isRunning : s.owner.isRunning = false
  /-- The feed has no requests. -/
  feed : ∃ last, s.owner.source = .feed ⟨last, [], []⟩

theorem Service.IsUnstarted.isSubscribed {s : Service} (h : s.IsUnstarted) : s.IsSubscribed 0 := by
  obtain ⟨last, hlast⟩ := h.feed
  refine ⟨⟨_, hlast, rfl, fun _ => rfl⟩, fun hrunning => ?_⟩
  rw [h.isRunning] at hrunning
  cases hrunning

namespace Scenario

variable {react : Reaction Tracker}

/-- **What a report of a good fix does.** Whatever was done to a service since it was made, a good fix that
is reported becomes the last one of the feed, and that of the tracker if the service was ever started; and
for each time it was started, stopped or not, there is one more trigger on the queue. So while it runs, a
fix is followed by its trigger; by one only if it is running for the first time. -/
theorem triggers_reportLocation (hr : Uninvolved react) {s₀ : Service} (h₀ : s₀.IsUnstarted)
    (actions : List Action) {fix : Location} (hfix : Tracker.isGood fix = true) :
    let s := after react s₀ actions
    let times := starts react s₀ actions
    (s.reportLocation fix).owner.source.lastFix = some fix ∧
      (s.reportLocation fix).owner.cache = (if times = 0 then s.owner.cache else some fix) ∧
      (s.reportLocation fix).owner.queue =
        s.owner.queue ++ List.replicate times (.trigger .locationChanged) ∧
      (s.owner.isRunning = true → 0 < times ∧ (s.reportLocation fix).owner.cache = some fix ∧
        ((s.reportLocation fix).owner.queue = s.owner.queue ++ [.trigger .locationChanged] ↔ times = 1)) := by
  intro s times
  have hs : s.IsSubscribed (0 + times) := isSubscribed_after hr h₀.isSubscribed actions
  rw [Nat.zero_add] at hs
  obtain ⟨hlast, hcache, hqueue⟩ := Service.owner_reportLocation_of_isGood hs hfix
  refine ⟨hlast, hcache, hqueue, fun hrunning => ?_⟩
  have hstarted : 0 < times := hs.started hrunning
  refine ⟨hstarted, ?_, ?_⟩
  · rw [hcache, if_neg (by omega)]
  · rw [hqueue, List.append_cancel_left_eq]
    constructor
    · intro h
      simpa using congrArg List.length h
    · intro h
      rw [h]
      rfl

/-- Started for the first time, a service puts one trigger on the queue for a fix; stopped and started again,
it puts two. -/
theorem triggers_home :
    ((after .idle fedService [.start, .runPending]).reportLocation home).owner.queue =
        [.trigger .locationChanged] ∧
      ((after .idle fedService [.start, .runPending, .stop, .start, .runPending]).reportLocation
          home).owner.queue = [.trigger .locationChanged, .trigger .locationChanged] := by
  have hidle : Uninvolved .idle := fun s _ _ => Service.KeepsFeed.refl s
  have hunstarted : fedService.IsUnstarted := ⟨rfl, none, rfl⟩
  have hhome : Tracker.isGood home = true := by decide +kernel
  obtain ⟨-, -, honce, -⟩ := triggers_reportLocation hidle hunstarted [.start, .runPending] hhome
  obtain ⟨-, -, htwice, -⟩ :=
    triggers_reportLocation hidle hunstarted [.start, .runPending, .stop, .start, .runPending] hhome
  constructor
  · rw [honce]
    decide +kernel
  · rw [htwice]
    decide +kernel

/-- A service that runs does not always put one trigger on the queue for a fix: it has been started before. -/
theorem doubles_after_restart : ¬ ∀ (actions : List Action) (fix : Location), Tracker.isGood fix = true →
    (after .idle fedService actions).owner.isRunning = true →
    ((after .idle fedService actions).reportLocation fix).owner.queue =
      (after .idle fedService actions).owner.queue ++ [.trigger .locationChanged] := by
  intro h
  have hone := h [.start, .runPending, .stop, .start, .runPending] home (by decide +kernel)
    (by decide +kernel)
  exact absurd hone (by decide +kernel)

end Scenario

end Daylight
