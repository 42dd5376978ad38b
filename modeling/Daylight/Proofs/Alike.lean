import Daylight.Scenario.Session
import Daylight.Proofs.Cycle

/-!
# Services that differ in their last fix

Two services that take fixes from a feed may differ in the last fix that the feed remembers, and in its
one-shot requests, and yet not differ for anybody who looks at them: if both would be evaluated at the
same location, and the same callbacks get the next fix. Their logs may be different, too.

Whatever is done to both of them, they stay alike and answer alike, if the listeners take no notice of
the difference. Listeners with a script take none.

## What is proved

One lemma for each operation of the board, of the cycle and of the service, up to

* `alike_perform`: whatever is done to both services, they stay alike, and answer alike.
* `unaffected_reaction`: listeners with a script take no notice of the difference.
-/

namespace Daylight

/-! ### The relation -/

/-- Two feeds whose callbacks get the same fixes, each fix once. -/
structure Feed.Alike (f g : Feed Unit) : Prop where
  /-- The callbacks for every fix are the same. -/
  subscribers : g.subscribers = f.subscribers
  /-- One-shot requests are made only for callbacks that get every fix. -/
  oneShots : f.subscribers = [] → f.oneShots = [] ∧ g.oneShots = []

/-- Two trackers that differ in the last fix of their feeds, and not in the location of an evaluation. -/
structure Tracker.Alike (t u : Tracker) : Prop where
  /-- All but the source is the same. -/
  rest : u = { t with source := u.source }
  /-- The sources are feeds with the same callbacks. -/
  feeds : ∃ f g, t.source = .feed f ∧ u.source = .feed g ∧ f.Alike g
  /-- The location of an evaluation is the same. -/
  location : u.location? = t.location?

/-- Two services that differ in the last fix of their feeds and in their logs, and in nothing else that
can be seen of them. -/
structure Board.Alike (s s' : Service) : Prop where
  /-- The listeners and what was published last are the same. -/
  registry : s'.registry = s.registry
  /-- The contexts hold the same tasks. -/
  contexts : s'.contexts = s.contexts
  /-- The same journal is written. -/
  onWorker : s'.onWorker = s.onWorker
  /-- Listeners were told the same. -/
  told : s'.journal.deliveries = s.journal.deliveries ∧
    s'.workerJournal.deliveries = s.workerJournal.deliveries
  /-- The trackers are alike. -/
  owner : s.owner.Alike s'.owner

/-- Two services that are alike, with the same answer. -/
def AlikeOut {α : Type} (p p' : Service × α) : Prop := p.1.Alike p'.1 ∧ p'.2 = p.2

/-- Services with their answers are followed by following the services. -/
@[elab_as_elim] theorem AlikeOut.elim {α : Type} {motive : Service × α → Service × α → Prop}
    {p p' : Service × α} (h : AlikeOut p p')
    (hm : ∀ s s' answer, Board.Alike s s' → motive (s, answer) (s', answer)) : motive p p' := by
  obtain ⟨s, answer⟩ := p
  obtain ⟨s', answer'⟩ := p'
  obtain ⟨hs, ho⟩ := h
  obtain rfl : answer' = answer := ho
  exact hm s s' answer' hs

/-- An answer that follows from an answer. -/
theorem AlikeOut.certain {α : Type} {p p' : Service × α} (h : AlikeOut p p')
    (answer : α → Scenario.Answer) :
    AlikeOut (Scenario.certain answer p) (Scenario.certain answer p') :=
  ⟨h.1, congrArg (fun a => Except.ok (answer a)) h.2⟩

/-- Listeners that take no notice of what alike services differ in. -/
def Unaffected (react : Reaction Tracker) : Prop :=
  ∀ s s' : Service, ∀ listener state, s.Alike s' →
    AlikeOut (react s listener state) (react s' listener state)

/-! ### Feeds and trackers -/

namespace Feed.Alike

variable {f g : Feed Unit}

theorem recipients_of_ne_nil {subscribers : List Unit} (h : subscribers ≠ []) (oneShots : List Unit) :
    oneShots.foldl Feed.addNew subscribers = subscribers := by
  induction oneShots with
  | nil => rfl
  | cons callback rest ih =>
    have hmem : callback ∈ subscribers := by
      obtain ⟨first, others, rfl⟩ := List.exists_cons_of_ne_nil h
      exact List.mem_cons_self
    rw [List.foldl_cons, Feed.addNew, if_pos hmem, ih]

/-- The next fix goes to the same callbacks. -/
theorem recipients (h : f.Alike g) : g.recipients = f.recipients := by
  by_cases hnil : f.subscribers = []
  · obtain ⟨hf, hg⟩ := h.oneShots hnil
    rw [Feed.recipients, Feed.recipients, hf, hg, h.subscribers]
  · have hg : g.subscribers ≠ [] := by rwa [h.subscribers]
    rw [Feed.recipients, Feed.recipients, recipients_of_ne_nil hnil, recipients_of_ne_nil hg,
      h.subscribers]

/-- Passing fixes on closes the one-shot requests. -/
theorem push (h : f.Alike g) (fix fix' : Location) : (f.push fix).1.Alike (g.push fix').1 :=
  ⟨h.subscribers, fun _ => ⟨rfl, rfl⟩⟩

end Feed.Alike

namespace Tracker.Alike

variable {t u : Tracker}

/-- What does not depend on the source is the same. -/
theorem field {α : Type} (h : t.Alike u) (get : Tracker → α)
    (hget : ∀ t source, get { t with source := source } = get t) : get u = get t := by
  rw [h.rest, hget]

/-- Changing neither the source nor the last fix keeps trackers alike. -/
theorem map (h : t.Alike u) {change : Tracker → Tracker}
    (hsource : ∀ t source, change { t with source := source } = { change t with source := source })
    (hcache : ∀ t, (change t).cache = t.cache) : (change t).Alike (change u) := by
  have hkeep : ∀ t, (change t).source = t.source := fun t => by
    have hsame := hsource t t.source
    rw [hsame]
  obtain ⟨f, g, hf, hg, hfg⟩ := h.feeds
  have hlocation : ∀ t, (change t).location? = t.location? := fun t => by
    rw [location?, location?, hcache, hkeep]
  refine ⟨?_, ⟨f, g, by rw [hkeep, hf], by rw [hkeep, hg], hfg⟩, ?_⟩
  · rw [hkeep, ← hsource, ← h.rest]
  · rw [hlocation, hlocation, h.location]

theorem remember (h : t.Alike u) (fix : Location) : (t.remember fix).Alike (u.remember fix) := by
  refine ⟨?_, h.feeds, rfl⟩
  conv_lhs => rw [h.rest]
  rfl

/-- Other feeds with the same callbacks, where the location of an evaluation is the same. -/
theorem withFeeds (h : t.Alike u) {f g : Feed Unit} (hfg : f.Alike g)
    (hlocation : ({ u with source := .feed g } : Tracker).location? =
      ({ t with source := .feed f } : Tracker).location?) :
    ({ t with source := .feed f } : Tracker).Alike { u with source := .feed g } := by
  refine ⟨?_, ⟨f, g, rfl, rfl, hfg⟩, hlocation⟩
  conv_lhs => rw [h.rest]

end Tracker.Alike

/-- Asks the source for fixes, as the service does when it is started. -/
def Service.ask (s : Service) : Service :=
  let s := s.mapOwner fun t => { t with source := t.source.requestUpdates }
  if s.owner.source.lastFix.isNone then requestSingle s else s

namespace Board.Alike

variable {react : Reaction Tracker} {s s' : Service}

/-- Alike services with one answer. -/
theorem answers {α : Type} (h : s.Alike s') (answer : α) : AlikeOut (s, answer) (s', answer) := ⟨h, rfl⟩

/-! ### Boards -/

theorem record (h : s.Alike s') {write write' : Journal → Journal}
    (hw : ∀ j j' : Journal, j'.deliveries = j.deliveries → (write' j').deliveries = (write j).deliveries) :
    (s.record write).Alike (s'.record write') := by
  obtain ⟨hregistry, hcontexts, honWorker, ⟨hjournal, hworker⟩, howner⟩ := h
  unfold Board.record
  rw [honWorker]
  split
  · exact ⟨hregistry, hcontexts, rfl, ⟨hjournal, hw _ _ hworker⟩, howner⟩
  · exact ⟨hregistry, hcontexts, rfl, ⟨hw _ _ hjournal, hworker⟩, howner⟩

/-- What is logged does not matter. -/
theorem report (h : s.Alike s') (entry entry' : LogEntry) : (s.report entry).Alike (s'.report entry') :=
  h.record fun _ _ hd => hd

/-- What is logged in one of them does not matter. -/
theorem report_right (h : s.Alike s') (entry : LogEntry) : s.Alike (s'.report entry) := by
  obtain ⟨hregistry, hcontexts, honWorker, htold, howner⟩ := h
  unfold Board.report Board.record
  split
  · exact ⟨hregistry, hcontexts, honWorker, htold, howner⟩
  · exact ⟨hregistry, hcontexts, honWorker, htold, howner⟩

theorem mapOwner (h : s.Alike s') {change change' : Tracker → Tracker}
    (howner : (change s.owner).Alike (change' s'.owner)) : (s.mapOwner change).Alike (s'.mapOwner change') :=
  ⟨h.registry, h.contexts, h.onWorker, h.told, howner⟩

theorem mapRegistry (h : s.Alike s') (change : Registry → Registry) :
    (s.mapRegistry change).Alike (s'.mapRegistry change) :=
  ⟨congrArg change h.registry, h.contexts, h.onWorker, h.told, h.owner⟩

theorem mapContext (h : s.Alike s') (id : ContextId) (change : Context → Context) :
    (s.mapContext id change).Alike (s'.mapContext id change) :=
  ⟨h.registry, congrArg (List.map _) h.contexts, h.onWorker, h.told, h.owner⟩

theorem context (h : s.Alike s') (id : ContextId) : s'.context id = s.context id := by
  rw [Board.context, Board.context, h.contexts]

/-- What both are told is recorded in both. -/
theorem tell (h : s.Alike s') (entry : String × Option Boundaries) :
    Board.Alike (s.record fun j => { j with deliveries := j.deliveries ++ [entry] })
      (s'.record fun j => { j with deliveries := j.deliveries ++ [entry] }) :=
  h.record fun _ _ hd => congrArg (· ++ [entry]) hd

theorem deliver (hu : Unaffected react) (h : s.Alike s') (d : Delivery) :
    (s.deliver react d).Alike (s'.deliver react d) := by
  unfold Board.deliver
  rw [h.registry]
  split
  · dsimp only
    refine AlikeOut.elim (hu _ _ d.listener d.state (h.tell (d.listener, d.state)))
      fun b b' outcome hb => ?_
    cases outcome with
    | none => exact hb
    | some e => exact hb.report _ _
  · exact h

theorem post (hu : Unaffected react) (h : s.Alike s') (d : Delivery) :
    (s.post react d).Alike (s'.post react d) := by
  unfold Board.post
  rw [h.context]
  dsimp only
  split
  · exact h.report _ _
  · exact h.deliver hu d
  · split
    · exact h.mapContext _ _
    · exact h.report _ _
  · split
    · exact h.mapContext _ _
    · exact h.report _ _

theorem notifyAll (hu : Unaffected react) (h : s.Alike s') (state : Option Boundaries) :
    (s.notifyAll react state).Alike (s'.notifyAll react state) := by
  rw [Board.notifyAll, Board.notifyAll, h.registry]
  exact List.foldl_rel h fun d _ _ _ hs => hs.post hu d

theorem publish (hu : Unaffected react) (h : s.Alike s') (state : Option Boundaries) :
    AlikeOut (s.publish react state) (s'.publish react state) := by
  unfold Board.publish
  rw [h.registry]
  split
  · exact ⟨h, rfl⟩
  · exact ⟨(h.mapRegistry _).notifyAll hu state, rfl⟩

theorem run (hu : Unaffected react) (h : s.Alike s') (id : ContextId) :
    AlikeOut (s.run react id) (s'.run react id) := by
  unfold Board.run
  rw [h.context]
  exact ⟨List.foldl_rel (h.mapContext id _) fun d _ _ _ hs => hs.deliver hu d, rfl⟩

theorem shutDown (h : s.Alike s') (id : ContextId) : (s.shutDown id).Alike (s'.shutDown id) :=
  h.mapContext id _

/-- Both are, or are not, at work on a worker. -/
theorem atWork (h : s.Alike s') (onWorker : Bool) :
    Board.Alike { s with onWorker := onWorker } { s' with onWorker := onWorker } :=
  ⟨h.registry, h.contexts, rfl, h.told, h.owner⟩

theorem settle (hu : Unaffected react) (h : s.Alike s') (rounds : Nat) :
    (s.settle react rounds).Alike (s'.settle react rounds) := by
  induction rounds generalizing s s' with
  | zero => exact h
  | succ rounds ih =>
    have hbusy : s'.busyWorkers = s.busyWorkers := by
      rw [Board.busyWorkers, Board.busyWorkers, h.contexts]
    rw [Board.settle, Board.settle, hbusy]
    split
    · exact h
    · refine ih (Board.Alike.atWork ?_ false)
      exact List.foldl_rel (h.atWork true) fun id _ _ _ hs => (hs.run hu id).1

/-! ### The cycle -/

/-- What does not depend on the source is the same in both trackers. -/
theorem field {α : Type} (h : s.Alike s') (get : Tracker → α)
    (hget : ∀ t source, get { t with source := source } = get t) : get s'.owner = get s.owner :=
  h.owner.field get hget

/-- A change of both trackers that changes neither the source nor the last fix. -/
theorem change (h : s.Alike s') {change : Tracker → Tracker}
    (hsource : ∀ t source, change { t with source := source } = { change t with source := source })
    (hcache : ∀ t, (change t).cache = t.cache) : (s.mapOwner change).Alike (s'.mapOwner change) :=
  h.mapOwner (h.owner.map hsource hcache)

theorem submit (h : s.Alike s') (trigger : Trigger) :
    Board.Alike (Service.submit s trigger) (Service.submit s' trigger) :=
  h.change (fun _ _ => rfl) fun _ => rfl

theorem onLocation (h : s.Alike s') (fix : Option Location) :
    Board.Alike (Service.onLocation s fix) (Service.onLocation s' fix) := by
  unfold Service.onLocation
  split
  · exact h.report _ _
  · rename_i fix _
    exact ((h.report _ _).mapOwner ((h.report _ _).owner.remember fix)).submit _

theorem mirrorFlag (h : s.Alike s') (flag : Bool) :
    Board.Alike (Service.mirrorFlag s flag) (Service.mirrorFlag s' flag) := by
  unfold Service.mirrorFlag
  rw [h.field (·.mirror) fun _ _ => rfl]
  split
  · exact h.change (fun _ _ => rfl) fun _ => rfl
  · exact h.report _ _

theorem schedule (h : s.Alike s') (wanted : Moment) :
    AlikeOut (Service.schedule s wanted) (Service.schedule s' wanted) := by
  unfold Service.schedule
  rw [h.field (·.alarms) fun _ _ => rfl, h.field (·.clock) fun _ _ => rfl]
  split
  · refine answers ?_ _
    exact h.change (fun _ _ => rfl) fun _ => rfl
  · dsimp only
    have hclock : ∀ clock, Board.Alike (s.mapOwner fun t => { t with alarms := .timers clock })
        (s'.mapOwner fun t => { t with alarms := .timers clock }) :=
      fun _ => h.change (fun _ _ => rfl) fun _ => rfl
    split
    · exact ⟨hclock _, rfl⟩
    · exact ⟨(hclock _).report _ _, rfl⟩
    · exact ⟨hclock _, rfl⟩

theorem announce (hu : Unaffected react) (h : s.Alike s') (reason : Option Trigger)
    (state : Option Boundaries) :
    AlikeOut (Service.announce react s reason state) (Service.announce react s' reason state) := by
  unfold Service.announce
  refine AlikeOut.elim (h.publish hu state) fun s s' changed hs => ?_
  cases changed with
  | false => exact hs.answers _
  | true => exact (hs.report _ _).answers _

theorem mirrorNight (h : s.Alike s') (now : Moment) (b : Boundaries) :
    AlikeOut (Service.mirrorNight s now b) (Service.mirrorNight s' now b) := by
  unfold Service.mirrorNight
  split
  · exact ⟨h.mirrorFlag _, rfl⟩
  · exact ⟨h, rfl⟩

theorem scheduleNext (h : s.Alike s') (now : Moment) (b : Boundaries) :
    AlikeOut (Service.scheduleNext s now b) (Service.scheduleNext s' now b) := by
  unfold Service.scheduleNext
  split
  · exact h.schedule _
  · exact ⟨h, rfl⟩

theorem conclude (hu : Unaffected react) (h : s.Alike s') (reason : Option Trigger) (now : Moment)
    (state : Option Boundaries) : AlikeOut (Service.conclude react s reason now state)
      (Service.conclude react s' reason now state) := by
  unfold Service.conclude
  refine AlikeOut.elim (h.announce hu reason state) fun s s' changed hs => ?_
  cases state with
  | none => exact hs.answers _
  | some b =>
    dsimp only
    have hmirrored : AlikeOut (if changed then Service.mirrorNight s now b else (s, .ok ()))
        (if changed then Service.mirrorNight s' now b else (s', .ok ())) := by
      split
      · exact hs.mirrorNight now b
      · exact hs.answers _
    refine AlikeOut.elim hmirrored fun s s' mirrored hs => ?_
    cases mirrored with
    | error e => exact hs.answers _
    | ok done =>
      dsimp only
      refine AlikeOut.elim (hs.scheduleNext now b) fun s s' scheduled hs => ?_
      cases scheduled with
      | error e => exact hs.answers _
      | ok done => exact hs.answers _

theorem reportAbsence (h : s.Alike s') (location : Option Location) (e : Failure) :
    Board.Alike (Service.reportAbsence s location e) (Service.reportAbsence s' location e) :=
  List.foldl_rel h fun entry _ _ _ hs => hs.report entry entry

theorem cycle (hu : Unaffected react) (h : s.Alike s') (reason : Option Trigger) :
    AlikeOut (Service.cycle react s reason) (Service.cycle react s' reason) := by
  unfold Service.cycle
  rw [h.field (·.clock) fun _ _ => rfl, h.field (·.almanac) fun _ _ => rfl, h.owner.location]
  dsimp only
  split
  · exact h.answers _
  · rename_i zone _
    have hasked : ∀ asked, Board.Alike (s.mapOwner fun t => { t with asked := t.asked ++ asked })
        (s'.mapOwner fun t => { t with asked := t.asked ++ asked }) :=
      fun _ => h.change (fun _ _ => rfl) fun _ => rfl
    split
    · exact (hasked _).conclude hu reason _ _
    · rename_i e _
      have habsence := (hasked (inquire s.owner.almanac.calculator s.owner.location? s.owner.clock.now
        zone).asked).reportAbsence s.owner.location? e
      split
      · exact (habsence.report _ _).answers _
      · exact habsence.answers _

theorem process (hu : Unaffected react) (h : s.Alike s') (trigger : Trigger) :
    Board.Alike (Service.process react s trigger) (Service.process react s' trigger) := by
  unfold Service.process
  refine AlikeOut.elim (h.cycle hu (some trigger)) fun s s' outcome hs => ?_
  cases outcome with
  | ok state => exact hs
  | error e => exact hs.report _ _

theorem drain (hu : Unaffected react) (h : s.Alike s') (bound : Nat) :
    AlikeOut (Service.drain react bound s) (Service.drain react bound s') := by
  induction bound generalizing s s' with
  | zero => exact h.answers 0
  | succ bound ih =>
    have hrest : ∀ rest, Board.Alike (s.mapOwner fun t => { t with queue := rest })
        (s'.mapOwner fun t => { t with queue := rest }) :=
      fun _ => h.change (fun _ _ => rfl) fun _ => rfl
    rw [Service.drain, Service.drain, h.field (·.queue) fun _ _ => rfl]
    split
    · exact h.answers 0
    · exact (hrest _).answers 0
    · rename_i trigger rest _
      dsimp only
      refine AlikeOut.elim (ih ((hrest rest).process hu trigger)) fun s s' count hs => ?_
      exact hs.answers (count + 1)

theorem runPending (hu : Unaffected react) (h : s.Alike s') :
    AlikeOut (Service.runPending react s) (Service.runPending react s') := by
  rw [Service.runPending, Service.runPending, h.field (·.queue) fun _ _ => rfl]
  exact h.drain hu _

/-! ### Starting and stopping -/

theorem runLoop (hu : Unaffected react) (h : s.Alike s') :
    Board.Alike (Service.runLoop react s) (Service.runLoop react s') := by
  rw [Service.runLoop, Service.runLoop, h.field (·.queue) fun _ _ => rfl]
  refine AlikeOut.elim (h.drain hu _) fun s s' _ hs => ?_
  exact hs.report _ _

/-- Asking a feed for fixes changes its callbacks, and not what it remembers. -/
theorem exists_ask {f : Feed Unit} (hf : s.owner.source = .feed f) :
    ∃ f' : Feed Unit, f'.last = f.last ∧ f'.subscribers = f.subscribers ++ [()] ∧
      Service.ask s = s.mapOwner fun t => { t with source := .feed f' } := by
  have hupdates : (s.mapOwner fun t => { t with source := t.source.requestUpdates }) =
      s.mapOwner fun t => { t with source := .feed (f.requestUpdates ()) } := by
    rw [Board.mapOwner, Board.mapOwner, hf]
    rfl
  rw [Service.ask, hupdates]
  split
  · exact ⟨(f.requestUpdates ()).requestSingle (), rfl, rfl, rfl⟩
  · exact ⟨f.requestUpdates (), rfl, rfl, rfl⟩

/-- One of the feeds may be asked for its next fix, and the other one not; the callback that asks gets
every fix. -/
theorem ask (h : s.Alike s') : Board.Alike (Service.ask s) (Service.ask s') := by
  obtain ⟨f, g, hf, hg, hfg⟩ := h.owner.feeds
  obtain ⟨f', hlast, hsubscribers, hs⟩ := exists_ask hf
  obtain ⟨g', hlast', hsubscribers', hs'⟩ := exists_ask hg
  have hsame : ∀ {t : Tracker} {f f' : Feed Unit}, t.source = .feed f → f'.last = f.last →
      ({ t with source := .feed f' } : Tracker).location? = t.location? := by
    intro t f f' hf hlast
    simp only [Tracker.location?, hf, Source.lastFix, hlast]
  have hfg' : f'.Alike g' :=
    ⟨by rw [hsubscribers, hsubscribers', hfg.subscribers], fun hnil => by simp [hsubscribers] at hnil⟩
  rw [hs, hs']
  exact h.mapOwner (h.owner.withFeeds hfg' (by rw [hsame hf hlast, hsame hg hlast', h.owner.location]))

theorem start (h : s.Alike s') : AlikeOut (Service.start s) (Service.start s') := by
  unfold Service.start
  rw [h.field (·.isRunning) fun _ _ => rfl]
  split
  · exact h.answers _
  · refine answers ?_ _
    have hasked := (h.report ⟨.info, "Starting twilight scheduler", none⟩
      ⟨.info, "Starting twilight scheduler", none⟩).ask
    exact (hasked.submit .startup).change (fun _ _ => rfl) fun _ => rfl

theorem closeShared (h : s.Alike s') : Board.Alike (Service.closeShared s) (Service.closeShared s') := by
  unfold Service.closeShared
  rw [h.field (·.shared) fun _ _ => rfl]
  split
  · exact h
  · exact (h.shutDown _).change (fun _ _ => rfl) fun _ => rfl

theorem stopLoop (hu : Unaffected react) (h : s.Alike s') :
    Board.Alike (Service.stopLoop react s) (Service.stopLoop react s') := by
  have hcancel : ∀ {s s' : Service}, s.Alike s' →
      Board.Alike (s.mapOwner fun t => { t with alarms := t.alarms.cancel })
        (s'.mapOwner fun t => { t with alarms := t.alarms.cancel }) :=
    fun h => h.change (fun _ _ => rfl) fun _ => rfl
  unfold Service.stopLoop
  refine hcancel ?_
  rw [h.field (·.isRunning) fun _ _ => rfl]
  split
  · have hstop : Board.Alike (s.mapOwner (·.enqueue .stop)) (s'.mapOwner (·.enqueue .stop)) :=
      h.change (fun _ _ => rfl) fun _ => rfl
    dsimp only
    rw [hstop.field (·.waits) fun _ _ => rfl]
    split
    · exact (hstop.runLoop hu).change (fun _ _ => rfl) fun _ => rfl
    · exact hstop.change (fun _ _ => rfl) fun _ => rfl
  · exact h

theorem stop (hu : Unaffected react) (h : s.Alike s') :
    Board.Alike (Service.stop react s) (Service.stop react s') := (h.stopLoop hu).closeShared

/-! ### The public surface -/

theorem openShared (h : s.Alike s') : AlikeOut (Service.openShared s) (Service.openShared s') := by
  unfold Service.openShared
  rw [h.field (·.shared) fun _ _ => rfl, h.field (·.sharedCount) fun _ _ => rfl]
  split
  · exact h.answers _
  · refine answers ?_ _
    have hs : Board.Alike (s.mapOwner fun t =>
          { t with shared := some t.sharedCount, sharedCount := t.sharedCount + 1 })
        (s'.mapOwner fun t => { t with shared := some t.sharedCount, sharedCount := t.sharedCount + 1 }) :=
      h.change (fun _ _ => rfl) fun _ => rfl
    exact ⟨hs.registry, congrArg (· ++ _) hs.contexts, hs.onWorker, hs.told, hs.owner⟩

theorem registerListener (h : s.Alike s') (listener : String) (context : Option ContextId) :
    Board.Alike (Service.registerListener s listener context)
      (Service.registerListener s' listener context) := by
  cases context with
  | some id => exact h.mapRegistry (·.register listener id)
  | none =>
    unfold Service.registerListener
    dsimp only
    refine AlikeOut.elim h.openShared fun s s' id hs => ?_
    exact hs.mapRegistry (·.register listener id)

theorem handOver (h : s.Alike s') (fix : Location) (callbacks : List Unit) :
    Board.Alike (Service.handOver s fix callbacks) (Service.handOver s' fix callbacks) :=
  List.foldl_rel h fun _ _ _ _ hs => hs.onLocation (some fix)

theorem reportLocation (h : s.Alike s') (fix : Location) :
    Board.Alike (Service.reportLocation s fix) (Service.reportLocation s' fix) := by
  obtain ⟨f, g, hf, hg, hfg⟩ := h.owner.feeds
  unfold Service.reportLocation
  rw [hf, hg]
  dsimp only [Feed.push]
  rw [hfg.recipients]
  refine handOver (h.mapOwner (h.owner.withFeeds (hfg.push fix fix) ?_)) fix _
  rw [Tracker.location?, Tracker.location?, h.field (·.cache) fun _ _ => rfl]
  rfl

theorem fire (h : s.Alike s') (number : Option Int) :
    AlikeOut (Service.fire s number) (Service.fire s' number) := by
  unfold Service.fire
  rw [h.field (·.alarms) fun _ _ => rfl]
  split
  · exact h.answers _
  · refine answers (submit ?_ _) _
    exact h.change (fun _ _ => rfl) fun _ => rfl
  · split
    · exact h.answers _
    · dsimp only
      have hclock : ∀ clock, Board.Alike (s.mapOwner fun t => { t with alarms := .timers clock })
          (s'.mapOwner fun t => { t with alarms := .timers clock }) :=
        fun _ => h.change (fun _ _ => rfl) fun _ => rfl
      split
      · exact (hclock _).answers _
      · exact (((hclock _).report _ _).submit _).answers _

theorem handSingle (h : s.Alike s') (fix : Location) :
    AlikeOut (Service.handSingle s fix) (Service.handSingle s' fix) := by
  obtain ⟨f, g, hf, hg, -⟩ := h.owner.feeds
  unfold Service.handSingle
  rw [hf, hg]
  exact h.answers _

theorem follow (h : s.Alike s') (route : Web.Route) (body : Web.Body) :
    AlikeOut (Web.follow s route body) (Web.follow s' route body) := by
  cases route with
  | twilight =>
    have hshown : Web.showState s' = Web.showState s := by
      rw [Web.showState, Web.showState, h.registry, h.field (·.clock) fun _ _ => rfl]
    rw [Web.follow, Web.follow, hshown]
    exact h.answers _
  | location =>
    unfold Web.follow Web.takeFix
    dsimp only
    split
    · exact h.answers _
    · exact h.answers _
    · exact (h.reportLocation _).answers _
  | timeChanged => exact (h.submit _).answers _

theorem respond (h : s.Alike s') (r : Web.Request) : AlikeOut (Web.respond s r) (Web.respond s' r) := by
  unfold Web.respond
  dsimp only
  split
  · split
    · exact h.follow _ _
    · exact h.answers _
  · split
    · exact h.answers _
    · split
      · exact h.answers _
      · exact h.answers _

end Board.Alike

/-! ### Whatever is done to both -/

namespace Scenario

variable {react : Reaction Tracker} {s s' : Service}

/-- **Whatever is done to alike services, they stay alike and answer alike.** -/
theorem alike_perform (hu : Unaffected react) (h : s.Alike s') (action : Action) :
    AlikeOut (perform react s action) (perform react s' action) := by
  have hchange : ∀ change : Tracker → Tracker,
      (∀ t source, change { t with source := source } = { change t with source := source }) →
      (∀ t, (change t).cache = t.cache) →
      AlikeOut (done (s.mapOwner change)) (done (s'.mapOwner change)) :=
    fun change hsource hcache => (h.change hsource hcache).answers _
  cases action with
  | register listener context => exact (h.registerListener listener context).answers _
  | unregister listener => exact (h.mapRegistry (·.unregister listener)).answers _
  | publish state => exact (h.publish hu state).certain _
  | notify state => exact (h.notifyAll hu state).answers _
  | current =>
    rw [perform, perform, h.registry]
    exact h.answers _
  | size =>
    rw [perform, perform, h.registry]
    exact h.answers _
  | run context => exact (h.run hu context).certain _
  | shutDown context => exact (h.shutDown context).answers _
  | start =>
    rw [perform, perform]
    exact AlikeOut.elim h.start fun s s' outcome hs => hs.answers _
  | stop => exact (h.stop hu).answers _
  | submit trigger => exact (h.submit trigger).answers _
  | changeTime => exact (h.submit .timeChanged).answers _
  | wakeUp => exact (h.submit .alarm).answers _
  | locate fix => exact (h.onLocation fix).answers _
  | report fix => exact (h.reportLocation fix).answers _
  | runPending => exact (h.runPending hu).certain _
  | evaluate reason =>
    rw [perform, perform]
    exact AlikeOut.elim (h.cycle hu reason) fun s s' outcome hs => hs.answers _
  | fire number => exact (h.fire number).certain _
  | setNow now => exact hchange _ (fun _ _ => rfl) fun _ => rfl
  | setZone zone => exact hchange _ (fun _ _ => rfl) fun _ => rfl
  | override query answer => exact hchange _ (fun _ _ => rfl) fun _ => rfl
  | clearOverride query => exact hchange _ (fun _ _ => rfl) fun _ => rfl
  | setFix fix =>
    -- feeds cannot be set, so nothing is done
    refine Board.Alike.answers ?_ _
    obtain ⟨f, g, hf, hg, hfg⟩ := h.owner.feeds
    have hs : ∀ {s : Service} {f : Feed Unit}, s.owner.source = .feed f →
        (s.mapOwner fun t => { t with source := setDeviceFix fix t.source }) = s := by
      intro s f hf
      have hsame : setDeviceFix fix s.owner.source = s.owner.source := by
        rw [hf]
        rfl
      rw [Board.mapOwner, hsame]
    rw [hs hf, hs hg]
    exact h
  | handSingle fix => exact (h.handSingle fix).certain _
  | breakMirror isDown => exact hchange _ (fun _ _ => rfl) fun _ => rfl
  | request r =>
    have hresponse := h.respond r
    rw [perform, perform]
    generalize Web.respond s r = p at hresponse ⊢
    generalize Web.respond s' r = p' at hresponse ⊢
    exact AlikeOut.elim hresponse fun s s' outcome hs => hs.answers _
  | fail failure => exact h.answers _

theorem alike_performAll (hu : Unaffected react) (h : s.Alike s') (actions : List Action) :
    AlikeOut (performAll (perform react) s actions) (performAll (perform react) s' actions) := by
  induction actions generalizing s s' with
  | nil => exact h.answers _
  | cons action actions ih =>
    rw [performAll, performAll]
    refine AlikeOut.elim (alike_perform hu h action) fun s s' outcome hs => ?_
    cases outcome with
    | ok answer => exact ih hs
    | error e => exact hs.answers _

/-- **Listeners with a script take no notice of the difference.** The induction is on how many others a
listener may be told in. -/
theorem unaffected_reaction (script : Script) (depth : Nat) : Unaffected (script.reaction depth) := by
  induction depth with
  | zero => exact fun s s' listener state h => h.answers none
  | succ depth ih =>
    intro s s' listener state h
    unfold Script.reaction
    exact AlikeOut.elim (alike_performAll ih h (script listener)) fun s s' outcome hs => hs.answers _

end Scenario

end Daylight
