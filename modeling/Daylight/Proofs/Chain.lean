import Daylight.Proofs.AllOrNothing
import Daylight.Proofs.Neighbours
import Daylight.Proofs.Outlook
import Mathlib.Logic.Function.Iterate

/-!
# The chain of wake-ups

A cycle that is run at the very millisecond of an event asks for a wake-up at the event after it. When
the wake-up comes, the clock shows that instant, and the trigger is processed, the next cycle is run at
the millisecond of that event; so the chain goes on, from event to event.

It goes on where the clock tells the time of the evaluation at the event. Where it does not, the evaluation
can fail, and then no wake-up is asked for and the chain has come to its end; or it passes a sunrise over.

## What is proved

* `exists_evaluate_at`: where the clock tells the time, an evaluation at the millisecond of an event comes to
  boundaries.
* `transitionAfter_at`: what the boundaries of an evaluation there name next. The moment never lies before an
  early sunset, since on a day on which the sun sets first that sunset is the first event.
* `cycle_at`, `misled_at`: so what becomes of a cycle there, and of the wake-up.
* `chain_at`, `wakes_of_tells`: the inductions along the chain. The invariant is `Turn.IsAt`: the clock of
  the turn shows the millisecond of the event, and the queue is empty.
* `chain_visits`: how far the chain visits every event.
* `breaks_in_short_night`: a chain that comes to its end.

How far a chain goes is otherwise only a matter of the calendar: it has to have room around the day of every
event that is visited (`Course.HasRoom`).
-/

namespace Daylight

/-- The clock tells the time of an evaluation at the millisecond of an event. -/
def Answers.TellsTimeAt (ask : Answers) (zone : Zone) (c : Course) (q : Query) : Prop :=
  ask.TellsTime (.ofInstant (c.millis q * 1000)) zone

/-! ### Evaluating at an event -/

section

variable {calculator : Calculator} {location : Location} {zone : Zone} {offset : Int} {c : Course}
  {now : Moment} {q : Query} {b : Boundaries}

/-- The day of an event, cut to its millisecond, is the day of the event. -/
theorem ofWall_millis (ha : c.IsAlternating offset) (hq : q.day.inCalendar = true) :
    Day.ofWall (c.millis q * 1000 + offset) = q.day := by
  have hday := ha.onDay q hq
  have hw := ha.whole
  obtain ⟨e, ⟨d⟩⟩ := q
  simp only [Day.ofWall, dayLength, second, Course.millis, Day.mk.injEq] at hday ⊢
  omega

/-- The days around an event. -/
theorem adjacentDays_at (hz : zone.HasOffset offset) (ha : c.IsAlternating offset)
    (hroom : c.HasRoom q.day) (hn : now.instant? = some (c.millis q * 1000)) :
    now.adjacentDays zone = .ok ⟨q.day.plus (-1), q.day, q.day.plus 1⟩ := by
  obtain ⟨hyc, -⟩ := hroom (q.day.plus (-1)) (by simp)
  obtain ⟨hdc, -⟩ := hroom q.day (by simp)
  obtain ⟨htc, -⟩ := hroom (q.day.plus 1) (by simp)
  have hday := ofWall_millis ha hdc
  have hd := Moment.adjacentDays_of_inCalendar hz hn (by rwa [hday]) (by rwa [hday])
  rwa [hday] at hd

/-- An event is the latest one at its millisecond, and the event after it is next. -/
theorem isNext_after (ha : c.IsAlternating offset) (hroom : c.HasRoom q.day) :
    c.IsNext (c.millis q) (c.after q) := by
  obtain ⟨hdc, -⟩ := hroom q.day (by simp)
  obtain ⟨htc, -⟩ := hroom (q.day.plus 1) (by simp)
  have hcons := ha.consecutive_after hdc htc
  exact (hcons.isLatest_isNext (le_refl _) hcons.2.2.1).2

/-- At the millisecond of an event no early sunset is still to come: it would be the first event of
the day. -/
theorem not_awaitsEarlySunset : ¬ c.AwaitsEarlySunset (c.millis q) q.day := by
  rintro ⟨hf, hlt⟩
  obtain ⟨e, d⟩ := q
  cases e with
  | sunrise => exact lt_asymm hf hlt
  | sunset => exact lt_irrefl _ hlt

/-- It is all one which moment shows the millisecond of the event. -/
theorem tellsTimeAt_iff (hz : zone.HasOffset offset) (ha : c.IsAlternating offset)
    (hroom : c.HasRoom q.day) (hn : now.instant? = some (c.millis q * 1000)) {ask : Answers} :
    ask.TellsTimeAt zone c q ↔ ask.TellsTime now zone := by
  have hd := adjacentDays_at hz ha hroom hn
  have hd' := adjacentDays_at hz ha hroom (Moment.instant?_ofInstant _)
  exact ⟨tellsTime_congr (hd'.trans hd.symm), tellsTime_congr (hd.trans hd'.symm)⟩

/-- Where the calendar has room, and the clock tells the time, **an evaluation at an event** comes to
boundaries. -/
theorem exists_evaluate_at (hz : zone.HasOffset offset) (ha : c.IsAlternating offset)
    (hc : calculator.Follows location zone c) (hroom : c.HasRoom q.day)
    (hn : now.instant? = some (c.millis q * 1000))
    (htells : (calculator.answers location zone).TellsTimeAt zone c q) :
    ∃ b, evaluate calculator (some location) now zone = .ok (some b) :=
  exists_evaluate hz ha hc (adjacentDays_at hz ha hroom hn) hroom ((tellsTimeAt_iff hz ha hroom hn).mp htells)

/-- **What comes next at an event**: the event after it, if the clock tells the time, or if the sunset of the
boundaries is still to come. -/
theorem transitionAfter_at (hz : zone.HasOffset offset) (ha : c.IsAlternating offset)
    (hc : calculator.Follows location zone c) (hroom : c.HasRoom q.day)
    (hn : now.instant? = some (c.millis q * 1000))
    (hb : evaluate calculator (some location) now zone = .ok (some b)) :
    b.transitionAfter (c.millis q) = c.millis (c.after q) ↔
      (calculator.answers location zone).TellsTimeAt zone c q ∨ c.millis q < b.sunset := by
  obtain ⟨hdc, -⟩ := hroom q.day (by simp)
  have hd := adjacentDays_at hz ha hroom hn
  obtain ⟨hs, he⟩ := ha.millis_mem hdc
  obtain ⟨-, next, -, hx, -, htransition⟩ := outlook_of_evaluate hz ha hc hb hd hs he not_awaitsEarlySunset
  obtain rfl : next = c.after q := ha.isNext_unique hx (isNext_after ha hroom)
  rw [htransition, tellsTimeAt_iff hz ha hroom hn]

end

/-! ### What a cycle leaves as it is -/

/-- Listeners that leave the tracker alone. -/
def Aloof (react : Reaction Tracker) : Prop :=
  ∀ s listener state, (react s listener state).1.owner = s.owner

/-- Such listeners cannot make a service unpunctual. -/
theorem Aloof.punctual {react : Reaction Tracker} (hr : Aloof react) : Punctual react := by
  intro s listener state hs
  rw [Service.IsPunctual, hr]
  exact hs

/-- Two trackers agree on what decides a cycle: the clock, the almanac, the last fix and the queue. -/
structure Tracker.Agrees (t u : Tracker) : Prop where
  /-- The clock is the same. -/
  clock : t.clock = u.clock
  /-- The almanac is the same. -/
  almanac : t.almanac = u.almanac
  /-- The last fix is the same. -/
  cache : t.cache = u.cache
  /-- The queue is the same. -/
  queue : t.queue = u.queue

theorem Tracker.Agrees.refl (t : Tracker) : t.Agrees t := ⟨rfl, rfl, rfl, rfl⟩

theorem Tracker.Agrees.trans {t u v : Tracker} (h₁ : t.Agrees u) (h₂ : u.Agrees v) : t.Agrees v :=
  ⟨h₁.clock.trans h₂.clock, h₁.almanac.trans h₂.almanac, h₁.cache.trans h₂.cache,
    h₁.queue.trans h₂.queue⟩

/-- Telling the listeners leaves the tracker alone, if they do. -/
theorem owner_notifyAll {react : Reaction Tracker} (hr : Aloof react) (s : Service)
    (state : Option Boundaries) : (s.notifyAll react state).owner = s.owner := by
  have hk : Kept react fun s' => s'.owner = s.owner :=
    ⟨fun s' write h => by rw [owner_record, h], fun _ _ _ h => h,
      fun s' listener state h => (hr s' listener state).trans h⟩
  exact hk.notifyAll rfl state

/-- Whatever a cycle does leaves alone what decides a cycle. -/
theorem agrees_perform {react : Reaction Tracker} (hr : Aloof react) (s : Service) (a : Act) :
    (a.perform react s).owner.Agrees s.owner := by
  cases a with
  | ask queries => exact ⟨rfl, rfl, rfl, rfl⟩
  | note entry =>
    rw [Act.perform, owner_report]
    exact .refl _
  | fanOut state =>
    rw [Act.perform, owner_notifyAll hr]
    exact .refl _
  | mirror flag =>
    simp only [Act.perform, Service.mirrorFlag]
    split
    · exact ⟨rfl, rfl, rfl, rfl⟩
    · rw [owner_report]
      exact .refl _
  | wake wanted =>
    rw [Act.perform]
    cases halarms : s.owner.alarms with
    | manual pending =>
      simp only [Service.schedule, halarms]
      exact ⟨rfl, rfl, rfl, rfl⟩
    | timers clock =>
      rw [(schedule_timers halarms wanted).1]
      exact ⟨rfl, rfl, rfl, rfl⟩

/-- So does the whole cycle. -/
theorem agrees_after {react : Reaction Tracker} (hr : Aloof react) (t : Turn) :
    (t.after react).owner.Agrees t.before.owner := by
  rw [t.after_eq_performAll react]
  exact performAll_induction (P := fun s => s.owner.Agrees t.before.owner)
    (fun s a _ hs => (agrees_perform hr s a).trans hs) (.refl _)

/-! ### The wake-up comes -/

/-- The clock comes to the pending wake-up, and its callback is run. -/
def Service.ring (s : Service) : Service :=
  match s.owner.alarms.pending? with
  | none => s
  | some due => ((Scenario.setClock s fun clock => { clock with now := due }).fire none).1

/-- What the wake-up changes: the clock shows its instant, and its trigger is on the queue. -/
theorem owner_ring {s : Service} (hs : s.owner.alarms.IsSound) {due : Moment}
    (hp : s.owner.alarms.pending? = some due) :
    ∃ alarms : Alarms, alarms.IsSound ∧ s.ring.owner =
      { s.owner with
        clock := { s.owner.clock with now := due }
        alarms := alarms
        queue := s.owner.queue ++ [.trigger .alarm] } := by
  simp only [Service.ring, hp]
  cases halarms : s.owner.alarms with
  | manual pending =>
    rw [halarms] at hp
    obtain rfl : pending = some due := hp
    refine ⟨.manual none, trivial, ?_⟩
    simp only [Service.fire, Scenario.setClock, Board.mapOwner, halarms]
    rfl
  | timers clock =>
    rw [halarms] at hs hp
    have hsound : clock.Sound := hs
    obtain ⟨i, hi, hplace⟩ := hsound.place?_last hp
    have htask : (clock.fire i).2 = some () := by
      simp [AlarmClock.fire, hi, List.getElem?_eq_getElem (AlarmClock.lt_of_place? hplace)]
    refine ⟨.timers (clock.fire i).1, hsound.fire i, ?_⟩
    simp only [Service.fire, Scenario.setClock, Board.mapOwner, halarms, Option.getD_none, hplace, htask,
      Service.onAlarm, Service.submit, owner_report]
    rfl

/-! ### Turns -/

/-- The turn after the wake-up of a turn: its trigger is processed. -/
def Turn.follow (react : Reaction Tracker) (t : Turn) : Turn :=
  ⟨(t.after react).ring.leave [], some .alarm⟩

/-- After the turn a wake-up is pending, at the millisecond. -/
def Turn.Wakes (t : Turn) (react : Reaction Tracker) (n : Int) : Prop :=
  (t.after react).owner.alarms.pending? = some (.ofInstant (n * 1000))

/-- **A turn at a millisecond**: its clock shows this millisecond, and nothing is on the queue. -/
structure Turn.IsAt (t : Turn) (almanac : Almanac) (location : Location) (zone : Zone) (n : Int) : Prop where
  /-- The clock has its zone. -/
  hasZone : t.before.owner.clock.zone = .ok zone
  /-- The clock shows the millisecond. -/
  shows : t.now.instant? = some (n * 1000)
  /-- The last fix is the location. -/
  hasFix : t.before.owner.cache = some location
  /-- The calculator is the one of the almanac. -/
  hasAlmanac : t.before.owner.almanac = almanac
  /-- Nothing is on the queue. -/
  isIdle : t.before.owner.queue = []
  /-- The timers are sound. -/
  isSound : t.before.owner.alarms.IsSound

section

variable {react : Reaction Tracker} {almanac : Almanac} {location : Location} {zone : Zone} {t : Turn}
  {n next : Int}

theorem Turn.IsAt.evaluation_eq (ht : t.IsAt almanac location zone n) :
    t.evaluation = evaluate almanac.calculator (some location) t.now zone := by
  have hlocation : t.location? = some location := by
    rw [Turn.location?, Tracker.location?, ht.hasFix]
  rw [Turn.evaluation, ht.hasZone, hlocation, ht.hasAlmanac]
  rfl

/-- A cycle whose evaluation fails leaves the alarms as they are. -/
theorem Turn.alarms_of_error {e : Failure} (h : t.evaluation = .error e) :
    (t.after react).owner.alarms = t.before.owner.alarms := by
  have huntouched : t.before.Untouched (t.after react) := Turn.untouched_of_error h
  obtain ⟨asked, howner⟩ := huntouched.owner
  rw [howner]

theorem Turn.IsAt.isPunctual (ht : t.IsAt almanac location zone n) : t.before.IsPunctual := by
  obtain ⟨zone', hzone, -⟩ := Moment.instant?_eq_some_iff.mp ht.shows
  have hne : t.now.zone ≠ none := by
    rw [hzone]
    exact Option.some_ne_none zone'
  exact ⟨hne, ht.isSound⟩

/-- A cycle at a millisecond that comes to boundaries does not fail, and the wake-up at what comes next is
pending. -/
theorem Turn.IsAt.outcome_of_present (hr : Aloof react) (ht : t.IsAt almanac location zone n) {b : Boundaries}
    (hb : t.evaluation = .ok (some b)) :
    t.outcome react = .ok (some b) ∧ (t.after react).owner.alarms.IsSound ∧
      t.Wakes react (b.transitionAfter n) := by
  obtain ⟨wanted, hw, hok, hsound, hpending⟩ := Turn.outcome_of_present hr.punctual ht.isPunctual hb
  -- the moment is cut to a millisecond already
  obtain ⟨i, hi, hc⟩ := inCalendar_of_evaluate (ht.evaluation_eq ▸ hb)
  have hmillis := Boundaries.millisOf_of_instant? hi hc
  obtain ⟨m, hm, -, hnext⟩ := Turn.outlook_of_evaluation hb
  obtain rfl : i / 1000 = m := Except.ok.inj (hmillis.symm.trans hm)
  obtain rfl : i = n * 1000 := Option.some.inj (hi.symm.trans ht.shows)
  rw [Int.mul_ediv_cancel _ (by decide)] at hnext
  obtain rfl : _ = wanted := Except.ok.inj (hnext.symm.trans hw)
  exact ⟨hok, hsound, hpending⟩

/-- The timers stay sound, whatever the evaluation comes to. -/
theorem Turn.IsAt.isSound_after (hr : Aloof react) (ht : t.IsAt almanac location zone n) :
    (t.after react).owner.alarms.IsSound := by
  cases heval : t.evaluation with
  | error e =>
    rw [Turn.alarms_of_error heval]
    exact ht.isSound
  | ok state =>
    obtain ⟨b, -, rfl⟩ := map_eq_ok_iff.mp (ht.evaluation_eq.symm.trans heval)
    exact (ht.outcome_of_present hr heval).2.1

/-- The wake-up of a turn at one millisecond leads to a turn at the millisecond for which it was asked. -/
theorem Turn.IsAt.follow (hr : Aloof react) (ht : t.IsAt almanac location zone n) (hw : t.Wakes react next) :
    (t.follow react).IsAt almanac location zone next := by
  have hagrees := agrees_after hr t
  obtain ⟨alarms, halarms, howner⟩ := owner_ring (ht.isSound_after hr) hw
  have hbefore : (t.follow react).before.owner =
      { (t.after react).owner with
        clock := { (t.after react).owner.clock with now := .ofInstant (next * 1000) }
        alarms := alarms
        queue := [] } := by
    simp only [Turn.follow, Service.leave, Board.mapOwner, howner]
  constructor
  · rw [hbefore]
    dsimp only
    rw [hagrees.clock]
    exact ht.hasZone
  · rw [Turn.now, hbefore]
    exact Moment.instant?_ofInstant _
  · rw [hbefore]
    exact hagrees.cache.trans ht.hasFix
  · rw [hbefore]
    exact hagrees.almanac.trans ht.hasAlmanac
  · rw [hbefore]
  · rw [hbefore]
    exact halarms

theorem drain_of_empty {s : Service} (hq : s.owner.queue = []) (bound : Nat) :
    s.drain react bound = (s, 0) := by
  cases bound with
  | zero => rfl
  | succ bound => simp only [Service.drain, hq]

theorem drain_of_single {s : Service} {trigger : Trigger} (hq : s.owner.queue = [.trigger trigger])
    (bound : Nat) : s.drain react (bound + 1) =
      ((((s.leave []).process react trigger).drain react bound).1,
        (((s.leave []).process react trigger).drain react bound).2 + 1) := by
  simp only [Service.drain, hq]
  rfl

/-- Processing the queue after a wake-up is the cycle of the turn that follows, unless that cycle fails. -/
theorem Turn.IsAt.runPending_ring (hr : Aloof react) (ht : t.IsAt almanac location zone n)
    (hw : t.Wakes react next) {state : Option Boundaries} (hok : (t.follow react).outcome react = .ok state) :
    (t.after react).ring.runPending react = ((t.follow react).after react, 1) := by
  obtain ⟨alarms, -, howner⟩ := owner_ring (ht.isSound_after hr) hw
  have hqueue : (t.after react).ring.owner.queue = [.trigger .alarm] := by
    rw [howner]
    dsimp only
    rw [(agrees_after hr t).queue, ht.isIdle]
    rfl
  have hempty : ((t.follow react).after react).owner.queue = [] :=
    (agrees_after hr (t.follow react)).queue.trans (ht.follow hr hw).isIdle
  have hprocess : ((t.after react).ring.leave []).process react .alarm = (t.follow react).after react :=
    Turn.process_eq_after hok
  rw [Service.runPending, hqueue, List.length_singleton, Nat.add_comm, drain_of_single hqueue, hprocess,
    drain_of_empty hempty]

end

/-! ### From event to event -/

section

variable {react : Reaction Tracker} {almanac : Almanac} {location : Location} {zone : Zone} {offset : Int}
  {c : Course} {t : Turn} {q : Query}

/-- **A cycle at an event** succeeds where the clock tells the time, and its wake-up is at the event after. -/
theorem cycle_at (hr : Aloof react) (hz : zone.HasOffset offset) (ha : c.IsAlternating offset)
    (hc : almanac.calculator.Follows location zone c) (ht : t.IsAt almanac location zone (c.millis q))
    (hroom : c.HasRoom q.day)
    (htells : (almanac.calculator.answers location zone).TellsTimeAt zone c q) :
    (∃ b, t.outcome react = .ok (some b)) ∧ t.Wakes react (c.millis (c.after q)) := by
  obtain ⟨b, hb⟩ := exists_evaluate_at hz ha hc hroom ht.shows htells
  have hnext := (transitionAfter_at hz ha hc hroom ht.shows hb).mpr (.inl htells)
  obtain ⟨hok, -, hw⟩ := ht.outcome_of_present hr (ht.evaluation_eq.trans hb)
  rw [hnext] at hw
  exact ⟨⟨b, hok⟩, hw⟩

/-- **A cycle at an event where the clock does not tell the time.** Its evaluation fails, and the alarms are
left as they are; or it passes tomorrow's sunrise over, and the wake-up is at the event after only if the sunset
of its boundaries is still to come. -/
theorem misled_at (hr : Aloof react) (hz : zone.HasOffset offset) (ha : c.IsAlternating offset)
    (hc : almanac.calculator.Follows location zone c) (ht : t.IsAt almanac location zone (c.millis q))
    (hroom : c.HasRoom q.day)
    (hmisled : ¬ (almanac.calculator.answers location zone).TellsTimeAt zone c q) :
    (∃ e, t.evaluation = .error e ∧ (t.after react).owner.alarms = t.before.owner.alarms) ∨
      ∃ b, t.outcome react = .ok (some b) ∧ b.nextSunrise = c.millis ⟨.sunrise, q.day.plus 2⟩ ∧
        t.Wakes react (b.transitionAfter (c.millis q)) ∧
        (b.transitionAfter (c.millis q) = c.millis (c.after q) ↔ c.millis q < b.sunset) := by
  cases heval : t.evaluation with
  | error e => exact .inl ⟨e, rfl, Turn.alarms_of_error heval⟩
  | ok state =>
    have hstate := ht.evaluation_eq.symm.trans heval
    obtain ⟨b, -, rfl⟩ := map_eq_ok_iff.mp hstate
    obtain ⟨hok, -, hw⟩ := ht.outcome_of_present hr heval
    obtain ⟨hdc, -⟩ := hroom q.day (by simp)
    obtain ⟨first, hf⟩ := ha.exists_comesFirst hdc
    obtain ⟨d, -, ⟨-, -, -, hx⟩, -, hd⟩ :=
      areOf_of_evaluate hz ha hc (adjacentDays_at hz ha hroom ht.shows) hf hstate
    rw [hd (mt (tellsTimeAt_iff hz ha hroom ht.shows).mpr hmisled), Day.plus_plus] at hx
    refine .inr ⟨b, hok, hx, hw, ?_⟩
    rw [transitionAfter_at hz ha hc hroom ht.shows hstate]
    exact or_iff_right hmisled

/-- **The chain keeps to the events** as long as every wake-up is at the event after. The induction is on its
length; a turn at an event leads to a turn at the event after it. -/
theorem chain_at (hr : Aloof react) (ht : t.IsAt almanac location zone (c.millis q)) :
    ∀ k, (∀ j < k, ((Turn.follow react)^[j] t).Wakes react (c.millis (c.after^[j + 1] q))) →
      ((Turn.follow react)^[k] t).IsAt almanac location zone (c.millis (c.after^[k] q)) := by
  intro k
  induction k with
  | zero => exact fun _ => ht
  | succ k ih =>
    intro hwakes
    rw [Function.iterate_succ_apply']
    exact (ih fun j hj => hwakes j (by omega)).follow hr (hwakes k (by omega))

/-- And that every wake-up is where the clock tells the time. -/
theorem wakes_of_tells (hr : Aloof react) (hz : zone.HasOffset offset) (ha : c.IsAlternating offset)
    (hc : almanac.calculator.Follows location zone c) (ht : t.IsAt almanac location zone (c.millis q)) :
    ∀ k, (∀ j < k, c.HasRoom (c.after^[j] q).day ∧
        (almanac.calculator.answers location zone).TellsTimeAt zone c (c.after^[j] q)) →
      ∀ j < k, ((Turn.follow react)^[j] t).Wakes react (c.millis (c.after^[j + 1] q)) := by
  intro k
  induction k with
  | zero => exact fun _ j hj => absurd hj (Nat.not_lt_zero j)
  | succ k ih =>
    intro hway
    have hbefore := ih fun j hj => hway j (by omega)
    obtain ⟨hroom, htells⟩ := hway k (by omega)
    obtain ⟨-, hw⟩ := cycle_at hr hz ha hc (chain_at hr ht k hbefore) hroom htells
    rw [← Function.iterate_succ_apply' c.after] at hw
    intro j hj
    obtain hlt | rfl := Nat.lt_succ_iff_lt_or_eq.mp hj
    · exact hbefore j hlt
    · exact hw

/-- **How far the chain of wake-ups visits every event.** It begins with a cycle at an event, and the calendar
has room. As long as the clock tells the time of the evaluations, every cycle succeeds; the event that its
wake-up is asked for is the next one after that of the cycle, so none is left out and none comes twice; and the
queue, when the wake-up has come and its trigger is processed, makes exactly the cycle that follows. But at an
event to which the chain has come and where the clock does not tell the time, the evaluation fails and no wake-up
is asked for; or tomorrow's sunrise is passed over, and then the wake-up is at the next event only if the sunset
of the boundaries is still to come. -/
theorem chain_visits (hr : Aloof react) (hz : zone.HasOffset offset) (ha : c.IsAlternating offset)
    (hc : almanac.calculator.Follows location zone c) (ht : t.IsAt almanac location zone (c.millis q)) {n : Nat}
    (hroom : ∀ k ≤ n, c.HasRoom (c.after^[k] q).day) :
    (∀ k ≤ n, (∀ j ≤ k, (almanac.calculator.answers location zone).TellsTimeAt zone c (c.after^[j] q)) →
      (∃ b, ((Turn.follow react)^[k] t).outcome react = .ok (some b)) ∧
      c.IsNext (c.millis (c.after^[k] q)) (c.after^[k + 1] q) ∧
      ((Turn.follow react)^[k] t).Wakes react (c.millis (c.after^[k + 1] q)) ∧
      ∀ state, ((Turn.follow react)^[k + 1] t).outcome react = .ok state →
        (((Turn.follow react)^[k] t).after react).ring.runPending react =
          (((Turn.follow react)^[k + 1] t).after react, 1)) ∧
    ∀ k ≤ n, (∀ j < k, ((Turn.follow react)^[j] t).Wakes react (c.millis (c.after^[j + 1] q))) →
      ¬ (almanac.calculator.answers location zone).TellsTimeAt zone c (c.after^[k] q) →
      (∃ e, ((Turn.follow react)^[k] t).evaluation = .error e ∧
        (((Turn.follow react)^[k] t).after react).owner.alarms =
          ((Turn.follow react)^[k] t).before.owner.alarms) ∨
      ∃ b, ((Turn.follow react)^[k] t).outcome react = .ok (some b) ∧
        b.nextSunrise = c.millis ⟨.sunrise, (c.after^[k] q).day.plus 2⟩ ∧
        ((Turn.follow react)^[k] t).Wakes react (b.transitionAfter (c.millis (c.after^[k] q))) ∧
        (b.transitionAfter (c.millis (c.after^[k] q)) = c.millis (c.after^[k + 1] q) ↔
          c.millis (c.after^[k] q) < b.sunset) := by
  constructor
  · intro k hk htells
    have hwakes := wakes_of_tells hr hz ha hc ht k fun j hj => ⟨hroom j (by omega), htells j (by omega)⟩
    have hat := chain_at hr ht k hwakes
    rw [Function.iterate_succ_apply', Function.iterate_succ_apply']
    obtain ⟨houtcome, hw⟩ := cycle_at hr hz ha hc hat (hroom k hk) (htells k (le_refl k))
    exact ⟨houtcome, isNext_after ha (hroom k hk), hw, fun _ hok => hat.runPending_ring hr hw hok⟩
  · intro k hk hwakes
    rw [Function.iterate_succ_apply']
    exact misled_at hr hz ha hc (chain_at hr ht k hwakes) (hroom k hk)

end

/-! ### Days on which the sun sets first -/

/-- A cycle at the sunset of 2023-06-21, which comes at 04:00. -/
def sunsetTurn : Turn :=
  ⟨(eveningService (.ofInstant 1687320000000000)).mapOwner (·.remember home), none⟩

/-- From that sunset on, the wake-ups are at the sunrise of that evening, and at the sunset and the
sunrise of the next day. -/
theorem visits_evenings :
    (sunsetTurn.after .idle).owner.alarms.pending? = some (.ofInstant 1687377600000000) ∧
      (((Turn.follow .idle)^[1] sunsetTurn).after .idle).owner.alarms.pending? =
        some (.ofInstant 1687406400000000) ∧
      (((Turn.follow .idle)^[2] sunsetTurn).after .idle).owner.alarms.pending? =
        some (.ofInstant 1687464000000000) := by
  have ha : (eveningSunrise.course 0).IsAlternating 0 :=
    DailyTimes.isAlternating_course isRegular_eveningSunrise rfl
  have ht : sunsetTurn.IsAt ⟨eveningSunrise.calculator, []⟩ home .utc
      ((eveningSunrise.course 0).millis ⟨.sunset, ⟨19529⟩⟩) :=
    ⟨rfl, rfl, rfl, rfl, rfl, AlarmClock.sound_empty⟩
  have hc : Calculator.Follows (Almanac.calculator ⟨eveningSunrise.calculator, []⟩) home .utc
      (eveningSunrise.course 0) :=
    DailyTimes.follows_course isRegular_eveningSunrise Zone.hasOffset_utc home
  have hdays : ∀ k ≤ 2,
      ((((eveningSunrise.course 0).after^[k] ⟨.sunset, ⟨19529⟩⟩).day).plus (-2)).inCalendar = true ∧
        ((((eveningSunrise.course 0).after^[k] ⟨.sunset, ⟨19529⟩⟩).day).plus 2).inCalendar = true := by
    decide
  have hr : Aloof .idle := fun _ _ _ => rfl
  have htells : ∀ k, (Calculator.answers (Almanac.calculator ⟨eveningSunrise.calculator, []⟩) home
      .utc).TellsTimeAt .utc (eveningSunrise.course 0) ((eveningSunrise.course 0).after^[k]
        ⟨.sunset, ⟨19529⟩⟩) :=
    fun _ => eveningSunrise.tellsTime Zone.hasOffset_utc home _
  have hvisits := chain_visits hr Zone.hasOffset_utc ha hc ht fun k hk =>
    hasRoom_of_day Zone.hasOffset_utc ha (hdays k hk).1 (hdays k hk).2
  have hpending := fun k hk => (hvisits.1 k hk fun j _ => htells j).2.2.1
  refine ⟨(hpending 0 (by decide)).trans ?_, (hpending 1 (by decide)).trans ?_,
    (hpending 2 (by decide)).trans ?_⟩
  all_goals decide

/-- A cycle at the sunrise of 2023-11-04, which comes at 06:10. -/
def shortNightTurn : Turn :=
  ⟨(Service.ofTracker [] (.ofParts ⟨.ofInstant 1699078200000000, .ok .utc⟩ shortNightAlmanac (.fixed home)
    (.timers .empty) (.memory .empty false))).mapOwner (·.remember home), none⟩

/-- **A chain that comes to its end.** Everything alternates and is in range, the clock is that of universal
time, and the first cycle asks for the wake-up at the sunset of 2023-11-05, at 05:50. That wake-up comes, the
sunrise at 06:10 is next, but the evaluation fails and no wake-up is pending any more. -/
theorem breaks_in_short_night :
    (shortNight.course 0).IsAlternating 0 ∧
      Calculator.Follows shortNightAlmanac.calculator home .utc (shortNight.course 0) ∧
      shortNightTurn.IsAt shortNightAlmanac home .utc ((shortNight.course 0).millis ⟨.sunrise, ⟨19665⟩⟩) ∧
      (∀ k ≤ 1, (shortNight.course 0).HasRoom
        ((shortNight.course 0).after^[k] ⟨.sunrise, ⟨19665⟩⟩).day) ∧
      shortNightTurn.Wakes .idle 1699163400000 ∧
      (shortNightTurn.follow .idle).IsAt shortNightAlmanac home .utc
        ((shortNight.course 0).millis ⟨.sunset, ⟨19666⟩⟩) ∧
      (shortNight.course 0).IsNext ((shortNight.course 0).millis ⟨.sunset, ⟨19666⟩⟩) ⟨.sunrise, ⟨19666⟩⟩ ∧
      (shortNightTurn.follow .idle).evaluation = .error (.inconsistent ⟨19666⟩) ∧
      (shortNightTurn.after .idle).ring.runPending .idle = ((shortNightTurn.follow .idle).after .idle, 1) ∧
      ((shortNightTurn.follow .idle).after .idle).owner.alarms.pending? = none := by
  have hz := Zone.hasOffset_utc
  have hr : Aloof .idle := fun _ _ _ => rfl
  have ha : (shortNight.course 0).IsAlternating 0 := DailyTimes.isAlternating_course isRegular_shortNight rfl
  have ht : shortNightTurn.IsAt shortNightAlmanac home .utc
      ((shortNight.course 0).millis ⟨.sunrise, ⟨19665⟩⟩) :=
    ⟨rfl, rfl, rfl, rfl, rfl, AlarmClock.sound_empty⟩
  have hroom : ∀ day : Int, day = 19665 ∨ day = 19666 → (shortNight.course 0).HasRoom ⟨day⟩ := by
    rintro day (rfl | rfl)
    · exact hasRoom_of_day hz ha (by decide) (by decide)
    · exact hasRoom_of_day hz ha (by decide) (by decide)
  have heval : shortNightTurn.evaluation =
      .ok (some ⟨1699077000000, 1699078200000, 1699163400000, 1699251000000, by decide⟩) := by
    decide +kernel
  obtain ⟨-, -, hw⟩ := ht.outcome_of_present hr heval
  have hnext : Boundaries.transitionAfter
      ⟨1699077000000, 1699078200000, 1699163400000, 1699251000000, by decide⟩
      ((shortNight.course 0).millis ⟨.sunrise, ⟨19665⟩⟩) =
        (shortNight.course 0).millis ⟨.sunset, ⟨19666⟩⟩ := by
    decide
  rw [hnext] at hw
  have hok : (shortNightTurn.follow .idle).outcome .idle = .ok none := by decide +kernel
  refine ⟨ha, follows_shortNightAlmanac, ht, ?_, hw, ht.follow hr hw, ?_, by decide +kernel,
    ht.runPending_ring hr hw hok, by decide +kernel⟩
  · intro k hk
    obtain rfl | rfl : k = 0 ∨ k = 1 := by omega
    · exact hroom 19665 (.inl rfl)
    · exact hroom 19666 (.inr rfl)
  · exact isNext_after ha (hroom 19666 (.inr rfl))

end Daylight
