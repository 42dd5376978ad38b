import Daylight.Proofs.Leftover

/-!
# Wake-ups of a clock that is set

A timer does not look at the clock. It is started with the time that is left until its wake-up, and goes
off when that much time has passed. While the clock runs on, it shows the instant of the wake-up just then.
But a clock may be set, forwards or backwards. The service is told so, a cycle is run, and the cycle asks
for its wake-up by the clock as it is now. Where the wake-up is at another instant than the one before, a
new timer is started, and all is well. Where it is at the same instant, the timer that runs is kept, with
the time that was left by the clock as it was.

So time has to be counted apart from the clock (`Timed.elapsed`). What the clock shows is ahead of it by a
lead, which stays while the clock runs on, and changes when the clock is set. A timer is exact as long as
the lead is what it was when the timer was started.

## What is proved

* `areStarted_arm`, `areStarted_schedule`: a timer has the time that was left when it was started.
* `isTimed_cycle`, `isTimed_of_timeline`: the step lemma and the run lemma. This is so of all timers, in
  every state of a run.
* `exact_iff_of_timeline`: after a cycle that answers with boundaries the live timer is exact if, and only
  if, the clock is as far ahead of the time that has passed as when that timer was started. A timer is
  older than the cycle only if its wake-up was pending already.
* `late_after_jump`: so not every cycle leaves an exact timer behind.
-/

namespace Daylight

/-! ### Services in time -/

/-- When a timer was started. -/
structure Start where
  /-- The time that had passed by then, in microseconds. -/
  elapsed : Int
  /-- What the clock showed then. -/
  shown : Moment

/-- A service in time. -/
structure Timed where
  /-- The service. -/
  service : Service
  /-- The time that has passed, in microseconds. Setting the clock does not change it. -/
  elapsed : Int
  /-- When the timers were started, in their order. -/
  starts : List Start

/-- How many timers were started. -/
def Alarms.started : Alarms → Nat
  | manual _ => 0
  | timers clock => clock.timers.length

/-- At most, timers were cancelled or have gone off. -/
def Service.Eases (s s' : Service) : Prop :=
  s'.owner.alarms = s.owner.alarms ∨ s'.owner.alarms = s.owner.alarms.cancel ∨
    ∃ clock i, s.owner.alarms = .timers clock ∧ s'.owner.alarms = .timers (clock.fire i).1

namespace Timed

/-- What the clock shows. -/
def now (x : Timed) : Moment := x.service.owner.clock.now

/-- The cycle that is run now, for some reason. -/
def turn (x : Timed) (reason : Option Trigger) : Turn := ⟨x.service, reason⟩

/-- The service with a clock that shows something else. -/
def showing (x : Timed) (now : Moment) : Timed :=
  { x with service := Scenario.setClock x.service fun clock => { clock with now := now } }

/-- A cycle is run. It takes no time; a timer that it starts begins to run now. -/
def cycle (react : Reaction Tracker) (x : Timed) (reason : Option Trigger) : Timed :=
  let after := (x.turn reason).after react
  let count := after.owner.alarms.started - x.service.owner.alarms.started
  ⟨after, x.elapsed, x.starts ++ List.replicate count ⟨x.elapsed, x.now⟩⟩

/-- The live timer, and when it was started. -/
def IsLive (x : Timed) (timer : Timer Unit) (start : Start) : Prop :=
  ∃ clock i, x.service.owner.alarms = .timers clock ∧ clock.live = some i ∧
    clock.timers[i]? = some timer ∧ x.starts[i]? = some start

end Timed

/-- The time at which a timer goes off. -/
def Start.goesOff (start : Start) (timer : Timer Unit) : Int := start.elapsed + timer.delay

/-- A wake-up that comes at a time is exact: the clock, when it runs on, shows the instant that is wanted
just then. If that is over already, the wake-up comes at once. -/
def IsExact (elapsed shown wanted goesOff : Int) : Prop :=
  if shown < wanted then goesOff = elapsed + (wanted - shown) else goesOff ≤ elapsed

instance (elapsed shown wanted goesOff : Int) : Decidable (IsExact elapsed shown wanted goesOff) :=
  inferInstanceAs (Decidable (if shown < wanted then goesOff = _ else goesOff ≤ elapsed))

/-- The states of a service in time that a run can reach. -/
inductive Timeline (react : Reaction Tracker) : Timed → Prop
  /-- The run begins with no timer. -/
  | init {s : Service} (elapsed : Int) : s.owner.alarms = .timers .empty → Timeline react ⟨s, elapsed, []⟩
  /-- Time passes, and the clock runs on. -/
  | pass {x : Timed} {now : Moment} {shown span : Int} : Timeline react x → 0 ≤ span →
      x.now.instant? = some shown → now.instant? = some (shown + span) →
      Timeline react { x.showing now with elapsed := x.elapsed + span }
  /-- The clock is set. -/
  | set {x : Timed} (now : Moment) : Timeline react x → Timeline react (x.showing now)
  /-- Something happens that starts no timer and leaves the clock alone. -/
  | between {x : Timed} {s : Service} : Timeline react x → s.owner.clock.now = x.now → x.service.Eases s →
      Timeline react { x with service := s }
  /-- A cycle is run, for some reason. -/
  | cycle {x : Timed} (reason : Option Trigger) : Timeline react x → Timeline react (x.cycle react reason)

/-- Listeners that do not set the clock. -/
def KeepsTime (react : Reaction Tracker) : Prop :=
  ∀ s : Service, ∀ listener state, (react s listener state).1.owner.clock.now = s.owner.clock.now

/-- What happens between two cycles starts no timer. -/
theorem eases_of_stir {s s' : Service} (hs : HasSoundTimers s) (h : Stir s s') : s.Eases s' := by
  obtain ⟨clock, hclock, -⟩ := hs
  rcases stir_cases h hclock with ⟨-, ha | ⟨i, -, ha, -⟩⟩
  · exact Or.inl (ha.trans hclock.symm)
  · exact Or.inr (Or.inr ⟨clock, i, hclock, ha⟩)

/-- A moment of universal time is that of one instant. -/
theorem eq_of_ofInstant {i j : Int} (h : Moment.ofInstant i = .ofInstant j) : i = j := by
  cases h
  rfl

/-! ### The time that was left -/

/-- A timer was started with the time that was left until its wake-up, and not after `elapsed`. -/
def Start.IsOf (start : Start) (timer : Timer Unit) (elapsed : Int) : Prop :=
  start.elapsed ≤ elapsed ∧ ∃ wanted began, timer.due = .ofInstant wanted ∧
    start.shown.instant? = some began ∧ timer.delay = max 0 (wanted - began)

namespace AlarmClock

variable {clock : AlarmClock Unit} {starts : List Start} {elapsed : Int}

/-- It is known of all timers when they were started. -/
def AreStarted (clock : AlarmClock Unit) (starts : List Start) (elapsed : Int) : Prop :=
  clock.timers.length = starts.length ∧ ∀ (i : Nat) (timer : Timer Unit), clock.timers[i]? = some timer →
    ∃ start, starts[i]? = some start ∧ start.IsOf timer elapsed

theorem areStarted_empty (elapsed : Int) : (empty : AlarmClock Unit).AreStarted [] elapsed :=
  ⟨rfl, fun i timer h => by simp [empty] at h⟩

theorem AreStarted.later (h : clock.AreStarted starts elapsed) {later : Int} (hle : elapsed ≤ later) :
    clock.AreStarted starts later := by
  refine ⟨h.1, fun i timer htimer => ?_⟩
  obtain ⟨start, hstart, hbefore, hleft⟩ := h.2 i timer htimer
  exact ⟨start, hstart, hbefore.trans hle, hleft⟩

/-- What is done to a timer that was started changes neither its wake-up nor the time it runs. -/
theorem areStarted_modify (h : clock.AreStarted starts elapsed) (i : Nat) {f : Timer Unit → Timer Unit}
    (live : Option Nat) (hf : ∀ timer, (f timer).due = timer.due ∧ (f timer).delay = timer.delay) :
    (⟨clock.timers.modify i f, live⟩ : AlarmClock Unit).AreStarted starts elapsed := by
  refine ⟨by rw [List.length_modify, h.1], fun j timer htimer => ?_⟩
  rw [List.getElem?_modify] at htimer
  obtain ⟨before, hbefore, rfl⟩ := Option.map_eq_some_iff.mp htimer
  obtain ⟨start, hstart, hle, wanted, began, hdue, hbegan, hdelay⟩ := h.2 j before hbefore
  refine ⟨start, hstart, hle, wanted, began, ?_, hbegan, ?_⟩
  · split
    · rw [(hf before).1, hdue]
    · exact hdue
  · split
    · rw [(hf before).2, hdelay]
    · exact hdelay

theorem areStarted_cancel (h : clock.AreStarted starts elapsed) : clock.cancel.AreStarted starts elapsed := by
  unfold AlarmClock.cancel
  split
  · exact h
  · exact areStarted_modify h _ none fun _ => ⟨rfl, rfl⟩

theorem areStarted_fire (h : clock.AreStarted starts elapsed) (number : Nat) :
    (clock.fire number).1.AreStarted starts elapsed := by
  unfold AlarmClock.fire
  split
  · exact areStarted_modify h number none fun _ => ⟨rfl, rfl⟩
  · exact h

/-- A timer that is started now. -/
theorem areStarted_arm (h : clock.AreStarted starts elapsed) {now : Moment} {shown : Int}
    (hn : now.instant? = some shown) (wanted : Int) :
    (clock.arm (.ofInstant wanted) (max 0 (wanted - shown)) ()).AreStarted (starts ++ [⟨elapsed, now⟩])
      elapsed := by
  obtain ⟨hlength, hstarts⟩ := h
  refine ⟨by simp [arm, hlength], fun i timer htimer => ?_⟩
  simp only [arm] at htimer
  rcases lt_trichotomy i clock.timers.length with hlt | rfl | hgt
  · rw [List.getElem?_append_left hlt] at htimer
    obtain ⟨start, hstart, hof⟩ := hstarts i timer htimer
    rw [List.getElem?_append_left (hlength ▸ hlt)]
    exact ⟨start, hstart, hof⟩
  · rw [List.getElem?_concat_length] at htimer
    obtain rfl := Option.some.inj htimer
    refine ⟨⟨elapsed, now⟩, ?_, le_refl elapsed, wanted, shown, rfl, hn, rfl⟩
    rw [hlength, List.getElem?_concat_length]
  · rw [List.getElem?_eq_none (by simp; omega)] at htimer
    cases htimer

/-- The time from what the clock shows to an instant. -/
theorem instant?_of_since {wanted left : Int} {now : Moment}
    (h : (Moment.ofInstant wanted).since now = .ok left) :
    ∃ shown, now.instant? = some shown ∧ left = wanted - shown := by
  unfold Moment.since at h
  split at h
  · rename_i hzone
    have hn : now.instant? = some now.wall :=
      Moment.instant?_eq_some_iff.mpr ⟨.utc, hzone.symm, by simp [Zone.utc, Zone.offsetAtWall]⟩
    exact ⟨now.wall, hn, (Except.ok.inj h).symm⟩
  · rw [Moment.instant?_ofInstant] at h
    cases hn : now.instant? with
    | none =>
      rw [hn] at h
      cases h
    | some shown =>
      rw [hn] at h
      exact ⟨shown, rfl, (Except.ok.inj h).symm⟩

/-- What asking for a wake-up does to the timers: at most one is cancelled, and at most one is started,
with the time that is left by the clock. -/
theorem schedule_started_cases (clock : AlarmClock Unit) (wanted : Int) (now : Moment) :
    (clock.schedule (.ofInstant wanted) now ()).1 = clock ∨
      (clock.schedule (.ofInstant wanted) now ()).1 = clock.cancel ∨
      ∃ shown, now.instant? = some shown ∧ (clock.schedule (.ofInstant wanted) now ()).1 =
        clock.cancel.arm (.ofInstant wanted) (max 0 (wanted - shown)) () := by
  unfold AlarmClock.schedule
  cases hutc : (Moment.ofInstant wanted).toUtc with
  | error e => exact Or.inl rfl
  | ok due =>
    obtain rfl := Moment.eq_of_toUtc_ofInstant hutc
    dsimp only
    split
    · exact Or.inl rfl
    · cases hleft : (Moment.ofInstant wanted).since now with
      | error e => exact Or.inr (Or.inl rfl)
      | ok left =>
        obtain ⟨shown, hn, rfl⟩ := instant?_of_since hleft
        exact Or.inr (Or.inr ⟨shown, hn, rfl⟩)

theorem length_timers_cancel (clock : AlarmClock Unit) :
    clock.cancel.timers.length = clock.timers.length := by
  unfold AlarmClock.cancel
  split
  · rfl
  · exact List.length_modify ..

/-- **A timer has the time that is left by the clock when it is started.** -/
theorem areStarted_schedule (h : clock.AreStarted starts elapsed) (wanted : Int) (now : Moment) :
    let after := (clock.schedule (.ofInstant wanted) now ()).1
    after.AreStarted
      (starts ++ List.replicate (after.timers.length - clock.timers.length) ⟨elapsed, now⟩) elapsed := by
  have hnone : ∀ after : AlarmClock Unit, after.timers.length = clock.timers.length →
      after.AreStarted starts elapsed → after.AreStarted
        (starts ++ List.replicate (after.timers.length - clock.timers.length) ⟨elapsed, now⟩) elapsed := by
    intro after hlength hafter
    rw [hlength, Nat.sub_self, List.replicate_zero, List.append_nil]
    exact hafter
  rcases clock.schedule_started_cases wanted now with heq | heq | ⟨shown, hn, heq⟩
  · rw [heq]
    exact hnone clock rfl h
  · rw [heq]
    exact hnone clock.cancel (length_timers_cancel clock) (areStarted_cancel h)
  · have hone : (clock.cancel.arm (.ofInstant wanted) (max 0 (wanted - shown)) ()).timers.length -
        clock.timers.length = 1 := by
      simp [arm, length_timers_cancel]
    rw [heq]
    dsimp only
    rw [hone]
    exact areStarted_arm (areStarted_cancel h) hn wanted

end AlarmClock

/-! ### Runs -/

/-- The timers of a service are sound, and it is known of all of them when they were started. -/
def Service.IsTimed (s : Service) (starts : List Start) (elapsed : Int) : Prop :=
  ∃ clock, s.owner.alarms = .timers clock ∧ clock.Sound ∧ clock.AreStarted starts elapsed

theorem Service.IsTimed.hasSoundTimers {s : Service} {starts : List Start} {elapsed : Int}
    (h : s.IsTimed starts elapsed) : HasSoundTimers s := by
  obtain ⟨clock, hclock, hsound, -⟩ := h
  exact ⟨clock, hclock, hsound⟩

/-- All timers that were started are counted. -/
theorem Service.IsTimed.started {s : Service} {starts : List Start} {elapsed : Int}
    (h : s.IsTimed starts elapsed) : s.owner.alarms.started = starts.length := by
  obtain ⟨clock, hclock, -, hlength, -⟩ := h
  rw [hclock]
  exact hlength

theorem isTimed_of_eases {s s' : Service} {starts : List Start} {elapsed : Int}
    (h : s.IsTimed starts elapsed) (he : s.Eases s') : s'.IsTimed starts elapsed := by
  obtain ⟨clock, hclock, hsound, hstarted⟩ := h
  rcases he with ha | ha | ⟨clock', i, hclock', ha⟩
  · exact ⟨clock, ha.trans hclock, hsound, hstarted⟩
  · rw [hclock] at ha
    exact ⟨clock.cancel, ha, hsound.cancel, AlarmClock.areStarted_cancel hstarted⟩
  · obtain rfl : clock' = clock := Alarms.timers.inj (hclock'.symm.trans hclock)
    exact ⟨_, ha, hsound.fire i, AlarmClock.areStarted_fire hstarted i⟩

section

variable {react : Reaction Tracker} (hr : Stirring react) (hk : KeepsTime react)

include hk in
/-- What a cycle does before it asks for a wake-up does not set the clock. -/
theorem now_prelude (t : Turn) : (performAll react t.before t.prelude).owner.clock.now = t.now := by
  have hkept : Kept react fun s => s.owner.clock.now = t.now :=
    ⟨fun s write h => by rw [owner_record, h], fun _ _ _ h => h,
      fun s listener state h => (hk s listener state).trans h⟩
  refine performAll_induction (P := fun s => s.owner.clock.now = t.now) (fun s a ha hs => ?_) rfl
  refine hkept.perform (fun _ _ _ h => h) (fun _ _ h => h) (fun wanted hw => ?_) hs
  rw [hw] at ha
  exact absurd ha (t.wake_notMem_prelude wanted)

include hr in
theorem isTimed_prelude {t : Turn} {starts : List Start} {elapsed : Int}
    (h : t.before.IsTimed starts elapsed) : (performAll react t.before t.prelude).IsTimed starts elapsed := by
  refine kept_prelude hr (P := fun s => s.IsTimed starts elapsed) (fun s s' ha hs => ?_)
    (fun s s' hst hs => ?_) h
  · exact isTimed_of_eases hs (Or.inl ha)
  · exact isTimed_of_eases hs (eases_of_stir hs.hasSoundTimers hst)

include hr hk in
/-- A cycle that comes to boundaries asks the clock of the timers, by what the clock of the service shows
when it begins. -/
theorem timers_after_present {t : Turn} {b : Boundaries} {starts : List Start} {elapsed : Int}
    (h : t.before.IsTimed starts elapsed) (hb : t.evaluation = .ok (some b)) :
    ∃ wanted clock, b.nextTransition t.now = .ok (.ofInstant wanted) ∧ clock.Sound ∧
      clock.AreStarted starts elapsed ∧
      (performAll react t.before t.prelude).owner.alarms = .timers clock ∧
      (t.after react).owner.alarms = .timers (clock.schedule (.ofInstant wanted) t.now ()).1 := by
  obtain ⟨n, -, -, hw⟩ := Turn.outlook_of_evaluation hb
  obtain ⟨hafter, -⟩ := Turn.cycle_of_present react hb hw
  obtain ⟨clock, hclock, hsound, hstarted⟩ := isTimed_prelude hr h
  obtain ⟨howner, -⟩ := schedule_timers hclock (.ofInstant (b.transitionAfter n * 1000))
  refine ⟨_, clock, hw, hsound, hstarted, hclock, ?_⟩
  rw [hafter, Turn.woken, howner, now_prelude hk]

include hr hk in
/-- **The step lemma.** After a cycle it is known of all timers when they were started. -/
theorem isTimed_cycle {x : Timed} (h : x.service.IsTimed x.starts x.elapsed) (reason : Option Trigger) :
    (x.cycle react reason).service.IsTimed (x.cycle react reason).starts (x.cycle react reason).elapsed := by
  by_cases hpresent : (x.turn reason).IsPresent
  · obtain ⟨b, hb⟩ := hpresent
    obtain ⟨wanted, armed, -, hsound, hstarted, -, hafter⟩ :=
      timers_after_present hr hk (t := x.turn reason) h hb
    refine ⟨_, hafter, hsound.schedule wanted _ (), ?_⟩
    show AlarmClock.AreStarted _ (x.starts ++ List.replicate
      (((x.turn reason).after react).owner.alarms.started - x.service.owner.alarms.started) _) _
    rw [hafter, h.started, ← hstarted.1]
    exact AlarmClock.areStarted_schedule hstarted wanted x.now
  · have hkept : ((x.turn reason).after react).IsTimed x.starts x.elapsed := by
      refine kept_of_vain hr (P := fun s => s.IsTimed x.starts x.elapsed) (fun s s' ha hs => ?_)
        (fun s s' hst hs => ?_) hpresent h
      · exact isTimed_of_eases hs (Or.inl ha)
      · exact isTimed_of_eases hs (eases_of_stir hs.hasSoundTimers hst)
    have hstarts : (x.cycle react reason).starts = x.starts := by
      simp only [Timed.cycle, hkept.started, h.started, Nat.sub_self, List.replicate_zero, List.append_nil]
    rw [hstarts]
    exact hkept

include hr hk in
/-- **The run lemma.** In every state of a run it is known of all timers when they were started. -/
theorem isTimed_of_timeline {x : Timed} (h : Timeline react x) : x.service.IsTimed x.starts x.elapsed := by
  induction h with
  | init elapsed ha => exact ⟨_, ha, AlarmClock.sound_empty, AlarmClock.areStarted_empty elapsed⟩
  | @pass x now shown span _ hspan _ _ ih =>
    obtain ⟨clock, hclock, hsound, hstarted⟩ := ih
    have hlater : x.elapsed ≤ x.elapsed + span := by omega
    exact ⟨clock, hclock, hsound, hstarted.later hlater⟩
  | set now _ ih => exact ih
  | between _ _ he ih => exact isTimed_of_eases ih he
  | cycle reason _ ih => exact isTimed_cycle hr hk ih reason

/-! ### Exact wake-ups -/

/-- Where another wake-up is pending, or none, a timer is started. -/
theorem AlarmClock.live_schedule {clock : AlarmClock Unit} (hs : clock.Sound) {wanted : Int} {now : Moment}
    {started : Option (Timer Unit)} (hok : (clock.schedule (.ofInstant wanted) now ()).2 = .ok started)
    (hother : clock.pending? ≠ some (.ofInstant wanted)) :
    (clock.schedule (.ofInstant wanted) now ()).1.live = some clock.timers.length ∧
      (clock.schedule (.ofInstant wanted) now ()).1.timers.length = clock.timers.length + 1 := by
  rcases hs.schedule_cases wanted now () with ⟨e, he⟩ | ⟨hp, -⟩ | ⟨e, he⟩ | ⟨delay, heq⟩
  · rw [he] at hok
    cases hok
  · exact absurd hp hother
  · rw [he] at hok
    cases hok
  · rw [heq]
    constructor
    · show some clock.cancel.timers.length = some clock.timers.length
      rw [length_timers_cancel]
    · show (clock.cancel.timers ++ [_]).length = _
      rw [List.length_append, length_timers_cancel]
      rfl

include hr in
/-- What a cycle does before it asks for a wake-up makes none pending. -/
theorem pending?_prelude {t : Turn} (hs : HasSoundTimers t.before) {wanted : Moment}
    (hother : t.before.owner.alarms.pending? ≠ some wanted) :
    (performAll react t.before t.prelude).owner.alarms.pending? ≠ some wanted := by
  have hkept := kept_prelude hr
    (P := fun s => HasSoundTimers s ∧ s.owner.alarms.pending? ≠ some wanted)
    (fun s s' ha hs => ⟨hasSoundTimers_of_alarms hs.1 ha, by rw [ha]; exact hs.2⟩)
    (fun s s' hst hs => ?_) (t := t) ⟨hs, hother⟩
  · exact hkept.2
  · refine ⟨hasSoundTimers_stir hs.1 hst, ?_⟩
    obtain ⟨⟨clock, hclock, -⟩, hne⟩ := hs
    rcases stir_cases hst hclock with ⟨-, ha | ⟨i, hi, ha, -⟩⟩
    · rw [ha, ← hclock]
      exact hne
    · rw [ha]
      show (clock.fire i).1.pending? ≠ some wanted
      simp [AlarmClock.pending?, AlarmClock.liveTimer?, AlarmClock.live_fire hi]

include hr hk in
/-- A timer is started in a cycle that answers with boundaries, unless their wake-up was pending already. -/
theorem start_of_cycle {x : Timed} (h : x.service.IsTimed x.starts x.elapsed) {reason : Option Trigger}
    {b : Boundaries} (hb : (x.turn reason).outcome react = .ok (some b)) {wanted : Int}
    (hw : b.nextTransition x.now = .ok (.ofInstant wanted))
    (hother : x.service.owner.alarms.pending? ≠ some (.ofInstant wanted)) {timer : Timer Unit} {start : Start}
    (hlive : (x.cycle react reason).IsLive timer start) : start = ⟨x.elapsed, x.now⟩ := by
  obtain ⟨wanted', clock, hw', hsound, hstarted, hprelude, hafter⟩ :=
    timers_after_present hr hk (t := x.turn reason) h (Turn.evaluation_of_outcome hb)
  obtain rfl := eq_of_ofInstant (Except.ok.inj (hw'.symm.trans hw))
  obtain ⟨at', hwake, -, hwoken⟩ := Turn.exists_wake hb
  obtain rfl := eq_of_ofInstant (Except.ok.inj (hwake.symm.trans hw'))
  obtain ⟨started, hok⟩ := (schedule_timers hprelude (.ofInstant at')).2.mp hwoken
  rw [now_prelude hk] at hok
  have hpending := pending?_prelude hr h.hasSoundTimers (t := x.turn reason) hother
  rw [hprelude] at hpending
  obtain ⟨hl, hlength⟩ := AlarmClock.live_schedule hsound hok hpending
  obtain ⟨clock', i, hclock', hi, -, hstart⟩ := hlive
  obtain rfl := Alarms.timers.inj (hclock'.symm.trans hafter)
  obtain rfl : clock.timers.length = i := Option.some.inj (hl.symm.trans hi)
  have hone : ((x.turn reason).after react).owner.alarms.started - x.service.owner.alarms.started = 1 := by
    rw [hafter, h.started, ← hstarted.1]
    show (clock.schedule _ _ _).1.timers.length - _ = 1
    omega
  have hstarts : (x.cycle react reason).starts = x.starts ++ [⟨x.elapsed, x.now⟩] := by
    show x.starts ++ List.replicate _ _ = _
    rw [hone]
    rfl
  rw [hstarts, hstarted.1, List.getElem?_concat_length] at hstart
  exact (Option.some.inj hstart).symm

/-- A timer that was started with the time that was left goes off exactly when the clock, as it is now,
shows its wake-up, if the clock has the lead that it had then. Where the wake-up is over, it is enough
that no less time has passed than was left. -/
theorem Start.IsOf.isExact_iff {start : Start} {timer : Timer Unit} {elapsed wanted began shown : Int}
    (h : start.IsOf timer elapsed) (hdue : timer.due = .ofInstant wanted)
    (hbegan : start.shown.instant? = some began) :
    IsExact elapsed shown wanted (start.goesOff timer) ↔
      if shown < wanted then began - start.elapsed = shown - elapsed
      else wanted - began ≤ elapsed - start.elapsed := by
  obtain ⟨hle, wanted', began', hdue', hbegan', hdelay⟩ := h
  obtain rfl := eq_of_ofInstant (hdue'.symm.trans hdue)
  obtain rfl : began' = began := Option.some.inj (hbegan'.symm.trans hbegan)
  unfold IsExact Start.goesOff
  rw [hdelay]
  split
  · omega
  · omega

include hr hk in
/-- **When a wake-up is exact.** After a cycle that answers with boundaries a timer is live for their next
transition. It is the one that is started in the cycle, unless that wake-up was pending already. As long as
the transition is to come, the timer is exact if, and only if, the clock is as far ahead of the time that has
passed as it was when the timer was started. -/
theorem exact_iff_of_timeline {x : Timed} (h : Timeline react x) {reason : Option Trigger} {b : Boundaries}
    (hb : (x.turn reason).outcome react = .ok (some b)) :
    ∃ wanted shown timer start began, b.nextTransition x.now = .ok (.ofInstant wanted) ∧
      x.now.instant? = some shown ∧ (x.cycle react reason).IsLive timer start ∧
      timer.due = .ofInstant wanted ∧ start.shown.instant? = some began ∧
      (x.service.owner.alarms.pending? ≠ some (.ofInstant wanted) → start = ⟨x.elapsed, x.now⟩) ∧
      (IsExact x.elapsed shown wanted (start.goesOff timer) ↔
        if shown < wanted then began - start.elapsed = shown - x.elapsed
        else wanted - began ≤ x.elapsed - start.elapsed) := by
  have htimed := isTimed_of_timeline hr hk h
  obtain ⟨wanted, hw, -, -⟩ := Turn.exists_wake hb
  obtain ⟨zone, -, heval⟩ := Turn.zone_of_evaluation (Turn.evaluation_of_outcome hb)
  obtain ⟨shown, hshown, -⟩ := inCalendar_of_evaluate heval
  -- the wake-up is pending after the cycle, so there is a live timer
  obtain ⟨due, clock, hdue, hclock, -, hpending⟩ :=
    pending?_after hr (t := x.turn reason) htimed.hasSoundTimers hb
  obtain rfl : Moment.ofInstant wanted = due := Except.ok.inj (hw.symm.trans hdue)
  simp only [AlarmClock.pending?, AlarmClock.liveTimer?, Option.map_eq_some_iff,
    Option.bind_eq_some_iff] at hpending
  obtain ⟨timer, ⟨i, hi, htimer⟩, hdue⟩ := hpending
  -- and it is known when that timer was started
  obtain ⟨clock', hclock', -, -, hstarts⟩ := isTimed_cycle hr hk htimed reason
  obtain rfl : clock = clock' := Alarms.timers.inj (hclock.symm.trans hclock')
  obtain ⟨start, hstart, hof⟩ := hstarts i timer htimer
  have hlive : (x.cycle react reason).IsLive timer start := ⟨clock, i, hclock, hi, htimer, hstart⟩
  obtain ⟨-, -, began, -, hbegan, -⟩ := id hof
  refine ⟨wanted, shown, timer, start, began, hw, hshown, hlive, hdue, hbegan, fun hother => ?_, ?_⟩
  · exact start_of_cycle hr hk htimed hb hw hother hlive
  · exact hof.isExact_iff hdue hbegan

end

/-! ### A clock that is set at noon -/

/-- The first cycle is run at noon, ten seconds into the run. -/
def noonTimed : Timed := (⟨noonService, 10000000, []⟩ : Timed).cycle .idle (some .startup)

/-- An hour later. -/
def oneTimed : Timed := { noonTimed.showing (.ofInstant 1687352400000000) with elapsed := 3610000000 }

/-- The clock is set to 14:00 just after noon. -/
def jumpedTimed : Timed := noonTimed.showing (.ofInstant 1687356000000000)

theorem timeline_noonTimed : Timeline .idle noonTimed :=
  (Timeline.init (s := noonService) 10000000 rfl).cycle (some .startup)

theorem keepsTime_idle : KeepsTime .idle := fun _ _ _ => rfl

/-- The timer of the first cycle is live after a second one, an hour later or when the clock was set. -/
theorem isLive_noonTimed {x : Timed} (h : x = oneTimed ∨ x = jumpedTimed) {timer : Timer Unit}
    {start : Start} (hlive : (x.cycle .idle (some .timeChanged)).IsLive timer start) :
    timer = ⟨.ofInstant 1687370400000000, 21600000000, false, false, ()⟩ ∧
      start = ⟨10000000, .ofInstant 1687348800000000⟩ := by
  obtain ⟨clock, i, hclock, hi, htimer, hstart⟩ := hlive
  have hkept : (x.cycle .idle (some .timeChanged)).service.owner.alarms =
      .timers ⟨[⟨.ofInstant 1687370400000000, 21600000000, false, false, ()⟩], some 0⟩ ∧
        (x.cycle .idle (some .timeChanged)).starts = [⟨10000000, .ofInstant 1687348800000000⟩] := by
    rcases h with rfl | rfl <;> exact ⟨rfl, rfl⟩
  obtain ⟨halarms, hstarts⟩ := hkept
  obtain rfl := Alarms.timers.inj (halarms.symm.trans hclock)
  obtain rfl : 0 = i := Option.some.inj hi
  rw [hstarts] at hstart
  exact ⟨(Option.some.inj htimer).symm, (Option.some.inj hstart).symm⟩

/-- The timer that was started at noon is still exact an hour later. -/
theorem exact_after_hour :
    ∃ wanted shown timer start, noonBoundaries.nextTransition oneTimed.now = .ok (.ofInstant wanted) ∧
      oneTimed.now.instant? = some shown ∧
      (oneTimed.cycle .idle (some .timeChanged)).IsLive timer start ∧
      IsExact oneTimed.elapsed shown wanted (start.goesOff timer) := by
  have hnoon : noonTimed.now.instant? = some 1687348800000000 := rfl
  have hhour : (Moment.ofInstant 1687352400000000).instant? = some (1687348800000000 + 3600000000) := rfl
  have hline : Timeline .idle oneTimed := timeline_noonTimed.pass (by decide) hnoon hhour
  have hb : (oneTimed.turn (some .timeChanged)).outcome .idle = .ok (some noonBoundaries) := by
    decide +kernel
  obtain ⟨wanted, shown, timer, start, began, hw, hshown, hlive, -, hbegan, -, hiff⟩ :=
    exact_iff_of_timeline (fun _ _ _ => .refl) keepsTime_idle hline hb
  refine ⟨wanted, shown, timer, start, hw, hshown, hlive, hiff.mpr ?_⟩
  obtain ⟨-, rfl⟩ := isLive_noonTimed (Or.inl rfl) hlive
  obtain rfl : 1687348800000000 = began := Option.some.inj hbegan
  obtain rfl : 1687352400000000 = shown := Option.some.inj hshown
  have hnext : noonBoundaries.nextTransition oneTimed.now = .ok (.ofInstant 1687370400000000) := by
    decide +kernel
  obtain rfl := eq_of_ofInstant (Except.ok.inj (hnext.symm.trans hw))
  decide

/-- So it does not hold that the live timer is exact after every cycle that answers with boundaries. -/
theorem late_after_jump : ¬ ∀ (x : Timed) (reason : Option Trigger) (b : Boundaries), Timeline .idle x →
    (x.turn reason).outcome .idle = .ok (some b) →
    ∃ wanted shown timer start, b.nextTransition x.now = .ok (.ofInstant wanted) ∧
      x.now.instant? = some shown ∧ (x.cycle .idle reason).IsLive timer start ∧
      IsExact x.elapsed shown wanted (start.goesOff timer) := by
  intro h
  have hb : (jumpedTimed.turn (some .timeChanged)).outcome .idle = .ok (some noonBoundaries) := by
    decide +kernel
  obtain ⟨wanted, shown, timer, start, hw, hshown, hlive, hexact⟩ :=
    h jumpedTimed (some .timeChanged) noonBoundaries (timeline_noonTimed.set _) hb
  obtain ⟨rfl, rfl⟩ := isLive_noonTimed (Or.inr rfl) hlive
  obtain rfl : 1687356000000000 = shown := Option.some.inj hshown
  have hnext : noonBoundaries.nextTransition jumpedTimed.now = .ok (.ofInstant 1687370400000000) := by
    decide +kernel
  obtain rfl := eq_of_ofInstant (Except.ok.inj (hnext.symm.trans hw))
  -- at 14:00 four hours are left, but the timer runs for six
  exact absurd hexact (by decide)

end Daylight
