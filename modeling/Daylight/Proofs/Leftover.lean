import Daylight.Proofs.AllOrNothing
import Daylight.Proofs.NullIsland
import Daylight.Proofs.Wakeups

/-!
# Wake-ups without a location

A cycle without a location has nothing to evaluate: that there are no boundaries is published, and no
wake-up is asked for. But none is dropped either. If an earlier cycle came to boundaries, and the location
was lost since, the wake-up of that cycle is still pending, at a transition that nobody publishes any
more. Only when its timer goes off, or the service is stopped, does it come to rest.

A run is followed with the last cycle that has got its wake-up (`Vigil`). Cycles that come to nothing, or
fail, leave the timers as they are; listeners may run callbacks meanwhile.

## What is proved

* `kept_prelude`, `kept_of_vain`: what the timers settle, and stirs keep, is kept by a cycle until it asks
  for a wake-up, and to its end if it comes to no boundaries.
* `heldOver_of_vigil`: the run lemma. The timers are those of the last cycle that has got its wake-up, or
  its timer has gone off since; without such a cycle none waits.
* `wakeup_of_absent`: after a cycle without a location no wake-up is pending exactly if the timer of that
  cycle has gone off; else its wake-up is left over.
* `vigil_drain`, `vigil_start`, `vigil_stop`: what the service does when triggers are processed, when it is
  started and when it is stopped is such a run.
-/

namespace Daylight

open Relation (ReflTransGen)

/-- Whether a cycle comes to boundaries. -/
def Turn.IsPresent (t : Turn) : Prop := ∃ b, t.evaluation = .ok (some b)

/-- The service without its wake-up. -/
def Service.disarm (s : Service) : Service := s.mapOwner fun t => { t with alarms := t.alarms.cancel }

/-- The services that a run can reach, with the last cycle that has got its wake-up, unless the wake-up was
dropped since. -/
inductive Vigil (react : Reaction Tracker) : Service → Option Turn → Prop
  /-- The run begins with no timer. -/
  | init {s : Service} : s.owner.alarms = .timers .empty → Vigil react s none
  /-- Something happens between two cycles. -/
  | stir {s s' : Service} {last : Option Turn} : Vigil react s last → Stir s s' → Vigil react s' last
  /-- A signal is taken off the queue. -/
  | take {s : Service} {last : Option Turn} {signal : Signal} {rest : List Signal} :
      Vigil react s last → s.owner.queue = signal :: rest → Vigil react (s.leave rest) last
  /-- A cycle comes to boundaries, and answers with them. -/
  | present {t : Turn} {last : Option Turn} {b : Boundaries} : Vigil react t.before last →
      t.outcome react = .ok (some b) → Vigil react (t.after react) (some t)
  /-- A cycle comes to boundaries, but cannot get the wake-up. -/
  | broken {t : Turn} {last : Option Turn} {e : Failure} : Vigil react t.before last → t.IsPresent →
      t.outcome react = .error e → Vigil react (t.after react) none
  /-- A cycle comes to no boundaries, or fails. -/
  | vain {t : Turn} {last : Option Turn} : Vigil react t.before last → ¬ t.IsPresent →
      Vigil react (t.after react) last
  /-- A signal to stop is put on the queue. -/
  | halt {s : Service} {last : Option Turn} : Vigil react s last →
      Vigil react (s.mapOwner (·.enqueue .stop)) last
  /-- The wake-up is dropped. -/
  | disarm {s : Service} {last : Option Turn} : Vigil react s last → Vigil react s.disarm none

/-! ### What the timers settle -/

/-- The timers are those of another service, or the live one has gone off since. -/
def HeldOver (s s' : Service) : Prop :=
  s'.owner.alarms = s.owner.alarms ∨ ∃ clock i, s.owner.alarms = .timers clock ∧ clock.live = some i ∧
    s'.owner.alarms = .timers (clock.fire i).1

/-- A stir lets the live timer go off, or leaves the timers alone. -/
theorem HeldOver.stir {s s' s'' : Service} (hs : HasSoundTimers s) (h : HeldOver s s')
    (hst : Stir s' s'') : HeldOver s s'' := by
  obtain ⟨clock, hclock, -⟩ := hs
  rcases h with ha | ⟨clock', i, hc, hi, ha⟩
  · rcases stir_cases hst (ha.trans hclock) with ⟨-, ha' | ⟨i, hi, ha', -⟩⟩
    · exact Or.inl (ha'.trans hclock.symm)
    · exact Or.inr ⟨clock, i, hclock, hi, ha'⟩
  · rcases stir_cases hst ha with ⟨-, ha' | ⟨j, hj, -, -⟩⟩
    · exact Or.inr ⟨clock', i, hc, hi, ha'⟩
    · rw [AlarmClock.live_fire hi] at hj
      cases hj

/-- No wake-up is pending, and no timer waits. -/
def IsAtRest (s : Service) : Prop :=
  ∃ clock, s.owner.alarms = .timers clock ∧ clock.pending? = none ∧ ∀ i, ¬ clock.Waits i

section

variable {s s' : Service}

theorem isAtRest_of_live {clock : AlarmClock Unit} (hs : s.owner.alarms = .timers clock)
    (hc : clock.Sound) (hl : clock.live = none) : IsAtRest s := by
  refine ⟨clock, hs, by simp [AlarmClock.pending?, AlarmClock.liveTimer?, hl], fun i hi => ?_⟩
  have hi := (hc.waits_iff i).mp hi
  rw [hl] at hi
  cases hi

theorem live_of_isAtRest {clock : AlarmClock Unit} (hs : s.owner.alarms = .timers clock)
    (hc : clock.Sound) (h : IsAtRest s) : clock.live = none := by
  obtain ⟨clock', hs', -, hno⟩ := h
  obtain rfl : clock' = clock := Alarms.timers.inj (hs'.symm.trans hs)
  cases hl : clock'.live with
  | none => rfl
  | some i => exact absurd ((hc.waits_iff i).mpr hl) (hno i)

/-- Where nothing waits, no callback does anything. -/
theorem HeldOver.isAtRest (hs : HasSoundTimers s) (hrest : IsAtRest s) (h : HeldOver s s') :
    IsAtRest s' := by
  obtain ⟨clock, hclock, hc⟩ := hs
  have hl := live_of_isAtRest hclock hc hrest
  rcases h with ha | ⟨clock', i, hclock', hi, -⟩
  · exact isAtRest_of_live (ha.trans hclock) hc hl
  · obtain rfl : clock' = clock := Alarms.timers.inj (hclock'.symm.trans hclock)
    rw [hl] at hi
    cases hi

end

section

variable {react : Reaction Tracker} (hr : Stirring react)

include hr

/-- What is settled by the timers, and kept by the stirs of listeners, is kept by all that a cycle does
before it asks for a wake-up. -/
theorem kept_prelude {P : Service → Prop}
    (halarms : ∀ s s' : Service, s'.owner.alarms = s.owner.alarms → P s → P s')
    (hstir : ∀ s s' : Service, Stir s s' → P s → P s') {t : Turn} (h : P t.before) :
    P (performAll react t.before t.prelude) := by
  have hstirs : ∀ s s' : Service, ReflTransGen Stir s s' → P s → P s' := by
    intro s s' hst hs
    induction hst with
    | refl => exact hs
    | tail _ hlast ih => exact hstir _ _ hlast ih
  have hk : Kept react P :=
    ⟨fun s write hs => halarms s _ (by rw [owner_record]) hs, fun s _ _ hs => halarms s _ rfl hs,
      fun s listener state hs => hstirs _ _ (hr s listener state) hs⟩
  refine performAll_induction (fun s a ha hs => ?_) h
  refine hk.perform (fun s _ _ hs => halarms s _ rfl hs) (fun s _ hs => halarms s _ rfl hs)
    (fun wanted hw => ?_) hs
  rw [hw] at ha
  exact absurd ha (t.wake_notMem_prelude wanted)

/-- **A cycle that comes to no boundaries asks for no wake-up**, and drops none. What is settled by the
timers, and kept by the stirs of listeners, is what it was before. -/
theorem kept_of_vain {P : Service → Prop}
    (halarms : ∀ s s' : Service, s'.owner.alarms = s.owner.alarms → P s → P s')
    (hstir : ∀ s s' : Service, Stir s s' → P s → P s') {t : Turn} (ht : ¬ t.IsPresent)
    (h : P t.before) : P (t.after react) := by
  have hacts : t.acts = t.prelude := by
    unfold Turn.acts
    split
    · rename_i b hb
      exact absurd ⟨b, hb⟩ ht
    · rfl
  rw [t.after_eq_performAll react, hacts]
  exact kept_prelude hr halarms hstir h

/-- After a cycle that comes to no boundaries the timers are those from before, or a listener has run the
callback of the live one. -/
theorem heldOver_of_vain {s : Service} {t : Turn} (hs : HasSoundTimers s) (ht : ¬ t.IsPresent)
    (h : HeldOver s t.before) : HeldOver s (t.after react) :=
  kept_of_vain hr (P := HeldOver s)
    (fun _ _ ha h => h.imp ha.trans fun ⟨clock, i, hc, hi, hf⟩ => ⟨clock, i, hc, hi, ha.trans hf⟩)
    (fun _ _ hst h => h.stir hs hst) ht h

/-- A cycle that cannot get the wake-up has dropped the one before. -/
theorem isAtRest_of_broken {t : Turn} (hs : HasSoundTimers t.before) (ht : t.IsPresent) {e : Failure}
    (he : t.outcome react = .error e) : IsAtRest (t.after react) := by
  obtain ⟨b, hb⟩ := ht
  obtain ⟨n, -, -, hw⟩ := Turn.outlook_of_evaluation hb
  obtain ⟨hafter, houtcome⟩ := Turn.cycle_of_present react hb hw
  obtain ⟨x, hx, hin⟩ := inCalendar_of_nextTransition hw
  rw [hx] at hafter houtcome
  have hprelude : HasSoundTimers (performAll react t.before t.prelude) :=
    hasSoundTimers_performAll hr hs fun wanted hw => absurd hw (t.wake_notMem_prelude wanted)
  obtain ⟨clock, hclock, hc⟩ := hprelude
  obtain ⟨howner, hiff⟩ := schedule_timers hclock (.ofInstant x)
  have hfailed : ∃ e', (clock.schedule (.ofInstant x)
      (performAll react t.before t.prelude).owner.clock.now ()).2 = .error e' := by
    cases hs : (clock.schedule (.ofInstant x) _ ()).2 with
    | error e' => exact ⟨e', rfl⟩
    | ok started =>
      rw [houtcome, Turn.woken, hiff.mpr ⟨started, hs⟩] at he
      cases he
  obtain ⟨e', he'⟩ := hfailed
  refine isAtRest_of_live ?_ (hc.schedule x _ ()) (AlarmClock.Sound.live_of_error hin he')
  rw [hafter, Turn.woken, howner]

/-! ### Runs -/

/-- **The run lemma.** Without a cycle that has got its wake-up nothing waits; else the timers are those of
the last such cycle, or its timer has gone off since. -/
theorem heldOver_of_vigil {s : Service} {last : Option Turn} (h : Vigil react s last) :
    HasSoundTimers s ∧ (last = none → IsAtRest s) ∧ ∀ t, last = some t → HasSoundTimers t.before ∧
      (∃ b, t.outcome react = .ok (some b)) ∧ HeldOver (t.after react) s := by
  induction h with
  | init ha =>
    refine ⟨⟨_, ha, AlarmClock.sound_empty⟩, fun _ => ?_, fun t ht => by cases ht⟩
    exact isAtRest_of_live ha AlarmClock.sound_empty rfl
  | stir _ hst ih =>
    obtain ⟨hs, hnone, hsome⟩ := ih
    refine ⟨hasSoundTimers_stir hs hst, fun hlast => ?_, fun t ht => ?_⟩
    · exact HeldOver.isAtRest hs (hnone hlast) (HeldOver.stir hs (Or.inl rfl) hst)
    · obtain ⟨hbefore, hb, hheld⟩ := hsome t ht
      exact ⟨hbefore, hb, hheld.stir (hasSoundTimers_after hr hbefore) hst⟩
  | take _ _ ih | halt _ ih =>
    obtain ⟨hs, hnone, hsome⟩ := ih
    exact ⟨hasSoundTimers_of_alarms hs rfl, hnone, hsome⟩
  | present _ hb ih =>
    refine ⟨hasSoundTimers_after hr ih.1, fun hlast => (by cases hlast), fun t ht => ?_⟩
    obtain rfl := Option.some.inj ht
    exact ⟨ih.1, ⟨_, hb⟩, Or.inl rfl⟩
  | broken _ ht he ih =>
    refine ⟨hasSoundTimers_after hr ih.1, fun _ => ?_, fun t ht => by cases ht⟩
    exact isAtRest_of_broken hr ih.1 ht he
  | vain _ ht ih =>
    obtain ⟨hs, hnone, hsome⟩ := ih
    refine ⟨hasSoundTimers_after hr hs, fun hlast => ?_, fun t' ht' => ?_⟩
    · exact HeldOver.isAtRest hs (hnone hlast) (heldOver_of_vain hr hs ht (Or.inl rfl))
    · obtain ⟨hbefore, hb, hheld⟩ := hsome t' ht'
      exact ⟨hbefore, hb, heldOver_of_vain hr (hasSoundTimers_after hr hbefore) ht hheld⟩
  | @disarm s last _ ih =>
    obtain ⟨⟨clock, hclock, hc⟩, -, -⟩ := ih
    have hdisarmed : s.disarm.owner.alarms = .timers clock.cancel := by
      simp only [Service.disarm, Board.mapOwner, hclock, Alarms.cancel]
    refine ⟨⟨_, hdisarmed, hc.cancel⟩, fun _ => ?_, fun t ht => by cases ht⟩
    exact isAtRest_of_live hdisarmed hc.cancel (AlarmClock.live_cancel clock)

end

/-- The timer that was live after a cycle has gone off since. -/
def HasGoneOff (react : Reaction Tracker) (t : Turn) (s : Service) : Prop :=
  ∃ armed clock i timer, (t.after react).owner.alarms = .timers armed ∧ armed.live = some i ∧
    s.owner.alarms = .timers clock ∧ clock.timers[i]? = some timer ∧ timer.fired = true

/-- The wake-up at the next transition of what a cycle came to is pending, and its timer is the only one
that waits. -/
def HasLeft (react : Reaction Tracker) (t : Turn) (s : Service) : Prop :=
  ∃ b wanted clock, t.outcome react = .ok (some b) ∧ b.nextTransition t.now = .ok wanted ∧
    s.owner.alarms = .timers clock ∧ clock.pending? = some wanted ∧ ∃! i, clock.Waits i

section

variable {react : Reaction Tracker} (hr : Stirring react)

include hr

/-- What has become of the wake-up of a cycle: its timer has gone off, and nothing waits; or it is left. -/
theorem gone_or_left {s : Service} {t : Turn} (hbefore : HasSoundTimers t.before) {b : Boundaries}
    (hb : t.outcome react = .ok (some b)) (h : HeldOver (t.after react) s) :
    (HasGoneOff react t s ∧ IsAtRest s) ∨ (¬ HasGoneOff react t s ∧ ¬ IsAtRest s ∧ HasLeft react t s) := by
  obtain ⟨wanted, armed, hw, harmed, hsound, hpending⟩ := pending?_after hr hbefore hb
  rcases h with ha | ⟨clock, i, hclock, hi, ha⟩
  · right
    have hkept := ha.trans harmed
    obtain ⟨i, hi, hunique⟩ := hsound.existsUnique_waits hpending
    refine ⟨?_, fun hrest => ?_, b, wanted, armed, hb, hw, hkept, hpending, i, hi, hunique⟩
    · rintro ⟨armed', clock, j, timer, harmed', hj, hclock, htimer, hfired⟩
      obtain rfl : armed' = armed := Alarms.timers.inj (harmed'.symm.trans harmed)
      obtain rfl : clock = armed' := Alarms.timers.inj (hclock.symm.trans hkept)
      obtain ⟨timer', htimer', -, hwaits⟩ := (hsound.waits_iff j).mpr hj
      obtain rfl : timer = timer' := Option.some.inj (htimer.symm.trans htimer')
      rw [hfired] at hwaits
      cases hwaits
    · have hlive := (hsound.waits_iff i).mp hi
      rw [live_of_isAtRest hkept hsound hrest] at hlive
      cases hlive
  · left
    obtain rfl : clock = armed := Alarms.timers.inj (hclock.symm.trans harmed)
    obtain ⟨timer, htimer, -, hfired⟩ := AlarmClock.fired_fire hi hpending
    exact ⟨⟨clock, _, i, timer, harmed, hi, ha, htimer, hfired⟩,
      isAtRest_of_live ha (hsound.fire i) (AlarmClock.live_fire hi)⟩

/-- **After a cycle without a location** the timers are those from before, unless a listener has run the
callback of the live one meanwhile. No wake-up is pending, and no timer waits, exactly if the timer of the
last cycle that has got its wake-up has gone off, or there is no such cycle since the wake-up was dropped.
Else the wake-up of that cycle is left over: one timer waits, for the next transition of boundaries that
nobody shows any more. -/
theorem wakeup_of_absent {t : Turn} {last : Option Turn} (h : Vigil react t.before last)
    (ht : t.evaluation = .ok none) :
    HeldOver t.before (t.after react) ∧
      (IsAtRest (t.after react) ↔ ∀ t', last = some t' → HasGoneOff react t' (t.after react)) ∧
      ∀ t', last = some t' → ¬ HasGoneOff react t' (t.after react) → HasLeft react t' (t.after react) := by
  have hvain : ¬ t.IsPresent := by
    rintro ⟨b, hb⟩
    rw [ht] at hb
    cases hb
  refine ⟨heldOver_of_vain hr (heldOver_of_vigil hr h).1 hvain (Or.inl rfl), ?_⟩
  obtain ⟨-, hnone, hsome⟩ := heldOver_of_vigil hr (h.vain hvain)
  cases last with
  | none => simpa using hnone rfl
  | some t' =>
    simp only [Option.some.injEq, forall_eq']
    obtain ⟨hbefore, ⟨b, hb⟩, hheld⟩ := hsome t' rfl
    rcases gone_or_left hr hbefore hb hheld with ⟨hgone, hrest⟩ | ⟨hnot, hbusy, hleft⟩
    · exact ⟨iff_of_true hrest hgone, fun hnot => absurd hgone hnot⟩
    · exact ⟨iff_of_false hbusy hnot, fun _ => hleft⟩

end

/-! ### What the service does is such a run -/

section

variable {react : Reaction Tracker} {s : Service} {last : Option Turn}

/-- Any cycle goes on with the run. -/
theorem vigil_cycle (h : Vigil react s last) (reason : Option Trigger) :
    ∃ last', Vigil react (s.cycle react reason).1 last' := by
  by_cases ht : (⟨s, reason⟩ : Turn).IsPresent
  · cases ho : (⟨s, reason⟩ : Turn).outcome react with
    | error e => exact ⟨none, .broken (t := ⟨s, reason⟩) h ht ho⟩
    | ok state =>
      obtain ⟨b, hb⟩ := ht
      obtain ⟨n, -, -, hw⟩ := Turn.outlook_of_evaluation hb
      obtain ⟨-, houtcome⟩ := Turn.cycle_of_present react hb hw
      obtain ⟨-, -, hstate⟩ := map_eq_ok_iff.mp (houtcome.symm.trans ho)
      rw [← hstate] at ho
      exact ⟨_, .present (t := ⟨s, reason⟩) h ho⟩
  · exact ⟨last, .vain (t := ⟨s, reason⟩) h ht⟩

theorem vigil_report (h : Vigil react s last) (entry : LogEntry) : Vigil react (s.report entry) last :=
  h.stir (.other (by rw [owner_report]) (by rw [owner_report]))

theorem vigil_mapOwner (h : Vigil react s last) (change : Tracker → Tracker)
    (ha : (change s.owner).alarms = s.owner.alarms) (hq : (change s.owner).queue = s.owner.queue) :
    Vigil react (s.mapOwner change) last :=
  h.stir (.other ha hq)

theorem vigil_process (h : Vigil react s last) (trigger : Trigger) :
    ∃ last', Vigil react (s.process react trigger) last' := by
  obtain ⟨last', hcycle⟩ := vigil_cycle h (some trigger)
  unfold Service.process
  split <;> rename_i heq <;> rw [heq] at hcycle
  · exact ⟨last', hcycle⟩
  · exact ⟨last', vigil_report hcycle _⟩

/-- Processing what is on the queue goes on with the run. -/
theorem vigil_drain (bound : Nat) (h : Vigil react s last) :
    ∃ last', Vigil react (s.drain react bound).1 last' := by
  induction bound generalizing s last with
  | zero => exact ⟨last, h⟩
  | succ bound ih =>
    rw [Service.drain]
    split
    · exact ⟨last, h⟩
    · rename_i rest hq
      exact ⟨last, h.take hq⟩
    · rename_i trigger rest hq
      obtain ⟨last', hprocess⟩ := vigil_process (h.take hq) trigger
      exact ih hprocess

/-- Starting the service goes on with the run. -/
theorem vigil_start (h : Vigil react s last) : Vigil react s.start.1 last := by
  unfold Service.start
  split
  · exact h
  · have hasked := vigil_mapOwner (vigil_report h ⟨.info, "Starting twilight scheduler", none⟩)
      (fun t => { t with source := t.source.requestUpdates }) rfl rfl
    refine vigil_mapOwner (Vigil.stir ?_ (.submit _ .startup)) (fun t => { t with isRunning := true }) rfl rfl
    split
    · unfold Service.requestSingle
      split
      · exact vigil_mapOwner hasked _ rfl rfl
      · exact hasked.stir (.fix _ _)
      · exact vigil_mapOwner hasked _ rfl rfl
    · exact hasked

/-- Running the loop goes on with the run. -/
theorem vigil_runLoop (h : Vigil react s last) : ∃ last', Vigil react (s.runLoop react) last' := by
  obtain ⟨last', hdrained⟩ := vigil_drain (s.owner.queue.length + Service.patience) h
  exact ⟨last', vigil_report hdrained _⟩

/-- Stopping the service goes on with the run, and drops the wake-up. -/
theorem vigil_stop (h : Vigil react s last) : Vigil react (s.stop react) none := by
  have hstopped : Vigil react (s.stopLoop react) none := by
    unfold Service.stopLoop
    split
    · dsimp only
      split
      · obtain ⟨last', hloop⟩ := vigil_runLoop h.halt
        exact (vigil_mapOwner hloop (fun t => { t with isRunning := false }) rfl rfl).disarm
      · exact (vigil_mapOwner h.halt (fun t => { t with isRunning := false }) rfl rfl).disarm
    · exact h.disarm
  unfold Service.stop Service.closeShared
  split
  · exact hstopped
  · exact hstopped.stir (.other rfl rfl)

end

/-! ### A fix that is forgotten -/

/-- Home is reported before the service is started, and the first cycle is run. -/
def homeTurn : Turn := ⟨fedService.reportLocation home, some .startup⟩

/-- Null island is reported after it, and another cycle is run. -/
def forgetfulTurn : Turn := ⟨(homeTurn.after .idle).reportLocation nowhere, some .timeChanged⟩

theorem vigil_forgetfulTurn : Vigil .idle forgetfulTurn.before (some homeTurn) := by
  have hhome : Vigil .idle homeTurn.before none := (Vigil.init (s := fedService) rfl).stir (.other rfl rfl)
  have hb : homeTurn.outcome .idle =
      .ok (some ⟨1687320000000, 1687377600000, 1687406400000, 1687464000000, by decide⟩) := by
    decide +kernel
  exact (hhome.present hb).stir (.other rfl rfl)

/-- The timers after the first cycle, and after the second one. -/
theorem alarms_homeTurn :
    (homeTurn.after .idle).owner.alarms =
        .timers ⟨[⟨.ofInstant 1687377600000000, 54000000000, false, false, ()⟩], some 0⟩ ∧
      (forgetfulTurn.after .idle).owner.alarms = (homeTurn.after .idle).owner.alarms :=
  ⟨rfl, rfl⟩

/-- The wake-up of the first cycle is left over, for the sunrise that it came to. -/
theorem hasLeft_homeTurn : HasLeft .idle homeTurn (forgetfulTurn.after .idle) := by
  have ht : forgetfulTurn.evaluation = .ok none := by decide +kernel
  obtain ⟨-, -, hleft⟩ := wakeup_of_absent (fun _ _ _ => .refl) vigil_forgetfulTurn ht
  refine hleft homeTurn rfl ?_
  rintro ⟨armed, clock, i, timer, harmed, hi, hclock, htimer, hfired⟩
  obtain ⟨hhome, hsame⟩ := alarms_homeTurn
  obtain rfl := Alarms.timers.inj (hhome.symm.trans harmed)
  obtain rfl := Alarms.timers.inj ((hsame.trans hhome).symm.trans hclock)
  obtain rfl : 0 = i := Option.some.inj hi
  obtain rfl := Option.some.inj htimer
  cases hfired

/-- So it does not hold that nothing waits after a cycle without a location. -/
theorem waits_without_location : ¬ ∀ (t : Turn) (last : Option Turn), Vigil .idle t.before last →
    t.evaluation = .ok none → IsAtRest (t.after .idle) := by
  intro h
  obtain ⟨clock, hclock, hnone, -⟩ := h forgetfulTurn _ vigil_forgetfulTurn (by decide +kernel)
  obtain ⟨hhome, hsame⟩ := alarms_homeTurn
  obtain rfl := Alarms.timers.inj ((hsame.trans hhome).symm.trans hclock)
  cases hnone

end Daylight
