import Daylight.Proofs.AlarmClock
import Daylight.Proofs.Cycle
import Mathlib.Logic.Relation

/-!
# No wake-up is lost

The wake-up goes through two machines: the alarm clock, whose live timer is to go off at the next
transition, and the queue, where the trigger of a timer that went off waits for its cycle. A run takes
steps of both in any order. Between two cycles fixes and changes of the time come in, triggers are
submitted, and the callbacks of timers are run: of the live one, of others that were replaced, or again.
All this is a `Stir`. Listeners may stir, too, in the middle of a cycle.

## What is proved

* `stir_cases`: what one stir can do to the timers and the queue.
* `hasSoundTimers_of_run`: in all states of a run the live timer is the only one that waits.
* `wakeup_of_run`: after a cycle that answered with boundaries, and until the next one, either the
  timer of their next transition is live, and the only one that waits; or it has gone off, and the
  trigger of a wake-up is on the queue.
* `run_drain`: what the loop of the service does is a run.
-/

namespace Daylight

open Relation (ReflTransGen)

/-- One thing that happens to a service between two cycles. -/
inductive Stir : Service → Service → Prop
  /-- A fix comes in; whether it is taken is up to the service. -/
  | fix (s : Service) (fix : Option Location) : Stir s (s.onLocation fix)
  /-- The clock or the zone was changed. -/
  | time (s : Service) : Stir s s.onTimeChanged
  /-- A trigger is submitted. -/
  | submit (s : Service) (trigger : Trigger) : Stir s (s.submit trigger)
  /-- The callback of any timer is run. -/
  | callback (s : Service) (number : Option Int) : Stir s (s.fire number).1
  /-- Something happens that leaves the timers and the queue alone. -/
  | other {s s' : Service} : s'.owner.alarms = s.owner.alarms → s'.owner.queue = s.owner.queue →
      Stir s s'

/-- Listeners that do nothing but stir. -/
def Stirring (react : Reaction Tracker) : Prop :=
  ∀ s listener state, ReflTransGen Stir s (react s listener state).1

/-- The services that a run can reach, with the cycle that was run last. -/
inductive Run (react : Reaction Tracker) : Service → Option Turn → Prop
  /-- The run begins with no timer. -/
  | init {s : Service} : s.owner.alarms = .timers .empty → Run react s none
  /-- Something happens between two cycles. -/
  | stir {s s' : Service} {turn : Option Turn} : Run react s turn → Stir s s' → Run react s' turn
  /-- The first trigger of the queue is processed. -/
  | process {s : Service} {turn : Option Turn} {trigger : Trigger} {rest : List Signal} :
      Run react s turn → s.owner.queue = .trigger trigger :: rest →
      Run react ((s.leave rest).process react trigger) (some ⟨s.leave rest, some trigger⟩)
  /-- A cycle is run directly. -/
  | cycle {s : Service} {turn : Option Turn} (reason : Option Trigger) :
      Run react s turn → Run react (s.cycle react reason).1 (some ⟨s, reason⟩)
  /-- A signal to stop is dropped. -/
  | drop {s : Service} {turn : Option Turn} {rest : List Signal} : Run react s turn →
      s.owner.queue = .stop :: rest → Run react (s.leave rest) turn

/-! ### One stir -/

/-- The callback of a timer: that of the live one submits the wake-up, any other does nothing. -/
theorem fire_cases {s : Service} {clock : AlarmClock Unit} (hs : s.owner.alarms = .timers clock)
    (number : Option Int) :
    ((s.fire number).1.owner.alarms = .timers clock ∧ (s.fire number).1.owner.queue = s.owner.queue) ∨
      ∃ i, clock.live = some i ∧ (s.fire number).1.owner.alarms = .timers (clock.fire i).1 ∧
        (s.fire number).1.owner.queue = s.owner.queue ++ [.trigger .alarm] := by
  simp only [Service.fire, hs]
  cases hp : clock.place? (number.getD (-1)) with
  | none => exact Or.inl ⟨hs, rfl⟩
  | some place =>
    by_cases hl : clock.live = some place
    · have hf : (clock.fire place).2 = some () := by
        simp [AlarmClock.fire, hl, List.getElem?_eq_getElem (AlarmClock.lt_of_place? hp)]
      dsimp only
      rw [hf]
      refine Or.inr ⟨place, hl, ?_, ?_⟩
      · simp [Service.onAlarm, Service.submit, Board.mapOwner, Tracker.submit, Tracker.enqueue]
      · simp [Service.onAlarm, Service.submit, Board.mapOwner, Tracker.submit, Tracker.enqueue]
    · have hf : clock.fire place = (clock, none) := by simp only [AlarmClock.fire, if_neg hl]
      dsimp only
      rw [hf]
      exact Or.inl ⟨rfl, rfl⟩

/-- A fix leaves the timers alone, and takes nothing off the queue. -/
theorem onLocation_keeps (s : Service) (fix : Option Location) :
    (s.onLocation fix).owner.alarms = s.owner.alarms ∧
      s.owner.queue ⊆ (s.onLocation fix).owner.queue := by
  unfold Service.onLocation
  split
  · rw [owner_report]
    exact ⟨rfl, List.Subset.refl _⟩
  · simp [Service.submit, Board.mapOwner, Tracker.submit, Tracker.enqueue, Tracker.remember]

/-- **What one stir can do**: it takes nothing off the queue, and it leaves the timers alone unless it
is the callback of the live one, which puts the wake-up on the queue. -/
theorem stir_cases {s s' : Service} (h : Stir s s') {clock : AlarmClock Unit}
    (hs : s.owner.alarms = .timers clock) :
    s.owner.queue ⊆ s'.owner.queue ∧
      (s'.owner.alarms = .timers clock ∨
        ∃ i, clock.live = some i ∧ s'.owner.alarms = .timers (clock.fire i).1 ∧
          .trigger .alarm ∈ s'.owner.queue) := by
  cases h with
  | fix fix =>
    obtain ⟨ha, hq⟩ := onLocation_keeps s fix
    exact ⟨hq, Or.inl (ha.trans hs)⟩
  | time => exact ⟨List.subset_append_left _ _, Or.inl hs⟩
  | submit trigger => exact ⟨List.subset_append_left _ _, Or.inl hs⟩
  | callback number =>
    obtain ⟨ha, hq⟩ | ⟨i, hi, ha, hq⟩ := fire_cases hs number
    · rw [hq]
      exact ⟨List.Subset.refl _, Or.inl ha⟩
    · rw [hq]
      exact ⟨List.subset_append_left _ _, Or.inr ⟨i, hi, ha, by simp⟩⟩
  | other ha hq =>
    rw [hq]
    exact ⟨List.Subset.refl _, Or.inl (ha.trans hs)⟩

/-! ### The timers through a run -/

/-- The service has timers, and the live one is the only one that waits. -/
def HasSoundTimers (s : Service) : Prop := ∃ clock, s.owner.alarms = .timers clock ∧ clock.Sound

theorem hasSoundTimers_of_alarms {s s' : Service} (h : HasSoundTimers s)
    (ha : s'.owner.alarms = s.owner.alarms) : HasSoundTimers s' := by
  obtain ⟨clock, hs, hc⟩ := h
  exact ⟨clock, ha.trans hs, hc⟩

theorem hasSoundTimers_stir {s s' : Service} (h : HasSoundTimers s) (hst : Stir s s') :
    HasSoundTimers s' := by
  obtain ⟨clock, hs, hc⟩ := h
  obtain ⟨-, ha | ⟨i, -, ha, -⟩⟩ := stir_cases hst hs
  · exact ⟨clock, ha, hc⟩
  · exact ⟨_, ha, hc.fire i⟩

theorem hasSoundTimers_stirs {s s' : Service} (h : HasSoundTimers s) (hst : ReflTransGen Stir s s') :
    HasSoundTimers s' := by
  induction hst with
  | refl => exact h
  | tail _ hlast ih => exact hasSoundTimers_stir ih hlast

theorem hasSoundTimers_schedule {s : Service} (h : HasSoundTimers s) (x : Int) :
    HasSoundTimers (s.schedule (.ofInstant x)).1 := by
  obtain ⟨clock, hs, hc⟩ := h
  exact ⟨_, by rw [(schedule_timers hs _).1], hc.schedule x _ ()⟩

theorem alarms_mirrorFlag (s : Service) (flag : Bool) :
    (s.mirrorFlag flag).owner.alarms = s.owner.alarms := by
  unfold Service.mirrorFlag
  split
  · rfl
  · rw [owner_report]

section

variable {react : Reaction Tracker} (hr : Stirring react)

include hr

theorem hasSoundTimers_notifyAll {s : Service} (h : HasSoundTimers s) (state : Option Boundaries) :
    HasSoundTimers (s.notifyAll react state) := by
  have hk : Kept react HasSoundTimers :=
    ⟨fun s write h => hasSoundTimers_of_alarms h (by rw [owner_record]), fun _ _ _ h => h,
      fun s listener state h => hasSoundTimers_stirs h (hr s listener state)⟩
  exact hk.notifyAll h state

/-- An act keeps the timers sound, if the wake-up that it asks for is a moment of universal time. -/
theorem hasSoundTimers_perform {s : Service} (h : HasSoundTimers s) {a : Act}
    (ha : ∀ wanted, a = .wake wanted → ∃ x, wanted = .ofInstant x) :
    HasSoundTimers (a.perform react s) := by
  cases a with
  | ask queries => exact hasSoundTimers_of_alarms h rfl
  | note entry => exact hasSoundTimers_of_alarms h (by rw [Act.perform, owner_report])
  | fanOut state =>
    have hkept : HasSoundTimers (s.mapRegistry fun r => { r with last := state }) :=
      hasSoundTimers_of_alarms h rfl
    exact hasSoundTimers_notifyAll hr hkept state
  | mirror flag => exact hasSoundTimers_of_alarms h (alarms_mirrorFlag s flag)
  | wake wanted =>
    obtain ⟨x, rfl⟩ := ha wanted rfl
    exact hasSoundTimers_schedule h x

theorem hasSoundTimers_performAll {s : Service} (h : HasSoundTimers s) {acts : List Act}
    (hacts : ∀ wanted, .wake wanted ∈ acts → ∃ x, wanted = .ofInstant x) :
    HasSoundTimers (performAll react s acts) := by
  refine performAll_induction (fun s a ha hs => ?_) h
  refine hasSoundTimers_perform hr hs fun wanted hw => hacts wanted ?_
  rw [← hw]
  exact ha

/-- A cycle keeps the timers sound, however it ends. -/
theorem hasSoundTimers_after {t : Turn} (h : HasSoundTimers t.before) :
    HasSoundTimers (t.after react) := by
  rw [t.after_eq_performAll react]
  exact hasSoundTimers_performAll hr h fun wanted hw => Turn.eq_ofInstant_of_wake_mem hw

/-- After a cycle that answers with boundaries, the wake-up at their next transition is pending. -/
theorem pending?_after {t : Turn} (h : HasSoundTimers t.before) {b : Boundaries}
    (hb : t.outcome react = .ok (some b)) :
    ∃ wanted clock, b.nextTransition t.now = .ok wanted ∧ (t.after react).owner.alarms = .timers clock ∧
      clock.Sound ∧ clock.pending? = some wanted := by
  obtain ⟨x, hw, hafter, hok⟩ := Turn.exists_wake hb
  have hprelude : HasSoundTimers (performAll react t.before t.prelude) :=
    hasSoundTimers_performAll hr h fun wanted hw => absurd hw (t.wake_notMem_prelude wanted)
  obtain ⟨clock, hs, hc⟩ := hprelude
  obtain ⟨howner, hiff⟩ := schedule_timers hs (.ofInstant x)
  obtain ⟨started, hstarted⟩ := hiff.mp hok
  refine ⟨_, _, hw, ?_, hc.schedule x _ (), hc.pending?_schedule hstarted⟩
  rw [hafter, Turn.woken, howner]

end

/-! ### Runs -/

/-- What becomes of the timers after a cycle: nothing, or the live one has gone off and the trigger of a
wake-up is on the queue. -/
def IsWakeupKept (after s : Service) : Prop :=
  s.owner.alarms = after.owner.alarms ∨
    ∃ clock i, after.owner.alarms = .timers clock ∧ clock.live = some i ∧
      s.owner.alarms = .timers (clock.fire i).1 ∧ .trigger .alarm ∈ s.owner.queue

/-- A stir after a cycle does not lose the wake-up: the live timer goes off once, and its trigger is not
taken off the queue. -/
theorem isWakeupKept_stir {after s s' : Service} (hafter : HasSoundTimers after)
    (h : IsWakeupKept after s) (hst : Stir s s') : IsWakeupKept after s' := by
  obtain ⟨clock, hclock, -⟩ := hafter
  obtain ha | ⟨clock', i, hc, hi, ha, hq⟩ := h
  · obtain ⟨-, ha' | ⟨i, hi, ha', hq⟩⟩ := stir_cases hst (ha.trans hclock)
    · exact Or.inl (ha'.trans hclock.symm)
    · exact Or.inr ⟨clock, i, hclock, hi, ha', hq⟩
  · obtain ⟨hsub, ha' | ⟨j, hj, -, -⟩⟩ := stir_cases hst ha
    · exact Or.inr ⟨clock', i, hc, hi, ha', hsub hq⟩
    · rw [AlarmClock.live_fire hi] at hj
      cases hj

/-- Taking a signal to stop off the queue does not lose the wake-up. -/
theorem isWakeupKept_drop {after s : Service} (h : IsWakeupKept after s) {rest : List Signal}
    (hq : s.owner.queue = .stop :: rest) : IsWakeupKept after (s.leave rest) := by
  obtain ha | ⟨clock, i, hc, hi, ha, hmem⟩ := h
  · exact Or.inl ha
  · rw [hq] at hmem
    simp only [List.mem_cons, reduceCtorEq, false_or] at hmem
    exact Or.inr ⟨clock, i, hc, hi, ha, hmem⟩

section

variable {react : Reaction Tracker}

/-- Processing a trigger does to the timers what its cycle does. -/
theorem alarms_process (s : Service) (trigger : Trigger) :
    (s.process react trigger).owner.alarms =
      ((⟨s, some trigger⟩ : Turn).after react).owner.alarms := by
  unfold Service.process Turn.after
  cases s.cycle react (some trigger) with
  | mk s' outcome =>
    cases outcome with
    | ok state => rfl
    | error e => rw [owner_report]

/-- **In all states of a run the live timer is the only one that waits.** -/
theorem hasSoundTimers_of_run (hr : Stirring react) {s : Service} {turn : Option Turn}
    (h : Run react s turn) : HasSoundTimers s := by
  induction h with
  | init ha => exact ⟨_, ha, AlarmClock.sound_empty⟩
  | stir _ hst ih => exact hasSoundTimers_stir ih hst
  | @process s turn trigger rest _ hq ih =>
    have hleft : HasSoundTimers (s.leave rest) := hasSoundTimers_of_alarms ih rfl
    exact hasSoundTimers_of_alarms (hasSoundTimers_after hr (t := ⟨s.leave rest, some trigger⟩) hleft)
      (alarms_process _ _)
  | @cycle s turn reason _ ih => exact hasSoundTimers_after hr (t := ⟨s, reason⟩) ih
  | drop _ _ ih => exact hasSoundTimers_of_alarms ih rfl

/-- The timers of a run since its last cycle. The cycle began with sound timers. -/
theorem isWakeupKept_of_run (hr : Stirring react) {s : Service} {turn : Option Turn}
    (h : Run react s turn) :
    ∀ t, turn = some t → HasSoundTimers t.before ∧ IsWakeupKept (t.after react) s := by
  induction h with
  | init _ => intro t ht; cases ht
  | stir _ hst ih =>
    intro t ht
    obtain ⟨hbefore, hkept⟩ := ih t ht
    exact ⟨hbefore, isWakeupKept_stir (hasSoundTimers_after hr hbefore) hkept hst⟩
  | @process s turn trigger rest hrun hq _ =>
    intro t ht
    obtain rfl := Option.some.inj ht
    have hbefore := hasSoundTimers_of_run hr hrun
    exact ⟨hasSoundTimers_of_alarms hbefore rfl, Or.inl (alarms_process _ _)⟩
  | @cycle s turn reason hrun _ =>
    intro t ht
    obtain rfl := Option.some.inj ht
    exact ⟨hasSoundTimers_of_run hr hrun, Or.inl rfl⟩
  | drop _ hq ih =>
    intro t ht
    obtain ⟨hbefore, hkept⟩ := ih t ht
    exact ⟨hbefore, isWakeupKept_drop hkept hq⟩

/-- **No wake-up is lost.** In every state of a run whose last cycle answered with boundaries, either
exactly one timer waits, and the pending wake-up is their next transition at the moment of the cycle;
or the timer of that transition, which was live after the cycle, has gone off, and the trigger of a
wake-up is on the queue. -/
theorem wakeup_of_run (hr : Stirring react) {s : Service} {t : Turn} {b : Boundaries}
    (h : Run react s (some t)) (hb : t.outcome react = .ok (some b)) :
    ∃ wanted, b.nextTransition t.now = .ok wanted ∧
      ((∃ clock, s.owner.alarms = .timers clock ∧ (∃! i, clock.Waits i) ∧
          clock.pending? = some wanted) ∨
        ∃ armed clock i timer, (t.after react).owner.alarms = .timers armed ∧ armed.live = some i ∧
          s.owner.alarms = .timers clock ∧ clock.timers[i]? = some timer ∧ timer.due = wanted ∧
          timer.fired = true ∧ .trigger .alarm ∈ s.owner.queue) := by
  obtain ⟨hbefore, hkept⟩ := isWakeupKept_of_run hr h t rfl
  obtain ⟨wanted, armed, hw, harmed, hsound, hpending⟩ := pending?_after hr hbefore hb
  refine ⟨wanted, hw, ?_⟩
  obtain ha | ⟨clock, i, hc, hi, ha, hq⟩ := hkept
  · exact Or.inl ⟨armed, ha.trans harmed, hsound.existsUnique_waits hpending, hpending⟩
  · obtain rfl : clock = armed := Alarms.timers.inj (hc.symm.trans harmed)
    obtain ⟨timer, ht, hdue, hfired⟩ := AlarmClock.fired_fire hi hpending
    exact Or.inr ⟨clock, _, i, timer, hc, hi, ha, ht, hdue, hfired, hq⟩

/-- The timer of the first cycle has gone off: its trigger is on the queue. -/
theorem wakeup_of_evening :
    ∃ (s : Service) (b : Boundaries) (wanted : Moment), Run .idle s (some eveningTurn) ∧
      b.nextTransition eveningTurn.now = .ok wanted ∧
      ((∃ clock, s.owner.alarms = .timers clock ∧ (∃! i, clock.Waits i) ∧
          clock.pending? = some wanted) ∨
        ∃ armed clock i timer, (eveningTurn.after .idle).owner.alarms = .timers armed ∧
          armed.live = some i ∧ s.owner.alarms = .timers clock ∧ clock.timers[i]? = some timer ∧
          timer.due = wanted ∧ timer.fired = true ∧ .trigger .alarm ∈ s.owner.queue) := by
  have hrun : Run .idle ((eveningTurn.after .idle).fire none).1 (some eveningTurn) :=
    ((Run.init rfl).cycle (some .startup)).stir (.callback _ none)
  have hb : eveningTurn.outcome .idle =
      .ok (some ⟨1687320000000, 1687377600000, 1687406400000, 1687464000000, by decide⟩) := by
    decide +kernel
  obtain ⟨wanted, hw, hkept⟩ := wakeup_of_run (fun _ _ _ => .refl) hrun hb
  exact ⟨_, _, wanted, hrun, hw, hkept⟩

/-- What the loop of the service does is a run, up to any number of triggers. -/
theorem run_drain (bound : Nat) {s : Service} {turn : Option Turn} (h : Run react s turn) :
    ∃ turn', Run react (s.drain react bound).1 turn' := by
  induction bound generalizing s turn with
  | zero => exact ⟨turn, h⟩
  | succ bound ih =>
    rw [Service.drain]
    split
    · exact ⟨turn, h⟩
    · rename_i rest hq
      exact ⟨turn, h.drop hq⟩
    · rename_i trigger rest hq
      exact ih (h.process hq)

end

end Daylight
