import Daylight.Proofs.AlarmClock
import Daylight.Scenario.Wakeup
import Mathlib.Data.List.Nodup

/-!
# Only the live timer goes off

An alarm clock is called from everywhere: wake-ups are asked for and dropped, and the callbacks of timers
come in, of the live one, of others that were cancelled or replaced, late, or again. A task that is run
calls the clock in its turn, after its timer has gone off. So the calls of a run come in any order, and
after the callback of a timer any call may follow.

Three marks tell a stale callback from that of the live timer: the timer, the name by which its callback
knows it, and the instant of the wake-up. They are not changed together. Cancelling wipes the timer and
the instant and leaves the name; going off does so, too; and a wake-up for the same instant leaves all
three. `MarkedClock` is a clock with three such marks. The alarm clock has only one, the number of the
live timer, and this is enough: a mark that was left over never names a timer that is there.

## What is proved

* `keeps_step`: no call makes a timer wait again, or gives it another instant or another task.
* `agrees_step`: the clock with three marks answers every call as the alarm clock does.
* `nodup_run`: no timer goes off twice in a run.
* `isCalls_perform`: tasks that call the clock in their turn make a run of calls like any other.
* `one_live_timer`: after any calls at most one timer waits; a wake-up is pending exactly while it does,
  and at its instant; only its callback runs a task; and every timer does so at most once.
-/

namespace Daylight

/-! ### Calls -/

/-- What an alarm clock is called for. -/
inductive AlarmCall (κ : Type) where
  /-- Ask for a wake-up, when the clock shows `now`. -/
  | schedule (wanted now : Moment) (task : κ)
  /-- Drop the pending wake-up. -/
  | cancel
  /-- Run the callback of a timer. -/
  | callback (number : Nat)

/-- The clock after some calls, and the tasks that they let run, each with the number of its timer. -/
def runCalls {σ κ : Type} (step : σ → AlarmCall κ → σ × List (Nat × κ)) (s : σ) :
    List (AlarmCall κ) → σ × List (Nat × κ)
  | [] => (s, [])
  | call :: calls =>
    let (s, rung) := step s call
    let (s, more) := runCalls step s calls
    (s, rung ++ more)

section

variable {σ κ : Type} {step : σ → AlarmCall κ → σ × List (Nat × κ)}

theorem runCalls_cons (s : σ) (call : AlarmCall κ) (calls : List (AlarmCall κ)) :
    runCalls step s (call :: calls) = ((runCalls step (step s call).1 calls).1,
      (step s call).2 ++ (runCalls step (step s call).1 calls).2) := rfl

theorem runCalls_append (s : σ) (calls more : List (AlarmCall κ)) :
    runCalls step s (calls ++ more) = ((runCalls step (runCalls step s calls).1 more).1,
      (runCalls step s calls).2 ++ (runCalls step (runCalls step s calls).1 more).2) := by
  induction calls generalizing s with
  | nil => rfl
  | cons call calls ih => rw [List.cons_append, runCalls_cons, ih, runCalls_cons, List.append_assoc]

end

namespace AlarmClock

variable {κ : Type} {a b c : AlarmClock κ}

/-- What a call does to an alarm clock, and the task that it lets run. -/
def step (a : AlarmClock κ) : AlarmCall κ → AlarmClock κ × List (Nat × κ)
  | .schedule wanted now task => ((a.schedule wanted now task).1, [])
  | .cancel => (a.cancel, [])
  | .callback number => ((a.fire number).1, ((a.fire number).2.map (number, ·)).toList)

theorem tellsLive_step (h : a.TellsLive) (call : AlarmCall κ) : (a.step call).1.TellsLive := by
  cases call with
  | schedule wanted now task => exact h.schedule wanted now task
  | cancel => exact h.cancel
  | callback number => exact h.fire number

theorem tellsLive_run (h : a.TellsLive) (calls : List (AlarmCall κ)) :
    (runCalls step a calls).1.TellsLive := by
  induction calls generalizing a with
  | nil => exact h
  | cons call calls ih => exact ih (tellsLive_step h call)

/-! ### What a timer keeps -/

/-- Every timer of a clock is a timer of another one, with the same instant and the same task. It has
been cancelled there, or has gone off, if it was so before. -/
def Keeps (a b : AlarmClock κ) : Prop :=
  ∀ (i : Nat) (t : Timer κ), a.timers[i]? = some t → ∃ t', b.timers[i]? = some t' ∧ t'.due = t.due ∧
    t'.task = t.task ∧ (t.cancelled = true → t'.cancelled = true) ∧ (t.fired = true → t'.fired = true)

theorem Keeps.refl (a : AlarmClock κ) : a.Keeps a := fun _ t ht => ⟨t, ht, rfl, rfl, id, id⟩

theorem Keeps.trans (h : a.Keeps b) (h' : b.Keeps c) : a.Keeps c := by
  intro i t ht
  obtain ⟨t', ht', hdue, htask, hcancelled, hfired⟩ := h i t ht
  obtain ⟨t'', ht'', hdue', htask', hcancelled', hfired'⟩ := h' i t' ht'
  exact ⟨t'', ht'', hdue'.trans hdue, htask'.trans htask, hcancelled' ∘ hcancelled, hfired' ∘ hfired⟩

theorem keeps_modify (a : AlarmClock κ) (i : Nat) {f : Timer κ → Timer κ} (live : Option Nat)
    (hf : ∀ t, (f t).due = t.due ∧ (f t).task = t.task ∧ (t.cancelled = true → (f t).cancelled = true) ∧
      (t.fired = true → (f t).fired = true)) : a.Keeps ⟨a.timers.modify i f, live⟩ := by
  intro j t ht
  rw [List.getElem?_modify, ht]
  by_cases h : i = j
  · exact ⟨f t, by simp [h], hf t⟩
  · exact ⟨t, by simp [h], rfl, rfl, id, id⟩

theorem keeps_cancel (a : AlarmClock κ) : a.Keeps a.cancel := by
  unfold AlarmClock.cancel
  split
  · exact Keeps.refl a
  · exact keeps_modify a _ none fun t => ⟨rfl, rfl, fun _ => rfl, id⟩

theorem keeps_fire (a : AlarmClock κ) (number : Nat) : a.Keeps (a.fire number).1 := by
  unfold AlarmClock.fire
  split
  · exact keeps_modify a _ none fun t => ⟨rfl, rfl, id, fun _ => rfl⟩
  · exact Keeps.refl a

theorem keeps_arm (a : AlarmClock κ) (due : Moment) (delay : Int) (task : κ) :
    a.Keeps (a.arm due delay task) := by
  intro i t ht
  obtain ⟨hi, -⟩ := List.getElem?_eq_some_iff.mp ht
  exact ⟨t, by rw [arm, List.getElem?_append_left hi, ht], rfl, rfl, id, id⟩

theorem keeps_schedule (a : AlarmClock κ) (wanted now : Moment) (task : κ) :
    a.Keeps (a.schedule wanted now task).1 := by
  rcases a.schedule_cases wanted now task with
    ⟨e, -, he⟩ | ⟨due, -, ⟨-, hs⟩ | ⟨e, he⟩ | ⟨delay, hs⟩⟩
  · rw [he]
    exact Keeps.refl a
  · rw [hs]
    exact Keeps.refl a
  · rw [he]
    exact keeps_cancel a
  · rw [hs]
    exact (keeps_cancel a).trans (keeps_arm _ due delay task)

/-- **A call keeps all timers**: what has been cancelled or has gone off stays so. -/
theorem keeps_step (a : AlarmClock κ) (call : AlarmCall κ) : a.Keeps (a.step call).1 := by
  cases call with
  | schedule wanted now task => exact keeps_schedule a wanted now task
  | cancel => exact keeps_cancel a
  | callback number => exact keeps_fire a number

theorem keeps_run (a : AlarmClock κ) (calls : List (AlarmCall κ)) : a.Keeps (runCalls step a calls).1 := by
  induction calls generalizing a with
  | nil => exact Keeps.refl a
  | cons call calls ih => exact (keeps_step a call).trans (ih _)

/-! ### Which callbacks run a task -/

/-- A timer has gone off, and its task was run then. -/
def HasRung (a : AlarmClock κ) (entry : Nat × κ) : Prop :=
  ∃ t, a.timers[entry.1]? = some t ∧ t.fired = true ∧ t.task = entry.2

theorem HasRung.of_keeps {entry : Nat × κ} (h : a.HasRung entry) (hk : a.Keeps b) : b.HasRung entry := by
  obtain ⟨t, ht, hfired, htask⟩ := h
  obtain ⟨t', ht', -, htask', -, hfired'⟩ := hk entry.1 t ht
  exact ⟨t', ht', hfired' hfired, htask'.trans htask⟩

/-- A timer that waits has not gone off. -/
theorem not_hasRung_of_waits {i : Nat} (h : a.Waits i) (task : κ) : ¬ a.HasRung (i, task) := by
  rintro ⟨t, ht, hfired, -⟩
  obtain ⟨t', ht', -, hnot⟩ := h
  obtain rfl : t' = t := Option.some.inj (ht'.symm.trans ht)
  exact absurd hfired (by simp [hnot])

/-- The callback of a timer runs a task exactly if the timer waits. -/
theorem fire_ne_none_iff (h : a.TellsLive) (number : Nat) :
    (a.fire number).2 ≠ none ↔ a.Waits number := by
  rw [h number]
  by_cases hl : a.live = some number
  · obtain ⟨t, ht, -, -⟩ := (h number).mpr hl
    simp [fire, hl, ht]
  · simp [fire, hl]

/-- A task that a call lets run is that of a timer which waited, and has gone off now. -/
theorem waits_of_mem_step (h : a.TellsLive) {call : AlarmCall κ} {entry : Nat × κ}
    (hmem : entry ∈ (a.step call).2) :
    (a.step call).2 = [entry] ∧ a.Waits entry.1 ∧ (a.step call).1.HasRung entry := by
  cases call with
  | schedule wanted now task => cases hmem
  | cancel => cases hmem
  | callback number =>
    simp only [step, Option.mem_toList, Option.map_eq_some_iff] at hmem ⊢
    obtain ⟨task, htask, rfl⟩ := hmem
    have hwaits : a.Waits number := (fire_ne_none_iff h number).mp (by simp [htask])
    have ⟨t, ht, _⟩ := hwaits
    have hlive : a.live = some number := (h number).mp hwaits
    have hsame : t.task = task := by simpa [fire, hlive, ht] using htask
    refine ⟨by simp [htask], hwaits, { t with fired := true }, ?_, rfl, hsame⟩
    simp [fire, hlive, ht]

/-- **No timer goes off twice.** What goes off in a run had not gone off before, and has gone off after
it. The induction is on the calls; what one call lets go off can never wait again. -/
theorem nodup_run (h : a.TellsLive) (calls : List (AlarmCall κ)) :
    ((runCalls step a calls).2.map (·.1)).Nodup ∧ ∀ entry ∈ (runCalls step a calls).2,
      (∀ task, ¬ a.HasRung (entry.1, task)) ∧ (runCalls step a calls).1.HasRung entry := by
  induction calls generalizing a with
  | nil => exact ⟨List.nodup_nil, fun _ hmem => absurd hmem List.not_mem_nil⟩
  | cons call calls ih =>
    obtain ⟨hnodup, hrest⟩ := ih (tellsLive_step h call)
    have hkeeps := keeps_step a call
    rw [runCalls_cons]
    constructor
    · rw [List.map_append, List.nodup_append']
      refine ⟨?_, hnodup, ?_⟩
      · cases hs : (a.step call).2 with
        | nil => exact List.nodup_nil
        | cons entry others =>
          obtain ⟨hone, -, -⟩ := waits_of_mem_step h (hs ▸ List.mem_cons_self)
          rw [← hs, hone]
          exact List.nodup_singleton _
      · intro i hi hlater
        obtain ⟨entry, hmem, rfl⟩ := List.mem_map.mp hi
        obtain ⟨later, hmem', hsame⟩ := List.mem_map.mp hlater
        obtain ⟨-, -, hrung⟩ := waits_of_mem_step h hmem
        exact (hrest later hmem').1 entry.2 (hsame ▸ hrung)
    · intro entry hmem
      obtain hmem | hmem := List.mem_append.mp hmem
      · obtain ⟨-, hwaits, hrung⟩ := waits_of_mem_step h hmem
        exact ⟨not_hasRung_of_waits hwaits, hrung.of_keeps (keeps_run _ calls)⟩
      · obtain ⟨hnot, hrung⟩ := hrest entry hmem
        exact ⟨fun task hbefore => hnot task (hbefore.of_keeps hkeeps), hrung⟩

/-- While a timer waits, its instant is that of the pending wake-up; and no other wake-up is pending. -/
theorem pending?_eq_some_iff (h : a.TellsLive) (due : Moment) :
    a.pending? = some due ↔ ∃ i t, a.Waits i ∧ a.timers[i]? = some t ∧ t.due = due := by
  simp only [pending?, liveTimer?, Option.map_eq_some_iff, Option.bind_eq_some_iff]
  constructor
  · rintro ⟨t, ⟨i, hi, ht⟩, hdue⟩
    exact ⟨i, t, (h i).mpr hi, ht, hdue⟩
  · rintro ⟨i, t, hi, ht, hdue⟩
    exact ⟨t, ⟨i, (h i).mp hi, ht⟩, hdue⟩

end AlarmClock

/-! ### Three marks -/

/-- An alarm clock that keeps three marks about its timers. -/
structure MarkedClock (κ : Type) where
  /-- The timers in the order in which they were started. -/
  timers : List (Timer κ)
  /-- The timer that was started last, unless it was cancelled or has gone off. -/
  timer : Option Nat
  /-- The name that the callback of the timer that was started last knows it by. -/
  name : Option Nat
  /-- The instant of the pending wake-up. -/
  due : Option Moment

namespace MarkedClock

variable {κ : Type} {m : MarkedClock κ} {a : AlarmClock κ}

/-- The clock with no timer and no mark. -/
def empty : MarkedClock κ := ⟨[], none, none, none⟩

/-- Cancels the timer, if there is one. The name stays. -/
def cancel (m : MarkedClock κ) : MarkedClock κ :=
  let timers := match m.timer with
    | none => m.timers
    | some i => m.timers.modify i fun t => { t with cancelled := true }
  { m with timers := timers, timer := none, due := none }

/-- Starts a timer, and sets all three marks. -/
def arm (m : MarkedClock κ) (due : Moment) (delay : Int) (task : κ) : MarkedClock κ :=
  let i := m.timers.length
  ⟨m.timers ++ [⟨due, delay, false, false, task⟩], some i, some i, some due⟩

/-- Asks for a wake-up. If there is a timer for the same instant, the marks stay. -/
def schedule (m : MarkedClock κ) (wanted now : Moment) (task : κ) : MarkedClock κ :=
  match wanted.toUtc with
  | .error _ => m
  | .ok due =>
    if m.timer.isSome ∧ m.due.map (·.wall) = some due.wall then m
    else match due.since now with
      | .error _ => m.cancel
      | .ok left => m.cancel.arm due (max 0 left) task

/-- Runs the callback of a timer. It does nothing if there is no timer, or if the timer has another
name. -/
def fire (m : MarkedClock κ) (number : Nat) : MarkedClock κ × Option κ :=
  if m.timer = none ∨ m.name ≠ some number then (m, none)
  else
    ({ m with
        timers := m.timers.modify number fun t => { t with fired := true }
        timer := none
        due := none },
      m.timers[number]?.map (·.task))

/-- What a call does to the clock, and the task that it lets run. -/
def step (m : MarkedClock κ) : AlarmCall κ → MarkedClock κ × List (Nat × κ)
  | .schedule wanted now task => (m.schedule wanted now task, [])
  | .cancel => (m.cancel, [])
  | .callback number => ((m.fire number).1, ((m.fire number).2.map (number, ·)).toList)

/-- The marks are those of an alarm clock. A name that is left over is that of no timer. -/
structure Agrees (m : MarkedClock κ) (a : AlarmClock κ) : Prop where
  /-- The timers are the same. -/
  timers : m.timers = a.timers
  /-- The timer is the live one. -/
  timer : m.timer = a.live
  /-- If there is a timer, it has its own name. -/
  name : m.timer ≠ none → m.name = m.timer
  /-- The instant is that of the pending wake-up. -/
  due : m.due = a.pending?

theorem agrees_empty : (empty : MarkedClock κ).Agrees .empty := ⟨rfl, rfl, fun _ => rfl, rfl⟩

namespace Agrees

variable (h : m.Agrees a)

include h

theorem cancel : m.cancel.Agrees a.cancel := by
  obtain ⟨htimers, htimer, -, hdue⟩ := h
  simp only [MarkedClock.cancel, AlarmClock.cancel, htimer, htimers]
  cases hl : a.live with
  | none =>
    have hnone : a.pending? = none := by simp [AlarmClock.pending?, AlarmClock.liveTimer?, hl]
    exact ⟨rfl, hl.symm, fun hne => absurd rfl hne, hnone.symm⟩
  | some i => exact ⟨rfl, rfl, fun hne => absurd rfl hne, rfl⟩

theorem arm (due : Moment) (delay : Int) (task : κ) :
    (m.arm due delay task).Agrees (a.arm due delay task) := by
  obtain ⟨htimers, -, -, -⟩ := h
  simp only [MarkedClock.arm, htimers]
  exact ⟨rfl, rfl, fun _ => rfl, (AlarmClock.Sound.pending?_arm a due delay task).symm⟩

theorem schedule (wanted now : Moment) (task : κ) :
    (m.schedule wanted now task).Agrees (a.schedule wanted now task).1 := by
  unfold MarkedClock.schedule AlarmClock.schedule
  cases wanted.toUtc with
  | error e => exact h
  | ok due =>
    -- where the instant is the pending one, there is a timer
    have hsame : (m.timer.isSome ∧ m.due.map (·.wall) = some due.wall) ↔
        a.pending?.map (·.wall) = some due.wall := by
      rw [h.due, h.timer, and_iff_right_iff_imp]
      intro hw
      cases hl : a.live with
      | none => simp [AlarmClock.pending?, AlarmClock.liveTimer?, hl] at hw
      | some i => rfl
    dsimp only
    by_cases hw : a.pending?.map (·.wall) = some due.wall
    · rw [if_pos (hsame.mpr hw), if_pos hw]
      exact h
    · rw [if_neg (mt hsame.mp hw), if_neg hw]
      cases due.since now with
      | error e => exact h.cancel
      | ok left => exact h.cancel.arm due (max 0 left) task

theorem fire (number : Nat) : (m.fire number).2 = (a.fire number).2 ∧
    (m.fire number).1.Agrees (a.fire number).1 := by
  have hlive : (m.timer = none ∨ m.name ≠ some number) ↔ ¬ a.live = some number := by
    rw [← h.timer]
    cases hm : m.timer with
    | none => simp
    | some i => simp [h.name (by simp [hm]), hm]
  unfold MarkedClock.fire AlarmClock.fire
  by_cases hl : a.live = some number
  · rw [if_neg (mt hlive.mp (not_not.mpr hl)), if_pos hl, h.timers]
    exact ⟨rfl, rfl, rfl, fun hne => absurd rfl hne, rfl⟩
  · rw [if_pos (hlive.mpr hl), if_neg hl]
    exact ⟨rfl, h⟩

end Agrees

/-- **Three marks answer every call as the one mark does.** -/
theorem agrees_step (h : m.Agrees a) (call : AlarmCall κ) :
    (m.step call).2 = (a.step call).2 ∧ (m.step call).1.Agrees (a.step call).1 := by
  cases call with
  | schedule wanted now task => exact ⟨rfl, h.schedule wanted now task⟩
  | cancel => exact ⟨rfl, h.cancel⟩
  | callback number =>
    obtain ⟨htask, hfired⟩ := h.fire number
    exact ⟨by simp only [step, AlarmClock.step, htask], hfired⟩

theorem agrees_run (h : m.Agrees a) (calls : List (AlarmCall κ)) :
    (runCalls step m calls).2 = (runCalls AlarmClock.step a calls).2 ∧
      (runCalls step m calls).1.Agrees (runCalls AlarmClock.step a calls).1 := by
  induction calls generalizing m a with
  | nil => exact ⟨rfl, h⟩
  | cons call calls ih =>
    obtain ⟨hrung, hstep⟩ := agrees_step h call
    obtain ⟨hmore, hrest⟩ := ih hstep
    exact ⟨by rw [runCalls_cons, runCalls_cons, hrung, hmore], hrest⟩

end MarkedClock

/-! ### Tasks that call the clock -/

namespace Scenario.Bedside

/-- What is done at a bedside can be done by calls: they lead to the same clock, and let the same
wake-ups come, in the same order. -/
def IsCalls (b b' : Bedside) : Prop :=
  ∃ calls, b'.clock = (runCalls AlarmClock.step b.clock calls).1 ∧
    b'.woken.map (·.1) = b.woken.map (·.1) ++
      (runCalls AlarmClock.step b.clock calls).2.map fun entry => entry.2.label

theorem IsCalls.refl (b : Bedside) : b.IsCalls b := ⟨[], rfl, (List.append_nil _).symm⟩

theorem IsCalls.trans {b b' b'' : Bedside} (h : b.IsCalls b') (h' : b'.IsCalls b'') : b.IsCalls b'' := by
  obtain ⟨calls, hclock, hwoken⟩ := h
  obtain ⟨more, hclock', hwoken'⟩ := h'
  refine ⟨calls ++ more, ?_, ?_⟩
  · rw [runCalls_append, hclock', hclock]
  · rw [runCalls_append, hwoken', hwoken, hclock, List.map_append, List.append_assoc]

/-- A single call that lets nothing come. -/
theorem isCalls_of_call {b b' : Bedside} (call : AlarmCall Wakeup)
    (h : b.clock.step call = (b'.clock, [])) (hwoken : b'.woken = b.woken) : b.IsCalls b' :=
  ⟨[call], by rw [runCalls_cons, h]; rfl,
    by rw [runCalls_cons, h, hwoken]; exact (List.append_nil _).symm⟩

theorem isCalls_schedule (b : Bedside) (wanted : Moment) (wakeup : Wakeup) :
    b.IsCalls (b.schedule wanted wakeup).1 := by
  have hcall : ∀ log, b.IsCalls { b with clock := (b.clock.schedule wanted b.now wakeup).1, log := log } :=
    fun log => isCalls_of_call (.schedule wanted b.now wakeup) rfl rfl
  unfold schedule
  dsimp only
  split
  · exact hcall b.log
  · exact hcall b.log
  · exact hcall _

theorem isCalls_performAll {perform : Bedside → AlarmAction → Bedside × Except Failure Unit}
    (h : ∀ (b : Bedside) action, b.IsCalls (perform b action).1) (b : Bedside) (actions : List AlarmAction) :
    b.IsCalls (performAll perform b actions).1 := by
  induction actions generalizing b with
  | nil => exact IsCalls.refl b
  | cons action actions ih =>
    have hfirst := h b action
    rw [performAll]
    split <;> rename_i heq <;> rw [heq] at hfirst
    · exact hfirst.trans (ih _)
    · exact hfirst

/-- A callback is a call; and if a wake-up comes, what is done then is done by the calls after it. -/
theorem isCalls_fire {perform : Bedside → AlarmAction → Bedside × Except Failure Unit}
    (h : ∀ (b : Bedside) action, b.IsCalls (perform b action).1) (b : Bedside) (number : Int) :
    b.IsCalls (fire perform b number).1 := by
  unfold fire
  cases b.clock.place? number with
  | none => exact IsCalls.refl b
  | some place =>
    dsimp only
    cases hdue : (b.clock.fire place).2 with
    | none =>
      exact isCalls_of_call (.callback place) (by simp [AlarmClock.step, hdue]) rfl
    | some wakeup =>
      have hcome : b.IsCalls (wake { b with clock := (b.clock.fire place).1 } wakeup) := by
        refine ⟨[.callback place], rfl, ?_⟩
        simp [runCalls, AlarmClock.step, hdue, wake]
      exact hcome.trans (isCalls_performAll h _ _)

/-- **Tasks that call the clock in their turn make a run of calls like any other.** The recursion is on
how deep they are inside each other. -/
theorem isCalls_perform (depth : Nat) (b : Bedside) (action : AlarmAction) :
    b.IsCalls (b.perform depth action).1 := by
  cases action with
  | schedule wanted label behind =>
    rw [perform]
    exact isCalls_schedule b wanted ⟨label, behind⟩
  | cancel =>
    rw [perform]
    exact isCalls_of_call .cancel rfl rfl
  | setNow now =>
    rw [perform]
    exact ⟨[], rfl, (List.append_nil _).symm⟩
  | fail failure =>
    rw [perform]
    exact IsCalls.refl b
  | fire number =>
    cases depth with
    | zero => exact IsCalls.refl b
    | succ depth => exact isCalls_fire (isCalls_perform depth) b number

end Scenario.Bedside

/-- **One live timer, and only it goes off.** After any calls, at most one timer waits, that is, was
neither cancelled nor has gone off. A wake-up is pending exactly while it does, and at its instant. Of all
callbacks only its own runs a task. In the whole run every timer lets its task run at most once. A clock
that keeps three marks answers all calls in the same way; and whatever is done at a bedside, where tasks
call the clock in their turn, is done by such calls. -/
theorem one_live_timer {κ : Type} (calls : List (AlarmCall κ)) (depth : Nat) (now : Moment)
    (actions : List Scenario.AlarmAction) :
    let a := (runCalls AlarmClock.step .empty calls).1
    let rung := (runCalls AlarmClock.step .empty calls).2
    let marked := runCalls MarkedClock.step .empty calls
    (∀ i j, a.Waits i → a.Waits j → i = j) ∧
      (∀ due, a.pending? = some due ↔ ∃ i t, a.Waits i ∧ a.timers[i]? = some t ∧ t.due = due) ∧
      (∀ number, (a.fire number).2 ≠ none ↔ a.Waits number) ∧
      (rung.map (·.1)).Nodup ∧ (∀ entry ∈ rung, a.HasRung entry) ∧
      (marked.2 = rung ∧ marked.1.timers = a.timers ∧ marked.1.timer = a.live ∧
        marked.1.due = a.pending?) ∧
      (Scenario.Bedside.ofNow now).IsCalls
        (Scenario.performAll (Scenario.Bedside.perform depth) (.ofNow now) actions).1 := by
  intro a rung marked
  have hlive : a.TellsLive := AlarmClock.tellsLive_run AlarmClock.tellsLive_empty calls
  obtain ⟨hnodup, hrung⟩ := AlarmClock.nodup_run (AlarmClock.tellsLive_empty (κ := κ)) calls
  obtain ⟨hsame, hagrees⟩ := MarkedClock.agrees_run (MarkedClock.agrees_empty (κ := κ)) calls
  refine ⟨fun i j hi hj => ?_, AlarmClock.pending?_eq_some_iff hlive,
    AlarmClock.fire_ne_none_iff hlive, hnodup, fun entry hmem => (hrung entry hmem).2,
    ⟨hsame, hagrees.timers, hagrees.timer, hagrees.due⟩, ?_⟩
  · have hi := (hlive i).mp hi
    rw [(hlive j).mp hj, Option.some.injEq] at hi
    exact hi.symm
  · exact Scenario.Bedside.isCalls_performAll (Scenario.Bedside.isCalls_perform depth) _ actions

end Daylight
