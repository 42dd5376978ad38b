import Daylight.Proofs.Instants
import Daylight.Alarm

/-!
# The one live timer

The timers of an alarm clock are all kept, so most of them have been cancelled or have fired. The
invariant `Sound` says that the live one is the only one that still waits (`TellsLive`), and that
wake-ups are moments of universal time. It holds of the empty clock, and every operation keeps it.

## What is proved

* `TellsLive.cancel`, `TellsLive.fire`, `TellsLive.schedule`: the live timer is the only one that waits,
  whatever wake-ups are asked for.
* `Sound.cancel`, `Sound.fire`, `Sound.schedule`: the operations keep the invariant. So at most one
  timer waits, whatever order they come in (`Sound.existsUnique_waits`).
* `Sound.pending?_schedule`: a wake-up that was asked for is the pending one, whether a timer was
  started for it or was waiting for it already.
-/

namespace Daylight.AlarmClock

variable {κ : Type} {a : AlarmClock κ}

/-- A timer waits: it was neither cancelled, nor has its task been run. -/
def Waits (a : AlarmClock κ) (i : Nat) : Prop :=
  ∃ t, a.timers[i]? = some t ∧ t.cancelled = false ∧ t.fired = false

/-- A timer waits exactly when it is the live one. -/
def TellsLive (a : AlarmClock κ) : Prop := ∀ i, a.Waits i ↔ a.live = some i

/-- Wake-ups are moments of universal time. -/
def AreUtc (timers : List (Timer κ)) : Prop :=
  ∀ (i : Nat) (t : Timer κ), timers[i]? = some t → ∃ x, t.due = .ofInstant x

/-- The live timer waits, and no other does. It is the one that was started last. -/
structure Sound (a : AlarmClock κ) : Prop where
  /-- A timer waits exactly when it is the live one. -/
  waits_iff : ∀ i, a.Waits i ↔ a.live = some i
  /-- Wake-ups are moments of universal time. -/
  due : AreUtc a.timers
  /-- No timer was started after the live one. -/
  isLast : ∀ i, a.live = some i → i + 1 = a.timers.length

theorem tellsLive_empty : TellsLive (empty : AlarmClock κ) := fun i => by simp [Waits, empty]

theorem sound_empty : Sound (empty : AlarmClock κ) where
  waits_iff := tellsLive_empty
  due i t h := by simp [empty] at h
  isLast i h := by simp [empty] at h

/-- A change of one timer that ends its waiting leaves the others waiting. -/
theorem waits_modify {i j : Nat} {f : Timer κ → Timer κ} {live : Option Nat}
    (hf : ∀ t, (f t).cancelled = true ∨ (f t).fired = true) :
    (⟨a.timers.modify i f, live⟩ : AlarmClock κ).Waits j ↔ a.Waits j ∧ j ≠ i := by
  simp only [Waits, List.getElem?_modify]
  by_cases h : i = j
  · subst h
    simp only [if_true, ne_eq, not_true, and_false, iff_false]
    rintro ⟨t, ht, hc, hd⟩
    obtain ⟨t', -, rfl⟩ := Option.map_eq_some_iff.mp ht
    rcases hf t' with hf | hf
    · simp [hf] at hc
    · simp [hf] at hd
  · simp [h, Ne.symm h]

/-- A change of one timer that leaves its wake-up leaves all of them. -/
theorem areUtc_modify {timers : List (Timer κ)} (h : AreUtc timers) (i : Nat)
    {f : Timer κ → Timer κ} (hf : ∀ t, (f t).due = t.due) : AreUtc (timers.modify i f) := by
  intro j t ht
  rw [List.getElem?_modify] at ht
  obtain ⟨t', ht', rfl⟩ := Option.map_eq_some_iff.mp ht
  obtain ⟨x, hx⟩ := h j t' ht'
  refine ⟨x, ?_⟩
  split
  · rw [hf, hx]
  · exact hx

theorem live_cancel (a : AlarmClock κ) : a.cancel.live = none := by
  unfold AlarmClock.cancel
  split
  · assumption
  · rfl

/-- What asking for a wake-up does: nothing, when it fails at once or a wake-up with the same reading is
pending already; else it cancels, and starts a timer if it can tell the time that is left. -/
theorem schedule_cases (a : AlarmClock κ) (wanted now : Moment) (task : κ) :
    (∃ e, wanted.toUtc = .error e ∧ a.schedule wanted now task = (a, .error e)) ∨
      ∃ due, wanted.toUtc = .ok due ∧
        ((a.pending?.map (·.wall) = some due.wall ∧ a.schedule wanted now task = (a, .ok none)) ∨
          (∃ e, a.schedule wanted now task = (a.cancel, .error e)) ∨
          ∃ delay, a.schedule wanted now task =
            (a.cancel.arm due delay task, .ok (a.cancel.arm due delay task).liveTimer?)) := by
  unfold AlarmClock.schedule
  cases wanted.toUtc with
  | error e => exact Or.inl ⟨e, rfl, rfl⟩
  | ok due =>
    refine Or.inr ⟨due, rfl, ?_⟩
    dsimp only
    split
    · rename_i hw
      exact Or.inl ⟨hw, rfl⟩
    · cases due.since now with
      | error e => exact Or.inr (Or.inl ⟨e, rfl⟩)
      | ok left => exact Or.inr (Or.inr ⟨max 0 left, rfl⟩)

namespace TellsLive

variable (h : a.TellsLive)

include h

/-- When the live timer ends its waiting, none waits. -/
theorem modify_live {i : Nat} (hi : a.live = some i) {f : Timer κ → Timer κ}
    (hf : ∀ t, (f t).cancelled = true ∨ (f t).fired = true) :
    (⟨a.timers.modify i f, none⟩ : AlarmClock κ).TellsLive := by
  intro j
  rw [waits_modify hf, h, hi]
  simp only [Option.some.injEq, ne_eq, reduceCtorEq, iff_false, not_and, not_not]
  exact Eq.symm

theorem cancel : a.cancel.TellsLive := by
  unfold AlarmClock.cancel
  split
  · exact h
  · rename_i i hi
    exact h.modify_live hi fun _ => Or.inl rfl

theorem fire (number : Nat) : (a.fire number).1.TellsLive := by
  unfold AlarmClock.fire
  split
  · rename_i hi
    exact h.modify_live hi fun _ => Or.inr rfl
  · exact h

/-- Where no timer is live, one can be started. -/
theorem arm (hl : a.live = none) (due : Moment) (delay : Int) (task : κ) :
    (a.arm due delay task).TellsLive := by
  intro i
  have hno : ¬ a.Waits i := by rw [h, hl]; simp
  simp only [Waits, AlarmClock.arm, Option.some.injEq] at hno ⊢
  rcases lt_trichotomy i a.timers.length with hlt | rfl | hgt
  · rw [List.getElem?_append_left hlt]
    exact iff_of_false hno (by omega)
  · simp
  · rw [List.getElem?_append_right (by omega), List.getElem?_eq_none (by simp; omega)]
    simp only [reduceCtorEq, false_and, exists_false, false_iff]
    omega

theorem schedule (wanted now : Moment) (task : κ) : (a.schedule wanted now task).1.TellsLive := by
  rcases a.schedule_cases wanted now task with
    ⟨e, -, he⟩ | ⟨due, -, ⟨-, hs⟩ | ⟨e, he⟩ | ⟨delay, hs⟩⟩
  · rw [he]
    exact h
  · rw [hs]
    exact h
  · rw [he]
    exact h.cancel
  · rw [hs]
    exact h.cancel.arm (live_cancel a) due delay task

end TellsLive

namespace Sound

variable (h : a.Sound)

include h

/-- When the live timer ends its waiting, none waits. -/
theorem modify_live {i : Nat} (hi : a.live = some i) {f : Timer κ → Timer κ}
    (hf : ∀ t, (f t).cancelled = true ∨ (f t).fired = true) (hd : ∀ t, (f t).due = t.due) :
    (⟨a.timers.modify i f, none⟩ : AlarmClock κ).Sound where
  waits_iff := TellsLive.modify_live h.waits_iff hi hf
  due := areUtc_modify h.due i hd
  isLast j hj := by cases hj

theorem cancel : a.cancel.Sound := by
  unfold AlarmClock.cancel
  split
  · exact h
  · rename_i i hi
    exact h.modify_live hi (fun _ => Or.inl rfl) fun _ => rfl

theorem fire (number : Nat) : (a.fire number).1.Sound := by
  unfold AlarmClock.fire
  split
  · rename_i hi
    exact h.modify_live hi (fun _ => Or.inr rfl) fun _ => rfl
  · exact h

/-- Where no timer is live, one can be started. -/
theorem arm (hl : a.live = none) (x delay : Int) (task : κ) :
    (a.arm (.ofInstant x) delay task).Sound where
  waits_iff := TellsLive.arm h.waits_iff hl (.ofInstant x) delay task
  due i t ht := by
    rw [AlarmClock.arm, List.getElem?_append] at ht
    split at ht
    · exact h.due i t ht
    · obtain rfl : t = ⟨.ofInstant x, delay, false, false, task⟩ := by
        have := List.mem_of_getElem? ht
        simpa using this
      exact ⟨x, rfl⟩
  isLast i hi := by
    obtain rfl : a.timers.length = i := Option.some.inj hi
    simp [AlarmClock.arm]

theorem due_of_pending? {due : Moment} (hp : a.pending? = some due) : ∃ x, due = .ofInstant x := by
  simp only [pending?, liveTimer?, Option.map_eq_some_iff, Option.bind_eq_some_iff] at hp
  obtain ⟨t, ⟨i, -, ht⟩, rfl⟩ := hp
  exact h.due i t ht

omit h in
theorem pending?_arm (a : AlarmClock κ) (due : Moment) (delay : Int) (task : κ) :
    (a.arm due delay task).pending? = some due := by
  simp [pending?, liveTimer?, AlarmClock.arm]

/-- What asking for a wake-up in universal time does: nothing, when it fails at once or the wake-up is
pending already; else it cancels, and starts a timer if it can tell the time that is left. -/
theorem schedule_cases (x : Int) (now : Moment) (task : κ) :
    (∃ e, a.schedule (.ofInstant x) now task = (a, .error e)) ∨
      (a.pending? = some (.ofInstant x) ∧ a.schedule (.ofInstant x) now task = (a, .ok none)) ∨
      (∃ e, a.schedule (.ofInstant x) now task = (a.cancel, .error e)) ∨
      ∃ delay, a.schedule (.ofInstant x) now task = (a.cancel.arm (.ofInstant x) delay task,
        .ok (a.cancel.arm (.ofInstant x) delay task).liveTimer?) := by
  obtain ⟨e, -, he⟩ | ⟨due, hdue, hcases⟩ := a.schedule_cases (.ofInstant x) now task
  · exact Or.inl ⟨e, he⟩
  · obtain rfl := Moment.eq_of_toUtc_ofInstant hdue
    obtain ⟨hw, hs⟩ | hcases := hcases
    · obtain ⟨due, hp, hwall⟩ := Option.map_eq_some_iff.mp hw
      obtain ⟨y, rfl⟩ := h.due_of_pending? hp
      obtain rfl : y = x := hwall
      exact Or.inr (Or.inl ⟨hp, hs⟩)
    · exact Or.inr (Or.inr hcases)

/-- Asking for a wake-up keeps the invariant, even where the time that is left cannot be told. -/
theorem schedule (x : Int) (now : Moment) (task : κ) :
    (a.schedule (.ofInstant x) now task).1.Sound := by
  obtain ⟨e, he⟩ | ⟨-, hs⟩ | ⟨e, he⟩ | ⟨delay, hs⟩ := h.schedule_cases x now task
  · rw [he]
    exact h
  · rw [hs]
    exact h
  · rw [he]
    exact h.cancel
  · rw [hs]
    exact h.cancel.arm (live_cancel a) x delay task

/-- **The wake-up that was asked for is pending**, if asking for it did not fail. -/
theorem pending?_schedule {x : Int} {now : Moment} {task : κ} {started : Option (Timer κ)}
    (hok : (a.schedule (.ofInstant x) now task).2 = .ok started) :
    (a.schedule (.ofInstant x) now task).1.pending? = some (.ofInstant x) := by
  obtain ⟨e, he⟩ | ⟨hp, hs⟩ | ⟨e, he⟩ | ⟨delay, hs⟩ := h.schedule_cases x now task
  · rw [he] at hok
    cases hok
  · rw [hs]
    exact hp
  · rw [he] at hok
    cases hok
  · rw [hs]
    exact pending?_arm _ _ _ _

omit h in
/-- Where a wake-up in the calendar could not be had, none is pending any more. -/
theorem live_of_error {x : Int} (hx : Moment.inCalendar x = true) {now : Moment} {task : κ} {e : Failure}
    (he : (a.schedule (.ofInstant x) now task).2 = .error e) :
    (a.schedule (.ofInstant x) now task).1.live = none := by
  have hutc := Moment.toUtc_of_instant? (Moment.instant?_ofInstant x) hx
  rcases a.schedule_cases (.ofInstant x) now task with
    ⟨e', hfailed, -⟩ | ⟨due, -, ⟨-, hs⟩ | ⟨e', hs⟩ | ⟨delay, hs⟩⟩
  · rw [hutc] at hfailed
    cases hfailed
  · rw [hs] at he
    cases he
  · rw [hs]
    exact live_cancel a
  · rw [hs] at he
    cases he

omit h in
/-- Asking for a wake-up in the calendar does not fail where the clock shows an instant. -/
theorem exists_started {x i : Int} (hx : Moment.inCalendar x = true) {now : Moment}
    (hn : now.instant? = some i) (task : κ) :
    ∃ started, (a.schedule (.ofInstant x) now task).2 = .ok started := by
  have hutc := Moment.toUtc_of_instant? (Moment.instant?_ofInstant x) hx
  have hsince : ∃ left, (Moment.ofInstant x).since now = .ok left := by
    unfold Moment.since
    split
    · exact ⟨_, rfl⟩
    · rw [Moment.instant?_ofInstant, hn]
      exact ⟨_, rfl⟩
  obtain ⟨left, hleft⟩ := hsince
  simp only [AlarmClock.schedule, hutc, hleft]
  split
  · exact ⟨_, rfl⟩
  · exact ⟨_, rfl⟩

/-- The timer that was started last is the live one, if a wake-up is pending. -/
theorem place?_last {due : Moment} (hp : a.pending? = some due) :
    ∃ i, a.live = some i ∧ a.place? (-1) = some i := by
  simp only [pending?, liveTimer?, Option.map_eq_some_iff, Option.bind_eq_some_iff] at hp
  obtain ⟨t, ⟨i, hi, -⟩, -⟩ := hp
  have hlast := h.isLast i hi
  refine ⟨i, hi, ?_⟩
  simp only [place?, show (-1 : Int) < 0 by decide, if_true]
  rw [if_pos (by omega), Option.some.injEq]
  omega

/-- Where a wake-up is pending, exactly one timer waits. -/
theorem existsUnique_waits {due : Moment} (hp : a.pending? = some due) : ∃! i, a.Waits i := by
  simp only [pending?, liveTimer?, Option.map_eq_some_iff, Option.bind_eq_some_iff] at hp
  obtain ⟨t, ⟨i, hi, -⟩, -⟩ := hp
  refine ⟨i, (h.waits_iff i).mpr hi, fun j hj => ?_⟩
  have hj := (h.waits_iff j).mp hj
  rw [hi, Option.some.injEq] at hj
  exact hj.symm

end Sound

/-- The callback of the live timer ends its waiting, and keeps when it was due. -/
theorem fired_fire {i : Nat} {due : Moment} (hi : a.live = some i) (hp : a.pending? = some due) :
    ∃ t, (a.fire i).1.timers[i]? = some t ∧ t.due = due ∧ t.fired = true := by
  simp only [pending?, liveTimer?, hi, Option.bind_some, Option.map_eq_some_iff] at hp
  obtain ⟨t, ht, rfl⟩ := hp
  exact ⟨{ t with fired := true }, by simp [fire, hi, ht], rfl, rfl⟩

theorem lt_of_place? {number : Int} {i : Nat} (h : a.place? number = some i) :
    i < a.timers.length := by
  unfold place? at h
  dsimp only at h
  generalize (if number < 0 then number + (a.timers.length : Int) else number) = place at h
  split at h
  · rename_i hp
    rw [Option.some.injEq] at h
    omega
  · cases h

theorem live_fire {i : Nat} (hi : a.live = some i) : (a.fire i).1.live = none := by
  simp [fire, hi]

end Daylight.AlarmClock
