import Daylight.Proofs.Instants
import Daylight.Evaluation

/-!
# The course of the sun

A course says at which instant every sunrise and every sunset takes place. In an alternating course
each event lies on the calendar day it belongs to, by a clock with one offset of whole milliseconds,
no two events share a millisecond, and between two events of one kind there is one of the other.

## What is proved

* `IsAlternating.comesFirst_next`, `comesFirst_previous`: the event that comes first on one day comes
  first on every day. So there are two kinds of courses: the sun rises before it sets on all days, or
  it sets before it rises on all days, as it does far from the zone of the clock.
* `IsAlternating.consecutive_day`, `consecutive_night`: which events are neighbours. From one of two
  neighbours up to the other nothing happens, so the one is the latest event and the other the next
  (`Consecutive.isLatest_isNext`).

Only the days of the calendar have events: no calculator is ever asked for another one.
-/

namespace Daylight

/-- The event that is not this one. -/
def Event.other : Event → Event
  | .sunrise => .sunset
  | .sunset => .sunrise

@[simp] theorem Event.other_other (e : Event) : e.other.other = e := by cases e <;> rfl

theorem Event.other_ne (e : Event) : e.other ≠ e := by cases e <;> decide

theorem Event.eq_or_eq_other (e f : Event) : f = e ∨ f = e.other := by
  cases e <;> cases f <;> simp [Event.other]

/-- When every event takes place, in microseconds. -/
abbrev Course := Query → Int

/-- The first millisecond of a day, by a clock with an offset of whole milliseconds. -/
def Day.startMillis (d : Day) (offset : Int) : Int := d.number * Moment.millisOfDay - offset / 1000

theorem Day.startMillis_plus (d : Day) (n offset : Int) :
    (d.plus n).startMillis offset = d.startMillis offset + n * Moment.millisOfDay := by
  simp only [startMillis, plus, Moment.millisOfDay]
  omega

/-- An instant of a day lies between the first milliseconds of that day and of the next one. -/
theorem Day.startMillis_le {offset i : Int} (hw : offset % 1000 = 0) :
    (ofWall (i + offset)).startMillis offset ≤ i / 1000 ∧
      i / 1000 < (ofWall (i + offset)).startMillis offset + Moment.millisOfDay := by
  simp only [startMillis, ofWall, Moment.millisOfDay, dayLength, second]
  omega

namespace Course

variable {c : Course} {offset : Int}

/-- The millisecond of an event. -/
def millis (c : Course) (q : Query) : Int := c q / 1000

/-- A course in which sunrises and sunsets alternate, each on the day it belongs to. -/
structure IsAlternating (c : Course) (offset : Int) : Prop where
  /-- The offset of the clock is a whole number of milliseconds. -/
  whole : offset % 1000 = 0
  /-- Every event lies on its day. -/
  onDay : ∀ q : Query, q.day.inCalendar = true → Day.ofWall (c q + offset) = q.day
  /-- No two events share a millisecond. -/
  distinct : ∀ p q : Query, p.day.inCalendar = true → q.day.inCalendar = true →
    c.millis p = c.millis q → p = q
  /-- Between two events of one kind lies one of the other. -/
  between : ∀ p q : Query, p.day.inCalendar = true → q.day.inCalendar = true →
    p.event = q.event → c.millis p < c.millis q →
    ∃ r : Query, r.day.inCalendar = true ∧ r.event = p.event.other ∧
      c.millis p < c.millis r ∧ c.millis r < c.millis q

/-- The latest event at or before a millisecond. -/
def IsLatest (c : Course) (n : Int) (q : Query) : Prop :=
  q.day.inCalendar = true ∧ c.millis q ≤ n ∧
    ∀ p : Query, p.day.inCalendar = true → c.millis p ≤ n → c.millis p ≤ c.millis q

/-- The earliest event after a millisecond. -/
def IsNext (c : Course) (n : Int) (q : Query) : Prop :=
  q.day.inCalendar = true ∧ n < c.millis q ∧
    ∀ p : Query, p.day.inCalendar = true → n < c.millis p → c.millis q ≤ c.millis p

/-- One event follows another, with none in between. -/
def Consecutive (c : Course) (p q : Query) : Prop :=
  p.day.inCalendar = true ∧ q.day.inCalendar = true ∧ c.millis p < c.millis q ∧
    ∀ r : Query, r.day.inCalendar = true → c.millis r ≤ c.millis p ∨ c.millis q ≤ c.millis r

/-- From an event on, up to the one that follows it, the former is the latest and the latter is next. -/
theorem Consecutive.isLatest_isNext {p q : Query} (h : c.Consecutive p q) {n : Int}
    (hp : c.millis p ≤ n) (hq : n < c.millis q) : c.IsLatest n p ∧ c.IsNext n q := by
  obtain ⟨hpc, hqc, -, hno⟩ := h
  refine ⟨⟨hpc, hp, fun r hr hrn => ?_⟩, ⟨hqc, hq, fun r hr hnr => ?_⟩⟩
  · exact (hno r hr).resolve_right (by omega)
  · exact (hno r hr).resolve_left (by omega)

/-- The event after an event: the other one of the day, if that is still to come, else the other one of
the next day. -/
def after (c : Course) (q : Query) : Query :=
  if c.millis q < c.millis ⟨q.event.other, q.day⟩ then ⟨q.event.other, q.day⟩
  else ⟨q.event.other, q.day.plus 1⟩

/-- Which event comes first on a day. -/
def ComesFirst (c : Course) (e : Event) (d : Day) : Prop := c.millis ⟨e, d⟩ < c.millis ⟨e.other, d⟩

namespace IsAlternating

variable (h : c.IsAlternating offset)

include h

theorem millis_mem {q : Query} (hq : q.day.inCalendar = true) :
    q.day.startMillis offset ≤ c.millis q ∧
      c.millis q < q.day.startMillis offset + Moment.millisOfDay := by
  have hb := Day.startMillis_le (i := c q) h.whole
  rwa [h.onDay q hq] at hb

/-- Events of an earlier day come earlier. -/
theorem millis_lt_of_day_lt {p q : Query} (hp : p.day.inCalendar = true)
    (hq : q.day.inCalendar = true) (hlt : p.day.number < q.day.number) :
    c.millis p < c.millis q := by
  have h₁ := h.millis_mem hp
  have h₂ := h.millis_mem hq
  simp only [Day.startMillis, Moment.millisOfDay] at h₁ h₂
  omega

theorem day_le_of_millis_le {p q : Query} (hp : p.day.inCalendar = true)
    (hq : q.day.inCalendar = true) (hle : c.millis p ≤ c.millis q) :
    p.day.number ≤ q.day.number := by
  by_contra hgt
  have := h.millis_lt_of_day_lt hq hp (by omega)
  omega

theorem isLatest_unique {n : Int} {p q : Query} (hp : c.IsLatest n p) (hq : c.IsLatest n q) :
    p = q := by
  obtain ⟨hpc, hpn, hpl⟩ := hp
  obtain ⟨hqc, hqn, hql⟩ := hq
  exact h.distinct p q hpc hqc (le_antisymm (hql p hpc hpn) (hpl q hqc hqn))

theorem isNext_unique {n : Int} {p q : Query} (hp : c.IsNext n p) (hq : c.IsNext n q) : p = q := by
  obtain ⟨hpc, hpn, hpl⟩ := hp
  obtain ⟨hqc, hqn, hql⟩ := hq
  exact h.distinct p q hpc hqc (le_antisymm (hpl q hqc hqn) (hql p hpc hpn))

/-! ### The order of the two events of a day -/

/-- One of the two events of a day comes first. -/
theorem comesFirst_or (e : Event) {d : Day} (hd : d.inCalendar = true) :
    c.ComesFirst e d ∨ c.ComesFirst e.other d := by
  rcases lt_trichotomy (c.millis ⟨e, d⟩) (c.millis ⟨e.other, d⟩) with hlt | heq | hgt
  · exact Or.inl hlt
  · have hq := h.distinct ⟨e, d⟩ ⟨e.other, d⟩ hd hd heq
    simp only [Query.mk.injEq, and_true] at hq
    exact absurd hq.symm e.other_ne
  · refine Or.inr ?_
    rw [ComesFirst, e.other_other]
    exact hgt

theorem exists_comesFirst {d : Day} (hd : d.inCalendar = true) : ∃ first, c.ComesFirst first d := by
  rcases h.comesFirst_or .sunrise hd with hf | hf
  · exact ⟨_, hf⟩
  · exact ⟨_, hf⟩

omit h in
theorem not_comesFirst_other {e : Event} {d : Day} (hf : c.ComesFirst e d) :
    ¬ c.ComesFirst e.other d := by
  rw [ComesFirst, e.other_other, not_lt]
  exact le_of_lt hf

/-- Between the same events of two neighbouring days lies the other event of one of the two. -/
theorem between_days (e : Event) {d : Day} (hd : d.inCalendar = true)
    (ht : (d.plus 1).inCalendar = true) :
    c.ComesFirst e d ∨ c.ComesFirst e.other (d.plus 1) := by
  have hlt : c.millis ⟨e, d⟩ < c.millis ⟨e, d.plus 1⟩ :=
    h.millis_lt_of_day_lt hd ht (by simp only [Day.plus]; omega)
  obtain ⟨r, hr, hre, hr₁, hr₂⟩ := h.between ⟨e, d⟩ ⟨e, d.plus 1⟩ hd ht rfl hlt
  have hle₁ := h.day_le_of_millis_le (p := ⟨e, d⟩) hd hr (le_of_lt hr₁)
  have hle₂ := h.day_le_of_millis_le (q := ⟨e, d.plus 1⟩) hr ht (le_of_lt hr₂)
  obtain ⟨re, ⟨rd⟩⟩ := r
  obtain ⟨d⟩ := d
  simp only [Day.plus] at hre hr₁ hr₂ hle₁ hle₂ ⊢
  subst hre
  obtain rfl | rfl : rd = d ∨ rd = d + 1 := by omega
  · exact Or.inl hr₁
  · refine Or.inr ?_
    rw [ComesFirst, e.other_other]
    exact hr₂

/-- **What comes first on a day comes first on the next one.** -/
theorem comesFirst_next {e : Event} {d : Day} (hd : d.inCalendar = true)
    (ht : (d.plus 1).inCalendar = true) (hf : c.ComesFirst e d) : c.ComesFirst e (d.plus 1) := by
  rcases h.between_days e.other hd ht with hn | hn
  · exact absurd hn (not_comesFirst_other hf)
  · rwa [e.other_other] at hn

/-- **What comes first on a day came first on the day before.** -/
theorem comesFirst_previous {e : Event} {d : Day} (hy : (d.plus (-1)).inCalendar = true)
    (hd : d.inCalendar = true) (hf : c.ComesFirst e d) : c.ComesFirst e (d.plus (-1)) := by
  rcases h.comesFirst_or e hy with hn | hn
  · exact hn
  · have hnext := h.comesFirst_next hy (by rwa [Day.plus_back]) hn
    rw [Day.plus_back] at hnext
    exact absurd hnext (not_comesFirst_other hf)

/-! ### Neighbours -/

/-- An event is one of the two of a day, or it lies with its day before or after both of them. -/
theorem eq_or_other_day {e : Event} {d : Day} (hd : d.inCalendar = true) {r : Query}
    (hr : r.day.inCalendar = true) :
    r = ⟨e, d⟩ ∨ r = ⟨e.other, d⟩ ∨
      (r.day.number < d.number ∧ c.millis r < c.millis ⟨e, d⟩ ∧ c.millis r < c.millis ⟨e.other, d⟩) ∨
      (d.number < r.day.number ∧ c.millis ⟨e, d⟩ < c.millis r ∧ c.millis ⟨e.other, d⟩ < c.millis r) := by
  rcases lt_trichotomy r.day.number d.number with hlt | heq | hgt
  · exact Or.inr (Or.inr (Or.inl ⟨hlt, h.millis_lt_of_day_lt hr hd hlt, h.millis_lt_of_day_lt hr hd hlt⟩))
  · obtain ⟨re, ⟨rd⟩⟩ := r
    obtain ⟨d⟩ := d
    obtain rfl : rd = d := heq
    rcases e.eq_or_eq_other re with rfl | rfl
    · exact Or.inl rfl
    · exact Or.inr (Or.inl rfl)
  · exact Or.inr (Or.inr (Or.inr ⟨hgt, h.millis_lt_of_day_lt hd hr hgt, h.millis_lt_of_day_lt hd hr hgt⟩))

/-- The two events of a day are neighbours. -/
theorem consecutive_day {e : Event} {d : Day} (hd : d.inCalendar = true) (hf : c.ComesFirst e d) :
    c.Consecutive ⟨e, d⟩ ⟨e.other, d⟩ := by
  refine ⟨hd, hd, hf, fun r hr => ?_⟩
  rcases h.eq_or_other_day (e := e) hd hr with rfl | rfl | ⟨-, hlt, -⟩ | ⟨-, -, hgt⟩
  · exact Or.inl (le_refl _)
  · exact Or.inr (le_refl _)
  · exact Or.inl (le_of_lt hlt)
  · exact Or.inr (le_of_lt hgt)

/-- The last event of a day and the first one of the next day are neighbours. -/
theorem consecutive_night {e : Event} {d : Day} (hd : d.inCalendar = true)
    (ht : (d.plus 1).inCalendar = true) (hf : c.ComesFirst e d) :
    c.Consecutive ⟨e.other, d⟩ ⟨e, d.plus 1⟩ := by
  have hft := h.comesFirst_next hd ht hf
  rw [ComesFirst] at hf hft
  refine ⟨hd, ht, h.millis_lt_of_day_lt hd ht (by simp only [Day.plus]; omega), fun r hr => ?_⟩
  rcases h.eq_or_other_day (e := e) hd hr with rfl | rfl | ⟨-, -, hlt⟩ | ⟨hgt, -, -⟩
  · exact Or.inl (le_of_lt hf)
  · exact Or.inl (le_refl _)
  · exact Or.inl (le_of_lt hlt)
  rcases h.eq_or_other_day (e := e) ht hr with rfl | rfl | ⟨hlt, -, -⟩ | ⟨-, hgt', -⟩
  · exact Or.inr (le_refl _)
  · exact Or.inr (le_of_lt hft)
  · simp only [Day.plus] at hlt
    omega
  · exact Or.inr (le_of_lt hgt')

/-- **An event and the one after it are neighbours.** -/
theorem consecutive_after {q : Query} (hq : q.day.inCalendar = true)
    (ht : (q.day.plus 1).inCalendar = true) : c.Consecutive q (c.after q) := by
  unfold Course.after
  split
  · rename_i hlt
    exact h.consecutive_day hq hlt
  · rename_i hlt
    have hf := (h.comesFirst_or q.event hq).resolve_left hlt
    have hnight := h.consecutive_night hq ht hf
    rwa [q.event.other_other] at hnight

/-- Yesterday's events have come before a millisecond of the day, and tomorrow's are still to come. -/
theorem millis_around {e : Event} {d : Day} {n : Int} (hs : d.startMillis offset ≤ n)
    (he : n < d.startMillis offset + Moment.millisOfDay) :
    ((d.plus (-1)).inCalendar = true → c.millis ⟨e, d.plus (-1)⟩ ≤ n) ∧
      ((d.plus 1).inCalendar = true → n < c.millis ⟨e, d.plus 1⟩) := by
  constructor <;> intro hd
  · have hm := (h.millis_mem (q := ⟨e, d.plus (-1)⟩) hd).2
    simp only [Day.startMillis_plus] at hm
    omega
  · have hm := (h.millis_mem (q := ⟨e, d.plus 1⟩) hd).1
    simp only [Day.startMillis_plus] at hm
    omega

end IsAlternating

end Course

end Daylight
