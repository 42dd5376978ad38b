import Daylight.Proofs.Following

/-!
# The four boundaries are neighbours

An evaluation looks at the days around its moment only. Still, for a calculator that follows an
alternating course, the four events that it looks for are neighbours among the events of all days: nothing
happens between the sunset before and the sunrise of the day, nothing until the sunset, and nothing until
the sunrise after. It finds them at every moment for which yesterday to the day after tomorrow are in range
and of whose evaluation the clock tells the time.

The clock that matters is not the one of the zone, which has one offset here. It is the one by which a pair of
answers is written. Where that clock is put back between a sunset and a sunrise, an evaluation can fail
although all events are in order.

## What is proved

* `inCalendar_event`: where the days next to a day are in the calendar, so are the instants of its events.
* `Course.isInRange_of_inCalendar`: so only for the very first day of the calendar it matters that its
  events are in range in universal time, too, and not just by the clock.
* `Course.IsInRange.hasRoom`: so the calendar has room for all that an evaluation looks at.
* `evaluate_consecutive_iff`: the evaluation comes to boundaries that are neighbours, with today's sunrise,
  exactly when the clock tells the time. If it does not, the evaluation fails or passes a sunrise over.
* `fails_in_short_night`: that can happen when the zone is that of universal time.
* `evaluate_outOfRange`: what an evaluation on the second day of the calendar comes to where the sunset of
  the first day is not in range. It does not find anything inconsistent; it leaves the calendar.
-/

namespace Daylight

/-- Yesterday to the day after tomorrow are in range. -/
structure Course.IsInRange (c : Course) (today : Day) : Prop where
  /-- Yesterday is a day of the calendar. -/
  yesterday : (today.plus (-1)).inCalendar = true
  /-- The day after tomorrow is one, and so are the days in between. -/
  dayAfterTomorrow : (today.plus 2).inCalendar = true
  /-- Yesterday's events are in the calendar in universal time, too; those of the other days always are. -/
  events : ∀ e, Moment.inCalendar (c ⟨e, today.plus (-1)⟩) = true

section

variable {calculator : Calculator} {location : Location} {zone : Zone} {offset : Int} {c : Course}
  {now : Moment} {today : Day} {i : Int}

/-- The events of a day are in the calendar where the days next to it are: they are less than a day away
from where they are by the clock. -/
theorem inCalendar_event (hz : zone.HasOffset offset) (ha : c.IsAlternating offset) {d : Day}
    (hy : (d.plus (-1)).inCalendar = true) (ht : (d.plus 1).inCalendar = true) (e : Event) :
    Moment.inCalendar (c ⟨e, d⟩) = true := by
  have hd := Day.inCalendar_between hy ht (m := 0) (by omega) (by omega)
  rw [Day.plus_zero] at hd
  have hday := ha.onDay ⟨e, d⟩ hd
  obtain ⟨h₁, h₂⟩ := hz.isBelowDay
  rw [Day.inCalendar_iff] at hy ht
  rw [Moment.inCalendar_iff]
  obtain ⟨d⟩ := d
  simp only [Day.ofWall, Day.mk.injEq, Day.plus, Moment.lowest, Moment.highest, Day.start, dayLength,
    second, Day.first, Day.last] at h₁ h₂ hy ht hday ⊢
  omega

/-- With the day before yesterday in the calendar, nothing has to be known of yesterday's events. -/
theorem Course.isInRange_of_inCalendar (hz : zone.HasOffset offset) (ha : c.IsAlternating offset)
    (hb : (today.plus (-2)).inCalendar = true) (ht : (today.plus 2).inCalendar = true) :
    c.IsInRange today := by
  refine ⟨Day.inCalendar_between hb ht (by omega) (by omega), ht, inCalendar_event hz ha ?_ ?_⟩
  · rw [Day.plus_plus]
    exact hb
  · rw [Day.plus_plus]
    exact Day.inCalendar_between hb ht (by omega) (by omega)

/-- When the days are in range, the calendar has room around today. -/
theorem Course.IsInRange.hasRoom (h : c.IsInRange today) (hz : zone.HasOffset offset)
    (ha : c.IsAlternating offset) : c.HasRoom today := by
  obtain ⟨hy, ht, hevents⟩ := h
  have hin : ∀ n : Int, -1 ≤ n → n ≤ 2 → (today.plus n).inCalendar = true :=
    fun n h₁ h₂ => Day.inCalendar_between hy ht h₁ h₂
  have hdc := hin 0 (by omega) (by omega)
  rw [Day.plus_zero] at hdc
  have htc := hin 1 (by omega) (by omega)
  intro day hday
  simp only [List.mem_cons, List.not_mem_nil, or_false] at hday
  rcases hday with rfl | rfl | rfl
  · exact ⟨hy, hevents⟩
  · exact ⟨hdc, inCalendar_event hz ha hy htc⟩
  · refine ⟨htc, inCalendar_event hz ha ?_ ?_⟩
    · rw [Day.plus_plus]
      exact hin 0 (by omega) (by omega)
    · rwa [Day.plus_plus]

/-- There is room around every day but the first two and the last two of the calendar. -/
theorem hasRoom_of_day (hz : zone.HasOffset offset) (ha : c.IsAlternating offset)
    (hb : (today.plus (-2)).inCalendar = true) (ht : (today.plus 2).inCalendar = true) : c.HasRoom today :=
  (Course.isInRange_of_inCalendar hz ha hb ht).hasRoom hz ha

/-- The days around a moment, when they are in range. -/
theorem Course.IsInRange.adjacentDays (hz : zone.HasOffset offset) (hi : now.instant? = some i)
    (h : c.IsInRange (Day.ofWall (i + offset))) : now.adjacentDays zone =
      .ok ⟨(Day.ofWall (i + offset)).plus (-1), Day.ofWall (i + offset), (Day.ofWall (i + offset)).plus 1⟩ :=
  Moment.adjacentDays_of_inCalendar hz hi h.yesterday
    (Day.inCalendar_between h.yesterday h.dayAfterTomorrow (by omega) (by omega))

/-- Whenever an evaluation comes to boundaries, the sunrise is today's, the sunsets around it are its
neighbours, and the last boundary is the sunrise of tomorrow or of the day after. -/
theorem exists_sunsets (hz : zone.HasOffset offset) (ha : c.IsAlternating offset)
    (hc : calculator.Follows location zone c) {days : AdjacentDays} (hd : now.adjacentDays zone = .ok days)
    {b : Boundaries} (h : evaluate calculator (some location) now zone = .ok (some b)) :
    ∃ before after d : Day, b.AreOf c ⟨.sunset, before⟩ ⟨.sunrise, days.today⟩ ⟨.sunset, after⟩ ⟨.sunrise, d⟩ ∧
      c.Consecutive ⟨.sunset, before⟩ ⟨.sunrise, days.today⟩ ∧
      c.Consecutive ⟨.sunrise, days.today⟩ ⟨.sunset, after⟩ ∧
      c.Consecutive ⟨.sunset, after⟩ ⟨.sunrise, days.tomorrow⟩ ∧
      ((calculator.answers location zone).TellsTime now zone → d = days.tomorrow) ∧
      (¬ (calculator.answers location zone).TellsTime now zone → d = days.tomorrow.plus 1) := by
  obtain ⟨-, -, -, hdc, -⟩ := days_inCalendar hz hd
  obtain ⟨first, hf⟩ := ha.exists_comesFirst hdc
  obtain ⟨d, -, hare, hd'⟩ := areOf_of_evaluate hz ha hc hd hf h
  obtain ⟨h₁, h₂, h₃⟩ := consecutive_boundaries hz ha hd hf
  cases first with
  | sunrise => exact ⟨_, _, d, hare, h₁, h₂, h₃, hd'⟩
  | sunset => exact ⟨_, _, d, hare, h₁, h₂, h₃, hd'⟩

/-- **When an evaluation comes to four neighbours.** Let a calculator follow an alternating course, by a
clock with one offset, and let the days around a moment be in range. If the clock tells the time of the
evaluation, it does not fail; the sunrise of the boundaries is today's, and from the sunset before to the
sunrise after, each boundary is an event with no other event of any day between it and the next one. If not,
it never comes to such boundaries. It fails, or it has passed tomorrow's sunrise over. -/
theorem evaluate_consecutive_iff (hz : zone.HasOffset offset) (ha : c.IsAlternating offset)
    (hc : calculator.Follows location zone c) (hi : now.instant? = some i)
    (hrange : c.IsInRange (Day.ofWall (i + offset))) :
    ((∃ (b : Boundaries) (today before after : Day), now.localDay zone = .ok today ∧
        evaluate calculator (some location) now zone = .ok (some b) ∧
        b.AreOf c ⟨.sunset, before⟩ ⟨.sunrise, today⟩ ⟨.sunset, after⟩ ⟨.sunrise, today.plus 1⟩ ∧
        c.Consecutive ⟨.sunset, before⟩ ⟨.sunrise, today⟩ ∧
        c.Consecutive ⟨.sunrise, today⟩ ⟨.sunset, after⟩ ∧
        c.Consecutive ⟨.sunset, after⟩ ⟨.sunrise, today.plus 1⟩) ↔
      (calculator.answers location zone).TellsTime now zone) ∧
    (¬ (calculator.answers location zone).TellsTime now zone →
      (∃ e, evaluate calculator (some location) now zone = .error e) ∨
      ∃ (b : Boundaries) (today before after : Day), now.localDay zone = .ok today ∧
        evaluate calculator (some location) now zone = .ok (some b) ∧
        b.AreOf c ⟨.sunset, before⟩ ⟨.sunrise, today⟩ ⟨.sunset, after⟩ ⟨.sunrise, today.plus 2⟩ ∧
        c.Consecutive ⟨.sunset, before⟩ ⟨.sunrise, today⟩ ∧
        c.Consecutive ⟨.sunrise, today⟩ ⟨.sunset, after⟩) := by
  have hd := hrange.adjacentDays hz hi
  have hlocal := Moment.localDay_of_adjacentDays hd
  refine ⟨⟨?_, fun htells => ?_⟩, fun hmisled => ?_⟩
  · rintro ⟨b, today, -, -, htoday, hb, ⟨-, -, -, hx⟩, -⟩
    obtain rfl : Day.ofWall (i + offset) = today := Except.ok.inj (hlocal.symm.trans htoday)
    exact (nextSunrise_eq_iff hz ha hc hd hb).2.mp hx
  · obtain ⟨b, hb⟩ := exists_evaluate hz ha hc hd (hrange.hasRoom hz ha) htells
    obtain ⟨before, after, d, hare, h₁, h₂, h₃, hd', -⟩ := exists_sunsets hz ha hc hd hb
    obtain rfl := hd' htells
    exact ⟨b, _, before, after, hlocal, hb, hare, h₁, h₂, h₃⟩
  · cases heval : evaluate calculator (some location) now zone with
    | error e => exact .inl ⟨e, rfl⟩
    | ok state =>
      cases state with
      | none =>
        obtain ⟨b, -, hnone⟩ := map_eq_ok_iff.mp heval
        cases hnone
      | some b =>
        obtain ⟨before, after, d, hare, h₁, h₂, -, -, hd'⟩ := exists_sunsets hz ha hc hd heval
        obtain rfl := hd' hmisled
        rw [Day.plus_plus] at hare
        exact .inr ⟨b, _, before, after, hlocal, rfl, hare, h₁, h₂⟩

/-- Five and a half hours ahead of universal time. -/
def aheadZone : Zone := .fixed (19800 * second) .offset

/-- At 02:00 by a clock that is ahead, on a day on which the sun sets at 04:00 and rises at 20:00, the
boundaries are the sunset to come, the two events after it, and the sunrise of the next day. -/
theorem consecutive_aheadZone :
    ∃ (b : Boundaries) (today before after : Day),
      Moment.localDay (.ofInstant 1687293000000000) aheadZone = .ok today ∧
      evaluate eveningSunrise.calculator (some home) (.ofInstant 1687293000000000) aheadZone =
        .ok (some b) ∧
      (eveningSunrise.course (19800 * second)).Consecutive ⟨.sunset, before⟩ ⟨.sunrise, today⟩ ∧
      (eveningSunrise.course (19800 * second)).Consecutive ⟨.sunrise, today⟩ ⟨.sunset, after⟩ ∧
      (eveningSunrise.course (19800 * second)).Consecutive ⟨.sunset, after⟩ ⟨.sunrise, today.plus 1⟩ := by
  have hz : aheadZone.HasOffset (19800 * second) :=
    Zone.hasOffset_fixed ⟨by decide, by decide⟩ .offset
  have ha : (eveningSunrise.course (19800 * second)).IsAlternating (19800 * second) :=
    DailyTimes.isAlternating_course isRegular_eveningSunrise rfl
  obtain ⟨b, today, before, after, hlocal, hb, -, hcons⟩ := (evaluate_consecutive_iff hz ha
    (DailyTimes.follows_course isRegular_eveningSunrise hz home)
    (Moment.instant?_ofInstant 1687293000000000)
    (Course.isInRange_of_inCalendar hz ha (by decide) (by decide))).1.mpr
      (eveningSunrise.tellsTime hz home (.ofInstant 1687293000000000))
  exact ⟨b, today, before, after, hlocal, hb, hcons⟩

/-- **In a short night the evaluation fails**, although all events are in order and in range, and the zone is
that of universal time. The sunset at 05:50 was told as 01:50 in New York, before the clock was put back there,
and the sunrise at 06:10 as 01:10, after it was. -/
theorem fails_in_short_night :
    (shortNight.course 0).IsAlternating 0 ∧
      Calculator.Follows shortNightAlmanac.calculator home .utc (shortNight.course 0) ∧
      (afternoon 19666).instant? = some 1699203600000000 ∧
      (shortNight.course 0).IsInRange (Day.ofWall (1699203600000000 + 0)) ∧
      evaluate shortNightAlmanac.calculator (some home) (afternoon 19666) .utc =
        .error (.inconsistent ⟨19666⟩) := by
  have ha : (shortNight.course 0).IsAlternating 0 := DailyTimes.isAlternating_course isRegular_shortNight rfl
  exact ⟨ha, follows_shortNightAlmanac, rfl,
    Course.isInRange_of_inCalendar Zone.hasOffset_utc ha (by decide) (by decide), by decide +kernel⟩

/-! ### The edge of the calendar -/

/-- **Where the calendar ends.** When the sun rises before it sets, and yesterday's sunset is not in range
in universal time, the evaluation leaves the calendar. Yesterday is the first day of all then. -/
theorem evaluate_outOfRange (hz : zone.HasOffset offset) (ha : c.IsAlternating offset)
    (hc : calculator.Follows location zone c) {days : AdjacentDays}
    (hd : now.adjacentDays zone = .ok days) (hf : c.ComesFirst .sunrise days.today)
    (htells : (calculator.answers location zone).TellsTime now zone)
    (hout : Moment.inCalendar (c ⟨.sunset, days.yesterday⟩) = false) :
    evaluate calculator (some location) now zone = .error .outOfRange := by
  obtain ⟨hy, ht, hyc, -, htc⟩ := days_inCalendar hz hd
  rw [hy] at hyc
  rw [ht] at htc
  have hin := inCalendar_event hz ha hyc htc
  obtain ⟨p, r, s, x, hp, hr, hs, -, heval⟩ := evaluateBy_of_follows hz ha hc hd hf
  have hprevious := Moment.toMillis_of_not_inCalendar hp hout
  have hsunrise := Moment.toMillis_of_instant? hr (hin .sunrise)
  have hsunset := Moment.toMillis_of_instant? hs (hin .sunset)
  rw [evaluate_eq_evaluateBy, evaluateBy_congr htells, heval]
  simp [boundariesOf, hsunrise, hsunset, hprevious, bind, Except.bind, Failure.kind, Functor.map,
    Except.map]

end

end Daylight
