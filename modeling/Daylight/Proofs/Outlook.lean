import Daylight.Proofs.Following

/-!
# What the boundaries tell at their moment

Boundaries that were evaluated at a moment should tell, at that moment, whether the latest event was
a sunset, and which event comes next.

## What is proved

* `outlook_of_mem`: boundaries whose first three events are neighbours tell both, but after the sunset it is
  the last boundary that they name.
* `evaluate_tells_iff`: for a calculator that follows an alternating course, the boundaries of an evaluation
  tell the latest event unless the moment lies before a sunset that comes before the sunrise of its day. In
  that case they tell neither, and this is when the moment lies before the sunset that the evaluation took for
  the one before. The next event they tell in all cases but this one and another: that the moment is past their
  sunset, and the clock does not tell the time.
* `night_of_awaitsEarlySunset`: what they tell instead. It is still day, but they say night, and the
  event that they name is the sunrise after the sunset that comes next.

The evaluation takes the sunset of the calendar day for the one before whenever it is not after the
sunrise. It does not look at whether that sunset has come yet.
-/

namespace Daylight

/-- The moment lies before the sunset of its day, and that sunset comes before the sunrise. -/
def Course.AwaitsEarlySunset (c : Course) (n : Int) (today : Day) : Prop :=
  c.ComesFirst .sunset today ∧ n < c.millis ⟨.sunset, today⟩

namespace Boundaries

/-- At a moment the boundaries say night when the latest event is a sunset, and day otherwise. -/
def TellsNight (b : Boundaries) (c : Course) (now : Moment) (n : Int) : Prop :=
  ∃ q, c.IsLatest n q ∧ b.isNight now = .ok (decide (q.event = .sunset))

/-- At a moment the boundaries name the earliest event after it. -/
def TellsNext (b : Boundaries) (c : Course) (now : Moment) (n : Int) : Prop :=
  ∃ q, c.IsNext n q ∧ b.nextTransition now = .ok (.ofInstant (c.millis q * 1000))

/-- The boundaries are those around a millisecond. -/
def Surround (b : Boundaries) (n : Int) : Prop := b.previousSunset ≤ n ∧ n < b.nextSunrise

theorem tellsNight_iff {b : Boundaries} {c : Course} {offset : Int} (ha : c.IsAlternating offset)
    {now : Moment} {n : Int} {q : Query} (hq : c.IsLatest n q) :
    b.TellsNight c now n ↔ b.isNight now = .ok (decide (q.event = .sunset)) := by
  constructor
  · rintro ⟨p, hp, htold⟩
    rwa [ha.isLatest_unique hp hq] at htold
  · intro htold
    exact ⟨q, hq, htold⟩

theorem tellsNext_iff {b : Boundaries} {c : Course} {offset : Int} (ha : c.IsAlternating offset)
    {now : Moment} {n : Int} {q : Query} (hq : c.IsNext n q) :
    b.TellsNext c now n ↔ b.nextTransition now = .ok (.ofInstant (c.millis q * 1000)) := by
  constructor
  · rintro ⟨p, hp, htold⟩
    rwa [ha.isNext_unique hp hq] at htold
  · intro htold
    exact ⟨q, hq, htold⟩

/-- **Neighbouring events tell the latest event and the next one.** Three of the boundaries are neighbours, and
tomorrow's sunrise is the next one after them. The last boundary is what they tell of it. -/
theorem outlook_of_mem {c : Course} {b : Boundaries} {p s x : Query} {today tomorrow : Day} {n : Int}
    (hb : b.AreOf c p ⟨.sunrise, today⟩ s x) (hp : p.event = .sunset) (hs : s.event = .sunset)
    (h₁ : c.Consecutive p ⟨.sunrise, today⟩) (h₂ : c.Consecutive ⟨.sunrise, today⟩ s)
    (h₃ : c.Consecutive s ⟨.sunrise, tomorrow⟩) (hpn : b.previousSunset ≤ n)
    (hnx : n < c.millis ⟨.sunrise, tomorrow⟩) :
    ∃ latest next, c.IsLatest n latest ∧ c.IsNext n next ∧
      b.isNightAt n = decide (latest.event = .sunset) ∧
      (n < b.sunset ∧ b.transitionAfter n = c.millis next ∨
        b.sunset ≤ n ∧ b.transitionAfter n = b.nextSunrise ∧ next = ⟨.sunrise, tomorrow⟩) := by
  obtain ⟨hbp, hbr, hbs, -⟩ := hb
  rw [hbp] at hpn
  have hrs := h₂.2.2.1
  simp only [isNightAt, transitionAfter, hbr, hbs]
  by_cases hr : n < c.millis ⟨.sunrise, today⟩
  · -- before the sunrise
    obtain ⟨hl, hx⟩ := h₁.isLatest_isNext hpn hr
    exact ⟨_, _, hl, hx, by simp [hp, hr], .inl ⟨hr.trans hrs, if_pos hr⟩⟩
  rw [not_lt] at hr
  by_cases hss : n < c.millis s
  · -- from the sunrise on
    obtain ⟨hl, hx⟩ := h₂.isLatest_isNext hr hss
    exact ⟨_, _, hl, hx, by simp [hr, hss], .inl ⟨hss, by rw [if_neg (not_lt.mpr hr), if_pos hss]⟩⟩
  · -- from the sunset on
    rw [not_lt] at hss
    obtain ⟨hl, hx⟩ := h₃.isLatest_isNext hss hnx
    exact ⟨_, _, hl, hx, by simp [hs, hss],
      .inr ⟨hss, by rw [if_neg (not_lt.mpr hr), if_neg (not_lt.mpr hss)], rfl⟩⟩

end Boundaries

section

variable {calculator : Calculator} {location : Location} {zone : Zone} {offset : Int} {c : Course}
  {now : Moment} {b : Boundaries}

/-- What is known where an evaluation has come to boundaries: the millisecond of the moment, the days
around it, and that the millisecond is one of the middle day. -/
theorem days_of_evaluate (hz : zone.HasOffset offset) (ha : c.IsAlternating offset)
    (h : evaluate calculator (some location) now zone = .ok (some b)) :
    ∃ n days, Boundaries.millisOf now = .ok n ∧ now.localDay zone = .ok days.today ∧
      now.adjacentDays zone = .ok days ∧ days.today.startMillis offset ≤ n ∧
      n < days.today.startMillis offset + Moment.millisOfDay := by
  obtain ⟨days, hd⟩ := adjacentDays_of_evaluateWith (evaluate_eq_ok_some_iff.mp h)
  obtain ⟨i, hi, hc⟩ := Moment.inCalendar_of_adjacentDays hd
  have htoday := (Moment.adjacentDays_of_hasOffset hz hi hd).1
  have hbound := Day.startMillis_le (i := i) ha.whole
  rw [← htoday] at hbound
  exact ⟨i / 1000, days, Boundaries.millisOf_of_instant? hi hc, Moment.localDay_of_adjacentDays hd, hd, hbound⟩

/-- Tomorrow's sunrise is still to come. -/
theorem lt_millis_tomorrow (hz : zone.HasOffset offset) (ha : c.IsAlternating offset) {n : Int}
    {days : AdjacentDays} (hd : now.adjacentDays zone = .ok days)
    (he : days.today.startMillis offset ≤ n ∧ n < days.today.startMillis offset + Moment.millisOfDay) :
    n < c.millis ⟨.sunrise, days.tomorrow⟩ := by
  obtain ⟨-, ht, -, -, htc⟩ := days_inCalendar hz hd
  rw [ht] at htc ⊢
  exact (ha.millis_around he.1 he.2).2 htc

/-- The boundaries of an evaluation are those around its moment, unless the moment lies before an
early sunset. -/
theorem surround_iff (hz : zone.HasOffset offset) (ha : c.IsAlternating offset)
    (hc : calculator.Follows location zone c)
    (h : evaluate calculator (some location) now zone = .ok (some b)) {n : Int} {days : AdjacentDays}
    (hd : now.adjacentDays zone = .ok days) (hs : days.today.startMillis offset ≤ n)
    (he : n < days.today.startMillis offset + Moment.millisOfDay) :
    b.Surround n ↔ ¬ c.AwaitsEarlySunset n days.today := by
  obtain ⟨hy, -, hyc, hdc, -⟩ := days_inCalendar hz hd
  obtain ⟨first, hf⟩ := ha.exists_comesFirst hdc
  obtain ⟨-, -, ⟨hp, -, -, -⟩, -⟩ := areOf_of_evaluate hz ha hc hd hf h
  have hnext : n < b.nextSunrise :=
    (lt_millis_tomorrow hz ha hd ⟨hs, he⟩).trans_le (nextSunrise_eq_iff hz ha hc hd h).1
  rw [Boundaries.Surround, hp]
  cases first with
  | sunrise =>
    -- the sun rises first, so yesterday's sunset is the one before
    have hprevious : c.millis ⟨.sunset, days.yesterday⟩ ≤ n := by
      rw [hy] at hyc ⊢
      exact (ha.millis_around hs he).1 hyc
    exact iff_of_true ⟨hprevious, hnext⟩ fun haw => Course.IsAlternating.not_comesFirst_other hf haw.1
  | sunset =>
    -- the sun sets first, so today's sunset is taken for the one before
    rw [Course.AwaitsEarlySunset, not_and, not_lt]
    exact ⟨fun hsur _ => hsur.1, fun hle => ⟨hle hf, hnext⟩⟩

/-- Where no early sunset is awaited, the boundaries of an evaluation tell the latest event. What comes next
they tell until the sunset, and after it exactly when the clock tells the time. -/
theorem outlook_of_evaluate (hz : zone.HasOffset offset) (ha : c.IsAlternating offset)
    (hc : calculator.Follows location zone c)
    (h : evaluate calculator (some location) now zone = .ok (some b)) {n : Int} {days : AdjacentDays}
    (hd : now.adjacentDays zone = .ok days) (hs : days.today.startMillis offset ≤ n)
    (he : n < days.today.startMillis offset + Moment.millisOfDay)
    (hset : ¬ c.AwaitsEarlySunset n days.today) :
    ∃ latest next, c.IsLatest n latest ∧ c.IsNext n next ∧
      b.isNightAt n = decide (latest.event = .sunset) ∧
      (b.transitionAfter n = c.millis next ↔
        (calculator.answers location zone).TellsTime now zone ∨ n < b.sunset) := by
  obtain ⟨-, -, -, hdc, -⟩ := days_inCalendar hz hd
  obtain ⟨first, hf⟩ := ha.exists_comesFirst hdc
  obtain ⟨h₁, h₂, h₃⟩ := consecutive_boundaries hz ha hd hf
  obtain ⟨_, -, hb, -⟩ := areOf_of_evaluate hz ha hc hd hf h
  have hsunsets : (days.sunsetBefore first).event = .sunset ∧ (days.sunsetAfter first).event = .sunset := by
    cases first <;> exact ⟨rfl, rfl⟩
  obtain ⟨latest, next, hl, hx, hnight, hcases⟩ := Boundaries.outlook_of_mem hb hsunsets.1 hsunsets.2 h₁ h₂ h₃
    ((surround_iff hz ha hc h hd hs he).mpr hset).1 (lt_millis_tomorrow hz ha hd ⟨hs, he⟩)
  refine ⟨latest, next, hl, hx, hnight, ?_⟩
  obtain ⟨hlt, htransition⟩ | ⟨hle, htransition, rfl⟩ := hcases
  · exact iff_of_true htransition (.inr hlt)
  · rw [htransition, (nextSunrise_eq_iff hz ha hc hd h).2]
    exact ⟨.inl, fun hor => hor.resolve_right (not_lt.mpr hle)⟩

/-- **What goes wrong before an early sunset.** It is day since yesterday's sunrise, and the sunset is
next; but the boundaries say night, and name the sunrise after that sunset. -/
theorem night_of_awaitsEarlySunset (hz : zone.HasOffset offset) (ha : c.IsAlternating offset)
    (hc : calculator.Follows location zone c)
    (h : evaluate calculator (some location) now zone = .ok (some b)) {n : Int} {days : AdjacentDays}
    (hd : now.adjacentDays zone = .ok days) (hs : days.today.startMillis offset ≤ n)
    (he : n < days.today.startMillis offset + Moment.millisOfDay)
    (haw : c.AwaitsEarlySunset n days.today) :
    c.IsLatest n ⟨.sunrise, days.yesterday⟩ ∧ c.IsNext n ⟨.sunset, days.today⟩ ∧
      b.isNightAt n = true ∧ b.transitionAfter n = c.millis ⟨.sunrise, days.today⟩ := by
  obtain ⟨hf, hn⟩ := haw
  obtain ⟨hy, -, hyc, hdc, -⟩ := days_inCalendar hz hd
  rw [hy] at hyc
  have hnight := ha.consecutive_night hyc (by rwa [Day.plus_back]) (ha.comesFirst_previous hyc hdc hf)
  rw [Day.plus_back] at hnight
  obtain ⟨hl, hx⟩ := hnight.isLatest_isNext ((ha.millis_around hs he).1 hyc) hn
  rw [← hy] at hl
  obtain ⟨-, -, ⟨-, hr, -, -⟩, -⟩ := areOf_of_evaluate hz ha hc hd hf h
  have hlt : c.millis ⟨.sunset, days.today⟩ < c.millis ⟨.sunrise, days.today⟩ := hf
  have hnr : n < b.sunrise := by omega
  refine ⟨hl, hx, ?_, ?_⟩
  · simp [Boundaries.isNightAt, hnr]
  · rw [Boundaries.transitionAfter, if_pos hnr, hr]

/-- **What the boundaries of an evaluation tell at its moment.** They tell whether the latest event is
a sunset, and they are those around the moment, in all cases but one: that the sun sets on that day before it
rises there, and has not set yet. They tell the event that is next in all cases but this one and another: that
they are past their sunset, and the clock does not tell the time of the evaluation. -/
theorem evaluate_tells_iff (hz : zone.HasOffset offset) (ha : c.IsAlternating offset)
    (hc : calculator.Follows location zone c)
    (h : evaluate calculator (some location) now zone = .ok (some b)) :
    ∃ n today, Boundaries.millisOf now = .ok n ∧ now.localDay zone = .ok today ∧
      (b.TellsNight c now n ↔ ¬ c.AwaitsEarlySunset n today) ∧
      (b.TellsNext c now n ↔ ¬ c.AwaitsEarlySunset n today ∧
        ((calculator.answers location zone).TellsTime now zone ∨ n < b.sunset)) ∧
      (b.Surround n ↔ ¬ c.AwaitsEarlySunset n today) := by
  obtain ⟨n, days, hm, hlocal, hd, hs, he⟩ := days_of_evaluate hz ha h
  obtain ⟨n', hm', hnight, hnext⟩ := exists_outlook h
  obtain rfl : n' = n := Except.ok.inj (hm'.symm.trans hm)
  refine ⟨n', days.today, hm, hlocal, ?_, ?_, surround_iff hz ha hc h hd hs he⟩
  all_goals
    by_cases haw : c.AwaitsEarlySunset n' days.today
  · obtain ⟨hl, -, hsays, -⟩ := night_of_awaitsEarlySunset hz ha hc h hd hs he haw
    rw [Boundaries.tellsNight_iff ha hl, hnight, hsays]
    simp [haw]
  · obtain ⟨latest, -, hl, -, hsays, -⟩ := outlook_of_evaluate hz ha hc h hd hs he haw
    rw [Boundaries.tellsNight_iff ha hl, hnight, hsays]
    simp [haw]
  · obtain ⟨-, hx, -, hsays⟩ := night_of_awaitsEarlySunset hz ha hc h hd hs he haw
    have hlt : c.millis ⟨.sunset, days.today⟩ < c.millis ⟨.sunrise, days.today⟩ := haw.1
    have hne : c.millis ⟨.sunrise, days.today⟩ * 1000 ≠ c.millis ⟨.sunset, days.today⟩ * 1000 := by
      omega
    rw [Boundaries.tellsNext_iff ha hx, hnext, hsays]
    simp [haw, Moment.ofInstant, hne]
  · obtain ⟨-, next, -, hx, -, hsays⟩ := outlook_of_evaluate hz ha hc h hd hs he haw
    rw [Boundaries.tellsNext_iff ha hx, hnext, ← hsays]
    simp [haw, Moment.ofInstant]

end

/-! ### Far from the zone of the clock -/

/-- 2023-06-21, with the days before and after. -/
def solstice : AdjacentDays := ⟨⟨19528⟩, ⟨19529⟩, ⟨19530⟩⟩

/-- At 05:00, when the early sunset has come, the boundaries tell what they should. -/
theorem tells_after_early_sunset :
    ∃ b n, evaluate eveningSunrise.calculator (some home) (.ofInstant 1687323600000000) .utc =
        .ok (some b) ∧ b.TellsNight (eveningSunrise.course 0) (.ofInstant 1687323600000000) n ∧
      b.TellsNext (eveningSunrise.course 0) (.ofInstant 1687323600000000) n ∧ b.Surround n := by
  have heval : evaluate eveningSunrise.calculator (some home) (.ofInstant 1687323600000000) .utc =
      .ok (some ⟨1687320000000, 1687377600000, 1687406400000, 1687464000000, by decide⟩) := rfl
  obtain ⟨n, today, hn, htoday, hnight, hnext, hsur⟩ :=
    evaluate_tells_iff Zone.hasOffset_utc (DailyTimes.isAlternating_course isRegular_eveningSunrise rfl)
      (DailyTimes.follows_course isRegular_eveningSunrise Zone.hasOffset_utc home) heval
  obtain rfl : 1687323600000 = n := Except.ok.inj hn
  obtain rfl : solstice.today = today := Except.ok.inj htoday
  have hset : ¬ (eveningSunrise.course 0).AwaitsEarlySunset 1687323600000 solstice.today :=
    fun haw => absurd haw.2 (by decide)
  have htells := eveningSunrise.tellsTime Zone.hasOffset_utc home (.ofInstant 1687323600000000)
  exact ⟨_, _, heval, hnight.mpr hset, hnext.mpr ⟨hset, .inl htells⟩, hsur.mpr hset⟩

/-- At 02:00 it is day since the evening before, and the sunset at 04:00 is next. The boundaries say
night, name the sunrise at 20:00, and begin with the sunset that is still to come. -/
theorem misses_early_sunset :
    ∃ b n, evaluate eveningSunrise.calculator (some home) (.ofInstant 1687312800000000) .utc =
        .ok (some b) ∧ Boundaries.millisOf (.ofInstant 1687312800000000) = .ok n ∧
      (eveningSunrise.course 0).IsLatest n ⟨.sunrise, solstice.yesterday⟩ ∧
      b.isNight (.ofInstant 1687312800000000) = .ok true ∧
      (eveningSunrise.course 0).IsNext n ⟨.sunset, solstice.today⟩ ∧
      b.nextTransition (.ofInstant 1687312800000000) = .ok (.ofInstant 1687377600000000) ∧
      ¬ b.TellsNight (eveningSunrise.course 0) (.ofInstant 1687312800000000) n ∧
      ¬ b.TellsNext (eveningSunrise.course 0) (.ofInstant 1687312800000000) n ∧ ¬ b.Surround n := by
  have heval : evaluate eveningSunrise.calculator (some home) (.ofInstant 1687312800000000) .utc =
      .ok (some ⟨1687320000000, 1687377600000, 1687406400000, 1687464000000, by decide⟩) := rfl
  have ha : (eveningSunrise.course 0).IsAlternating 0 :=
    DailyTimes.isAlternating_course isRegular_eveningSunrise rfl
  have hd : (Moment.ofInstant 1687312800000000).adjacentDays .utc = .ok solstice := rfl
  have haw : (eveningSunrise.course 0).AwaitsEarlySunset 1687312800000 solstice.today := by
    refine ⟨?_, by decide⟩
    unfold Course.ComesFirst
    decide
  obtain ⟨hl, hx, -, -⟩ := night_of_awaitsEarlySunset Zone.hasOffset_utc ha
    (DailyTimes.follows_course isRegular_eveningSunrise Zone.hasOffset_utc home) heval hd (by decide)
    (by decide) haw
  refine ⟨_, 1687312800000, heval, rfl, hl, rfl, hx, rfl, ?_, ?_, fun hsur => absurd hsur.1 (by decide)⟩
  · rw [Boundaries.tellsNight_iff ha hl]
    decide
  · rw [Boundaries.tellsNext_iff ha hx]
    decide

end Daylight
