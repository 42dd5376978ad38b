import Daylight.Proofs.WallClocks

/-!
# Following a course

A calculator that follows a course tells of every event at which instant it takes place. It tells so in
moments, and in which zones it writes them is its own affair. An evaluation compares some of these moments
by what the clock shows. So in an alternating course it finds the events that it looks for, which are
neighbours, if the clock tells its time (`Answers.TellsTime`), and else it fails or passes a sunrise over.

## What is proved

* `evaluateBy_of_follows`: by the order in time, an evaluation makes boundaries of four neighbours.
* `areOf_of_evaluate`: the boundaries that an evaluation comes to by the clock. The first three are today's
  sunrise and the sunsets around it, in any case. The last one is tomorrow's sunrise exactly when the clock
  tells the time, and else the sunrise of the day after.
* `nextSunrise_eq_iff`: so the last boundary shows whether the clock tells the time.
* `exists_evaluate`: where the clock tells the time, an evaluation comes to boundaries if the calendar has room
  around the day (`Course.HasRoom`).
* `DailyTimes.tellsTime`, `Almanac.follows_calculator`: the same times on every day are told in time; other
  answers for some events still follow the course, if they stand for the same instants.
-/

namespace Daylight

/-- The calendar has room around a day: for the days next to it, and for the instants of the events of
all three. -/
def Course.HasRoom (c : Course) (d : Day) : Prop :=
  ∀ day ∈ [d.plus (-1), d, d.plus 1], day.inCalendar = true ∧
    ∀ e, Moment.inCalendar (c ⟨e, day⟩) = true

/-- Boundaries that are made of four events. -/
def Boundaries.AreOf (b : Boundaries) (c : Course) (p r s x : Query) : Prop :=
  b.previousSunset = c.millis p ∧ b.sunrise = c.millis r ∧ b.sunset = c.millis s ∧
    b.nextSunrise = c.millis x

section

variable {c : Course} {p q : Query} {a b : Moment}

/-- The order of two events in milliseconds is that of their instants. -/
theorem Course.lt_of_millis_lt (h : c.millis p < c.millis q) : c p < c q := by
  simp only [Course.millis] at h
  omega

/-- In time, today's sunset follows the sunrise where the sun rises first. -/
theorem earlier_of_comesFirst {first : Event} {d : Day} (hf : c.ComesFirst first d)
    (ha : a.instant? = some (c ⟨.sunrise, d⟩)) (hb : b.instant? = some (c ⟨.sunset, d⟩)) :
    ∃ follows, a.earlier b = .ok follows ∧ firstOf follows = first := by
  refine ⟨_, Moment.earlier_of_instant? ha hb, ?_⟩
  have hlt := Course.lt_of_millis_lt hf
  cases first with
  | sunrise =>
    have hrises : c ⟨.sunrise, d⟩ < c ⟨.sunset, d⟩ := hlt
    rw [decide_eq_true hrises]
    rfl
  | sunset =>
    have hsets : c ⟨.sunset, d⟩ < c ⟨.sunrise, d⟩ := hlt
    rw [decide_eq_false (by omega)]
    rfl

theorem earlier_of_consecutive (h : c.Consecutive p q) (ha : a.instant? = some (c p))
    (hb : b.instant? = some (c q)) : a.earlier b = .ok true := by
  rw [Moment.earlier_of_instant? ha hb, decide_eq_true (Course.lt_of_millis_lt h.2.2.1)]

theorem eq_millis_of_toMillis {millis : Int} (ha : a.instant? = some (c p)) (h : a.toMillis = .ok millis) :
    millis = c.millis p := by
  obtain ⟨i, hi, -, rfl⟩ := Moment.instant?_of_toMillis h
  rw [Option.some.inj (hi.symm.trans ha), Course.millis]

end

section

variable {calculator : Calculator} {location : Location} {zone : Zone} {offset : Int} {c : Course}
  {now : Moment} {days : AdjacentDays} {first : Event} {b : Boundaries}

/-- The sunsets that an evaluation may take are of the day, or of a day next to it. -/
theorem sunsets_mem (days : AdjacentDays) (first : Event) :
    (days.sunsetBefore first).day ∈ [days.yesterday, days.today, days.tomorrow] ∧
      (days.sunsetAfter first).day ∈ [days.yesterday, days.today, days.tomorrow] := by
  cases first with
  | sunrise => simp [AdjacentDays.sunsetBefore, AdjacentDays.sunsetAfter]
  | sunset => simp [AdjacentDays.sunsetBefore, AdjacentDays.sunsetAfter]

/-- So they are of days of the calendar. -/
theorem sunsets_inCalendar (hz : zone.HasOffset offset) (hd : now.adjacentDays zone = .ok days)
    (first : Event) : (days.sunsetBefore first).day.inCalendar = true ∧
      (days.sunsetAfter first).day.inCalendar = true := by
  obtain ⟨-, -, hyc, hdc, htc⟩ := days_inCalendar hz hd
  have hin : ∀ day ∈ [days.yesterday, days.today, days.tomorrow], day.inCalendar = true := by
    simp only [List.mem_cons, List.not_mem_nil, or_false, forall_eq_or_imp, forall_eq]
    exact ⟨hyc, hdc, htc⟩
  obtain ⟨hbefore, hafter⟩ := sunsets_mem days first
  exact ⟨hin _ hbefore, hin _ hafter⟩

/-- **An evaluation by the order in time**, for a calculator that follows an alternating course: which four
answers it makes boundaries of. -/
theorem evaluateBy_of_follows (hz : zone.HasOffset offset) (ha : c.IsAlternating offset)
    (hc : calculator.Follows location zone c) (hd : now.adjacentDays zone = .ok days)
    (hf : c.ComesFirst first days.today) :
    ∃ p r s x : Moment, p.instant? = some (c (days.sunsetBefore first)) ∧
      r.instant? = some (c ⟨.sunrise, days.today⟩) ∧
      s.instant? = some (c (days.sunsetAfter first)) ∧
      x.instant? = some (c ⟨.sunrise, days.tomorrow⟩) ∧
      evaluateBy Moment.earlier (calculator.answers location zone) now zone =
        boundariesOf days.today p r s x := by
  obtain ⟨-, -, -, hdc, htc⟩ := days_inCalendar hz hd
  obtain ⟨-, -, hlast⟩ := consecutive_boundaries hz ha hd hf
  obtain ⟨hbc, hac⟩ := sunsets_inCalendar hz hd first
  obtain ⟨r, hr, hri⟩ := hc ⟨.sunrise, days.today⟩ hdc
  obtain ⟨same, hsame, hsamei⟩ := hc ⟨.sunset, days.today⟩ hdc
  obtain ⟨p, hp, hpi⟩ := hc _ hbc
  obtain ⟨s, hs, hsi⟩ := hc _ hac
  obtain ⟨x, hx, hxi⟩ := hc ⟨.sunrise, days.tomorrow⟩ htc
  obtain ⟨follows, ho, rfl⟩ := earlier_of_comesFirst hf hri hsamei
  refine ⟨p, r, s, x, hpi, hri, hsi, hxi, ?_⟩
  rw [evaluateBy_eq hd hr hsame ho hp hs, finishBy_of_later hx (earlier_of_consecutive hlast hsi hxi)]

/-- **The boundaries of an evaluation.** Today's sunrise and the sunsets around it are found in any case. The
last boundary is tomorrow's sunrise, if the clock tells the time, and else the sunrise of the day after. -/
theorem areOf_of_evaluate (hz : zone.HasOffset offset) (ha : c.IsAlternating offset)
    (hc : calculator.Follows location zone c) (hd : now.adjacentDays zone = .ok days)
    (hf : c.ComesFirst first days.today)
    (h : evaluate calculator (some location) now zone = .ok (some b)) :
    ∃ d : Day, d.inCalendar = true ∧ b.AreOf c (days.sunsetBefore first) ⟨.sunrise, days.today⟩
        (days.sunsetAfter first) ⟨.sunrise, d⟩ ∧
      ((calculator.answers location zone).TellsTime now zone → d = days.tomorrow) ∧
      (¬ (calculator.answers location zone).TellsTime now zone → d = days.tomorrow.plus 1) := by
  rw [evaluate_eq_evaluateBy] at h
  obtain ⟨b', hb, hsome⟩ := map_eq_ok_iff.mp h
  obtain rfl : b' = b := Option.some.inj hsome
  obtain ⟨w⟩ := nonempty_way hb
  obtain rfl : days = w.days := Except.ok.inj (hd.symm.trans w.hasDays)
  obtain ⟨-, -, -, hdc, htc⟩ := days_inCalendar hz hd
  obtain ⟨hbc, hac⟩ := sunsets_inCalendar hz hd first
  obtain ⟨-, -, hlast⟩ := consecutive_boundaries hz ha hd hf
  -- The boundaries are in order, so the first pair was compared as it is in time.
  have hri := hc.instant? hdc w.hasSunrise
  obtain ⟨follows, hfollows, hfirst⟩ := earlier_of_comesFirst hf hri (hc.instant? hdc w.hasSameDay)
  obtain rfl : w.follows = follows := Except.ok.inj (w.earlier_sunrise.symm.trans hfollows)
  subst hfirst
  have hsi := hc.instant? hac w.hasSunset
  have hsecond := earlier_of_consecutive hlast hsi (hc.instant? htc w.hasNext)
  have htells : (calculator.answers location zone).TellsTime now zone ↔ w.later = true := by
    rw [w.tellsTime_iff, hsecond, Except.ok.injEq, eq_comm]
  obtain ⟨hp, hr, hs, hx⟩ := boundariesOf_eq_ok_iff.mp w.ends
  refine ⟨(w.days.sunriseAfter w.later).day, w.inCalendar, ⟨?_, ?_, ?_, ?_⟩, fun h => ?_, fun h => ?_⟩
  · exact eq_millis_of_toMillis (hc.instant? hbc w.hasPrevious) hp
  · exact eq_millis_of_toMillis hri hr
  · exact eq_millis_of_toMillis hsi hs
  · exact eq_millis_of_toMillis (hc.instant? w.inCalendar w.hasLast) hx
  · rw [htells.mp h]
    rfl
  · rw [htells, Bool.not_eq_true] at h
    rw [h]
    rfl

/-- The last boundary is tomorrow's sunrise exactly when the clock tells the time, and never an earlier one. -/
theorem nextSunrise_eq_iff (hz : zone.HasOffset offset) (ha : c.IsAlternating offset)
    (hc : calculator.Follows location zone c) (hd : now.adjacentDays zone = .ok days)
    (h : evaluate calculator (some location) now zone = .ok (some b)) :
    c.millis ⟨.sunrise, days.tomorrow⟩ ≤ b.nextSunrise ∧
      (b.nextSunrise = c.millis ⟨.sunrise, days.tomorrow⟩ ↔
        (calculator.answers location zone).TellsTime now zone) := by
  obtain ⟨-, -, -, hdc, htc⟩ := days_inCalendar hz hd
  obtain ⟨first, hf⟩ := ha.exists_comesFirst hdc
  obtain ⟨d, hdin, ⟨-, -, -, hx⟩, htells, hmisled⟩ := areOf_of_evaluate hz ha hc hd hf h
  by_cases htime : (calculator.answers location zone).TellsTime now zone
  · rw [hx, htells htime]
    exact ⟨le_refl _, iff_of_true rfl htime⟩
  · have hlt : c.millis ⟨.sunrise, days.tomorrow⟩ < c.millis ⟨.sunrise, d⟩ :=
      ha.millis_lt_of_day_lt htc hdin (by rw [hmisled htime, Day.plus]; exact Int.lt_succ _)
    rw [hx]
    exact ⟨le_of_lt hlt, iff_of_false (ne_of_gt hlt) htime⟩

/-- Where the clock tells the time, **an evaluation comes to boundaries** if the calendar has room around the
day. -/
theorem exists_evaluate (hz : zone.HasOffset offset) (ha : c.IsAlternating offset)
    (hc : calculator.Follows location zone c) (hd : now.adjacentDays zone = .ok days)
    (hroom : c.HasRoom days.today) (htells : (calculator.answers location zone).TellsTime now zone) :
    ∃ b, evaluate calculator (some location) now zone = .ok (some b) := by
  obtain ⟨hy, ht, -, hdc, -⟩ := days_inCalendar hz hd
  obtain ⟨first, hf⟩ := ha.exists_comesFirst hdc
  have hin : ∀ q : Query, q.day ∈ [days.yesterday, days.today, days.tomorrow] →
      Moment.inCalendar (c q) = true := by
    intro q hq
    rw [hy, ht] at hq
    exact (hroom q.day hq).2 q.event
  obtain ⟨p, r, s, x, hp, hr, hs, hx, heval⟩ := evaluateBy_of_follows hz ha hc hd hf
  obtain ⟨h₁, h₂, h₃⟩ := consecutive_boundaries hz ha hd hf
  obtain ⟨hbefore, hafter⟩ := sunsets_mem days first
  refine ⟨⟨_, _, _, _, h₁.2.2.1, h₂.2.2.1, h₃.2.2.1⟩, ?_⟩
  rw [evaluate_eq_evaluateBy, evaluateBy_congr htells, heval, map_eq_ok_iff]
  refine ⟨_, boundariesOf_eq_ok_iff.mpr ?_, rfl⟩
  exact ⟨Moment.toMillis_of_instant? hp (hin _ hbefore), Moment.toMillis_of_instant? hr (hin _ (by simp)),
    Moment.toMillis_of_instant? hs (hin _ hafter), Moment.toMillis_of_instant? hx (hin _ (by simp))⟩

end

/-! ### Calculators that follow a course -/

/-- The same times on every day are told by the clock of the zone. Where that has one offset, it tells the
time. -/
theorem DailyTimes.tellsTime (t : DailyTimes) {zone : Zone} {offset : Int} (hz : zone.HasOffset offset)
    (location : Location) (now : Moment) :
    (Calculator.answers t.calculator location zone).TellsTime now zone := by
  refine tellsTime_of_isSteady fun q m hm => ⟨zone, offset, ?_, hz⟩
  obtain ⟨day, -, hm⟩ := bind_eq_ok_iff.mp hm
  cases hm
  rfl

/-- An almanac follows a course if its base does, and if its own answers are at the instants of the course. -/
theorem Almanac.follows_calculator {a : Almanac} {location : Location} {zone : Zone} {c : Course}
    (hbase : a.base.Follows location zone c)
    (hown : ∀ entry ∈ a.overrides, ∃ m, entry.2 = .ok m ∧ m.instant? = some (c entry.1)) :
    a.calculator.Follows location zone c := by
  intro q hq
  rw [calculator]
  split
  case h_1 answer hlookup =>
    obtain ⟨before, behind, hsplit, -⟩ := List.lookup_eq_some_iff.mp hlookup
    obtain ⟨m, rfl, hi⟩ := hown (q, answer) (by rw [hsplit]; simp)
    exact ⟨m, rfl, hi⟩
  case h_2 => exact hbase q hq

/-! ### A short night -/

/-- Sunrise at 06:10 and sunset at 05:50. -/
def shortNight : DailyTimes := ⟨22200 * second, 21000 * second, 0, 0⟩

theorem isRegular_shortNight : shortNight.IsRegular where
  sunriseShift := rfl
  sunsetShift := rfl
  onDay e := by cases e <;> decide
  distinct := by decide

/-- The almanac of these times, but that the two events of 2023-11-05 are told as a clock in New York shows
them. It is put back between the two. -/
def shortNightAlmanac : Almanac :=
  ⟨shortNight.calculator, [(⟨.sunset, ⟨19666⟩⟩, .ok (newYork 19666 6600 false)),
    (⟨.sunrise, ⟨19666⟩⟩, .ok (newYork 19666 4200 true))]⟩

/-- The events are the same, whoever tells them. -/
theorem follows_shortNightAlmanac :
    Calculator.Follows shortNightAlmanac.calculator home .utc (shortNight.course 0) := by
  refine Almanac.follows_calculator
    (DailyTimes.follows_course isRegular_shortNight Zone.hasOffset_utc home) fun entry hentry => ?_
  simp only [shortNightAlmanac, List.mem_cons, List.not_mem_nil, or_false] at hentry
  obtain rfl | rfl := hentry
  · exact ⟨_, rfl, by decide +kernel⟩
  · exact ⟨_, rfl, by decide +kernel⟩

end Daylight
