import Daylight.Proofs.AlarmClock
import Daylight.Proofs.Neighbours
import Daylight.Proofs.WallClocks

/-!
# The wake-up lies ahead

Nothing is known here of the calculator but that each of its answers lies on the calendar day that was asked
for, by a clock with one offset of whole milliseconds. Sunrises and sunsets need not alternate, the sunrise
after may have to be looked for on the day after tomorrow, and some questions may have no answer. Still, when
an evaluation comes to boundaries, what comes next at its moment is really to come.

Sunrise and sunset are compared with the moment before one of them is named. The sunrise after is not: that
it is still to come rests on its day. It is a sunrise of tomorrow or of the day after, and rounding it down to
milliseconds does not take it back over midnight, since midnight is a whole millisecond, too.

## What is proved

* `lt_nextSunrise`: the sunrise after comes after the moment of the evaluation.
* `schedule_of_lt`: an alarm clock that is asked for a wake-up ahead starts a timer with the time that is
  left, which is its live one then, unless it has a timer for that instant already.
* `evaluate_ahead`: both together, to the microsecond; and where each evaluation is made at the wake-up of the
  one before, or later, every one takes the clock a millisecond further, so no two are made at one instant.
-/

namespace Daylight

/-- A calculator whose answers lie on the day that was asked for, by a clock with an offset. -/
def Calculator.KeepsDay (calculator : Calculator) (location : Location) (zone : Zone) (offset : Int) : Prop :=
  ∀ q m i, q.day.inCalendar = true → calculator location q zone = .ok m → m.instant? = some i →
    Day.ofWall (i + offset) = q.day

/-- Evaluations one after the other, the first at `first`, each made when the wake-up of the one before has
come. The number counts the wake-ups that have come. -/
inductive Rounds (calculator : Calculator) (location : Location) (zone : Zone) (first : Moment) :
    Nat → Moment → Prop
  /-- No wake-up has come yet. -/
  | start : Rounds calculator location zone first 0 first
  /-- An evaluation comes to boundaries, and what comes next by them is not later than `later`. -/
  | next {n : Nat} {now wanted later : Moment} {b : Boundaries}
      (before : Rounds calculator location zone first n now)
      (hb : evaluate calculator (some location) now zone = .ok (some b))
      (hw : b.nextTransition now = .ok wanted) (hl : later.earlier wanted = .ok false) :
      Rounds calculator location zone first (n + 1) later

/-! ### What comes next -/

/-- If the sunrise after is still to come, so is what comes next. -/
theorem Boundaries.lt_transitionAfter {b : Boundaries} {n : Int} (h : n < b.nextSunrise) :
    n < b.transitionAfter n := by
  unfold transitionAfter
  split
  · assumption
  · split
    · assumption
    · exact h

section

variable {calculator : Calculator} {location : Location} {zone : Zone} {offset : Int} {now : Moment}
  {b : Boundaries}

/-- The sunrise after is the one of tomorrow, or of the day after tomorrow. -/
theorem exists_nextSunrise (h : evaluate calculator (some location) now zone = .ok (some b)) :
    ∃ days d x, now.adjacentDays zone = .ok days ∧ (d = days.tomorrow ∨ d = days.tomorrow.plus 1) ∧
      d.inCalendar = true ∧ calculator location ⟨.sunrise, d⟩ zone = .ok x ∧
      x.toMillis = .ok b.nextSunrise := by
  rw [evaluate_eq_evaluateBy] at h
  obtain ⟨b', hb, hsome⟩ := map_eq_ok_iff.mp h
  obtain rfl : b' = b := Option.some.inj hsome
  obtain ⟨w⟩ := nonempty_way hb
  obtain ⟨-, -, -, hmillis⟩ := boundariesOf_eq_ok_iff.mp w.ends
  have hday : (w.days.sunriseAfter w.later).day = w.days.tomorrow ∨
      (w.days.sunriseAfter w.later).day = w.days.tomorrow.plus 1 := by
    cases w.later with
    | true => exact .inl rfl
    | false => exact .inr rfl
  exact ⟨w.days, _, w.last, w.hasDays, hday, w.inCalendar, w.hasLast, hmillis⟩

/-- **The sunrise after comes after the moment.** It lies on a later day, and it is rounded down to a whole
millisecond, as the first one of that day is. -/
theorem lt_nextSunrise (hz : zone.HasOffset offset) (hw : offset % 1000 = 0)
    (hk : calculator.KeepsDay location zone offset)
    (h : evaluate calculator (some location) now zone = .ok (some b)) {i : Int}
    (hi : now.instant? = some i) : i / 1000 < b.nextSunrise := by
  obtain ⟨days, d, x, hd, hday, hin, hx, hmillis⟩ := exists_nextSunrise h
  obtain ⟨j, hj, -, hnext⟩ := Moment.instant?_of_toMillis hmillis
  obtain ⟨htoday, -, htomorrow, -⟩ := Moment.adjacentDays_of_hasOffset hz hi hd
  have hnow := (Day.startMillis_le (i := i) hw).2
  have hlow := (Day.startMillis_le (i := j) hw).1
  rw [hk _ x j hin hx hj] at hlow
  rw [← htoday] at hnow
  have hlater : days.today.startMillis offset + Moment.millisOfDay ≤ d.startMillis offset := by
    rw [htomorrow, Day.plus_plus] at hday
    rcases hday with rfl | rfl
    · rw [Day.startMillis_plus, one_mul]
    · rw [Day.startMillis_plus]
      simp only [Moment.millisOfDay]
      omega
  rw [hnext]
  exact hnow.trans_le (hlater.trans hlow)

/-- What comes next is a whole millisecond after the moment of the evaluation. -/
theorem exists_ahead (hz : zone.HasOffset offset) (hw : offset % 1000 = 0)
    (hk : calculator.KeepsDay location zone offset)
    (h : evaluate calculator (some location) now zone = .ok (some b)) :
    ∃ i n, now.instant? = some i ∧ b.nextTransition now = .ok (.ofInstant (n * 1000)) ∧ i / 1000 < n ∧
      Moment.inCalendar (n * 1000) = true := by
  obtain ⟨i, hi, hc⟩ := inCalendar_of_evaluate h
  obtain ⟨n, hn, -, hnext⟩ := exists_outlook h
  obtain rfl : i / 1000 = n := Except.ok.inj ((Boundaries.millisOf_of_instant? hi hc).symm.trans hn)
  obtain ⟨_, _, _, _, _, hb⟩ := boundariesOf_of_evaluateWith (evaluate_eq_ok_some_iff.mp h)
  exact ⟨i, _, hi, hnext, Boundaries.lt_transitionAfter (lt_nextSunrise hz hw hk h hi),
    inCalendar_of_boundariesOf hb (transitionAfter_mem b (i / 1000))⟩

/-- **Every wake-up takes the clock at least a millisecond further.** -/
theorem Rounds.add_le (hz : zone.HasOffset offset) (hw : offset % 1000 = 0)
    (hk : calculator.KeepsDay location zone offset) {first last : Moment} {n : Nat} {i j : Int}
    (h : Rounds calculator location zone first n last) (hi : first.instant? = some i)
    (hj : last.instant? = some j) : i / 1000 + n ≤ j / 1000 := by
  induction h generalizing j with
  | start =>
    obtain rfl : i = j := Option.some.inj (hi.symm.trans hj)
    simp
  | @next n now wanted later b before hb hwanted hl ih =>
    obtain ⟨k, m, hk, hnext, hlt, -⟩ := exists_ahead hz hw hk hb
    have hround := ih hk
    obtain rfl : Moment.ofInstant (m * 1000) = wanted := Except.ok.inj (hnext.symm.trans hwanted)
    rw [Moment.earlier_of_instant? hj (Moment.instant?_ofInstant _), Except.ok.injEq,
      decide_eq_false_iff_not] at hl
    push_cast
    omega

end

/-! ### Asking for the wake-up -/

namespace AlarmClock

variable {κ : Type}

theorem liveTimer?_arm (a : AlarmClock κ) (due : Moment) (delay : Int) (task : κ) :
    (a.arm due delay task).liveTimer? = some ⟨due, delay, false, false, task⟩ := by
  simp [liveTimer?, arm]

/-- The time that is left to an instant. -/
theorem since_of_instant? {now : Moment} {i : Int} (hi : now.instant? = some i) (x : Int) :
    (Moment.ofInstant x).since now = .ok (x - i) := by
  unfold Moment.since
  split
  · rename_i hzone
    obtain ⟨zone, hz, hwall⟩ := Moment.instant?_eq_some_iff.mp hi
    obtain rfl : Zone.utc = zone := Option.some.inj (hzone.trans hz)
    rw [Zone.hasOffset_utc.atWall, sub_zero] at hwall
    rw [← hwall]
    rfl
  · rw [Moment.instant?_ofInstant, hi]

/-- **A wake-up ahead gets a timer with the time that is left**, and this is the live one of the clock then,
unless there is one for it already. -/
theorem schedule_of_lt (a : AlarmClock κ) {now : Moment} {i x : Int} (hi : now.instant? = some i)
    (hx : Moment.inCalendar x = true) (hlt : i < x) (task : κ) :
    (a.pending?.map (·.wall) = some x ∧ a.schedule (.ofInstant x) now task = (a, .ok none)) ∨
      ((a.schedule (.ofInstant x) now task).2 = .ok (some ⟨.ofInstant x, x - i, false, false, task⟩) ∧
        (a.schedule (.ofInstant x) now task).1.liveTimer? =
          some ⟨.ofInstant x, x - i, false, false, task⟩) := by
  have hutc := Moment.toUtc_of_instant? (Moment.instant?_ofInstant x) hx
  have hwall : (Moment.ofInstant x).wall = x := rfl
  simp only [AlarmClock.schedule, hutc, hwall, since_of_instant? hi]
  split
  · rename_i hp
    exact .inl ⟨hp, rfl⟩
  · right
    rw [liveTimer?_arm, max_eq_right (by omega)]
    exact ⟨rfl, rfl⟩

end AlarmClock

/-- **Every wake-up that is asked for lies ahead.** Let the answers of a calculator lie on the days that were
asked for, by a clock with one offset of whole milliseconds. When an evaluation comes to boundaries, what comes
next at its moment is later than this moment, to the microsecond. An alarm clock that is asked for it while
the clock shows that moment starts a timer with a positive delay, which is its live one from then on, or it has
a timer for it. And when evaluations are made one after the other, each at the wake-up of the one before or
later, `n` wake-ups take the clock at least `n` milliseconds further. -/
theorem evaluate_ahead {calculator : Calculator} {location : Location} {zone : Zone} {offset : Int}
    (hz : zone.HasOffset offset) (hw : offset % 1000 = 0)
    (hk : calculator.KeepsDay location zone offset) :
    (∀ now b, evaluate calculator (some location) now zone = .ok (some b) →
      ∃ i wanted x, now.instant? = some i ∧ b.nextTransition now = .ok wanted ∧
        wanted.instant? = some x ∧ i < x ∧
        ∀ (clock : AlarmClock Unit),
          (clock.pending?.map (·.wall) = some wanted.wall ∧
              clock.schedule wanted now () = (clock, .ok none)) ∨
            ∃ timer, (clock.schedule wanted now ()).2 = .ok (some timer) ∧
              (clock.schedule wanted now ()).1.liveTimer? = some timer ∧ timer.due = wanted ∧
              timer.delay = x - i ∧ 0 < timer.delay) ∧
      ∀ first last n i j, Rounds calculator location zone first n last → first.instant? = some i →
        last.instant? = some j → i / 1000 + n ≤ j / 1000 := by
  refine ⟨fun now b h => ?_, fun first last n i j h hi hj => h.add_le hz hw hk hi hj⟩
  obtain ⟨i, n, hi, hnext, hlt, hin⟩ := exists_ahead hz hw hk h
  have hahead : i < n * 1000 := by omega
  refine ⟨i, _, n * 1000, hi, hnext, Moment.instant?_ofInstant _, hahead, fun clock => ?_⟩
  rcases clock.schedule_of_lt hi hin hahead () with hkept | ⟨hstarted, hlive⟩
  · exact .inl hkept
  · exact .inr ⟨_, hstarted, hlive, rfl, rfl, Int.sub_pos_of_lt hahead⟩

/-! ### Sunrise at midnight -/

/-- Sunrise at midnight and sunset at 18:00. -/
def midnightSunrise : DailyTimes := ⟨0, 64800 * second, 0, 0⟩

/-- A regular calculator keeps the day. -/
theorem DailyTimes.keepsDay {t : DailyTimes} (h : t.IsRegular) {zone : Zone} {offset : Int}
    (hz : zone.HasOffset offset) (hw : offset % 1000 = 0) (location : Location) :
    Calculator.KeepsDay t.calculator location zone offset := by
  intro q m i hq hm hi
  obtain rfl := Option.some.inj (((follows_course h hz location).instant? hq hm).symm.trans hi)
  exact (isAlternating_course h hw).onDay q hq

theorem isRegular_midnightSunrise : midnightSunrise.IsRegular where
  sunriseShift := rfl
  sunsetShift := rfl
  onDay e := by cases e <;> decide
  distinct := by decide

/-- One microsecond before midnight the wake-up is one microsecond ahead: the sunrise of the next day. Made
at that sunrise, the next evaluation is the second one of a round that takes the clock on. -/
theorem ahead_of_midnight :
    ∃ b wanted, evaluate midnightSunrise.calculator (some home) (.ofInstant 1687372199999999) aheadZone =
        .ok (some b) ∧ b.nextTransition (.ofInstant 1687372199999999) = .ok wanted ∧
      wanted = .ofInstant 1687372200000000 ∧
      (∃ timer, ((AlarmClock.empty : AlarmClock Unit).schedule wanted
          (.ofInstant 1687372199999999) ()).1.liveTimer? = some timer ∧ timer.delay = 1 ∧ 0 < timer.delay) ∧
      Rounds midnightSunrise.calculator home aheadZone (.ofInstant 1687372199999999) 1 wanted ∧
      (1687372199999999 : Int) / 1000 + 1 ≤ 1687372200000000 / 1000 := by
  have hz : aheadZone.HasOffset (19800 * second) := Zone.hasOffset_fixed ⟨by decide, by decide⟩ .offset
  have hk := DailyTimes.keepsDay isRegular_midnightSunrise hz rfl home
  have heval : evaluate midnightSunrise.calculator (some home) (.ofInstant 1687372199999999) aheadZone =
      .ok (some ⟨1687264200000, 1687285800000, 1687350600000, 1687372200000, by decide⟩) := rfl
  have hpending : (AlarmClock.empty : AlarmClock Unit).pending? = none := rfl
  obtain ⟨hnext, hround⟩ := evaluate_ahead hz rfl hk
  obtain ⟨i, wanted, x, hi, hw, hx, -, hclock⟩ := hnext _ _ heval
  obtain rfl : 1687372199999999 = i := Option.some.inj hi
  obtain rfl : Moment.ofInstant 1687372200000000 = wanted := Except.ok.inj hw
  obtain rfl : 1687372200000000 = x := Option.some.inj hx
  have hchain : Rounds midnightSunrise.calculator home aheadZone (.ofInstant 1687372199999999) 1
      (.ofInstant 1687372200000000) := .next .start heval hw rfl
  refine ⟨_, _, heval, hw, rfl, ?_, hchain, hround _ _ _ _ _ hchain hi hx⟩
  rcases hclock .empty with ⟨hp, -⟩ | ⟨timer, -, hlive, -, hdelay, hpos⟩
  · rw [hpending] at hp
    cases hp
  · exact ⟨timer, hlive, hdelay, hpos⟩

end Daylight
