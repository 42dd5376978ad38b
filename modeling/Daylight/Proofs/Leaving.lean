import Daylight.Proofs.Evaluating
import Daylight.Proofs.Milliseconds
import Daylight.Solar

/-!
# Leaving the calendar

The calendar begins with the year one and ends with the year 9999, and an evaluation near its edges may ask
for days that it does not have: the days around the moment, the day after tomorrow, or the day on whose count
an event falls in universal time. Nothing else goes wrong with an evaluation, except that the events of a day
could not be determined; and where it leaves the calendar this is the failure, whatever it has found before.

An evaluation is a chain of questions, and every question depends on the answers before. `Reaches` says which
questions are asked, and `IsStuck` which of them has no answer, so that the end of an evaluation is told
without the program.

## What is proved

* `evaluateWith_cases`, `evaluateWith_of_isStuck`: an evaluation has an answer or comes to inconsistent ones,
  unless it comes to a question without an answer, and then it ends with what is wrong with that.
* `evaluate_ofInstant`: so an evaluation at an instant of the calendar comes to boundaries, or the events
  could not be determined, or it leaves the calendar, and it is known when it does.
* `exists_report_of_evaluate`: with boundaries there is a report of them.
* `Solar.answersIn`: all this holds of the sun's course, in every known zone.
-/

namespace Daylight

namespace Moment

theorem eq_of_checked_error {wall : Int} {e : Failure} (h : checked wall = .error e) : e = .outOfRange := by
  rw [checked] at h
  split at h
  · cases h
  · cases h
    rfl

/-- A conversion of a moment with a zone fails only where it leaves the calendar. -/
theorem eq_of_inZone_error {m : Moment} {zone : Zone} {e : Failure} (hz : m.zone ≠ none)
    (h : m.inZone zone = .error e) : e = .outOfRange := by
  obtain ⟨own, hown⟩ := Option.ne_none_iff_exists'.mp hz
  by_cases hnamed : zone.isNamed ∧ m.zone = some zone
  · rw [inZone, if_pos hnamed] at h
    cases h
  · rw [inZone_of_instant? (instant?_eq_some_iff.mpr ⟨own, hown, rfl⟩) hnamed] at h
    simp only [bind_eq_error_iff] at h
    obtain hinstant | ⟨_, -, hwall | ⟨_, -, hdone⟩⟩ := h
    · exact eq_of_checked_error hinstant
    · exact eq_of_checked_error hwall
    · cases hdone

theorem eq_of_shift_error {d : Day} {n : Int} {e : Failure} (h : d.shift n = .error e) :
    e = .outOfRange ∧ (d.plus n).inCalendar = false := by
  rw [Day.shift] at h
  split at h
  · cases h
  · rename_i hout
    cases h
    exact ⟨rfl, Bool.not_eq_true _ ▸ hout⟩

/-- The days around a moment with a zone are missing only where they leave the calendar. -/
theorem eq_of_adjacentDays_error {now : Moment} {zone : Zone} {e : Failure} (hz : now.zone ≠ none)
    (h : now.adjacentDays zone = .error e) : e = .outOfRange := by
  obtain ⟨own, hown⟩ := Option.ne_none_iff_exists'.mp hz
  simp only [adjacentDays, localDay, hown, bind_eq_error_iff] at h
  obtain (hmoved | ⟨moved, -, hdone⟩) | ⟨today, -, hyesterday | ⟨_, -, htomorrow | ⟨_, -, hdone⟩⟩⟩ := h
  · exact eq_of_inZone_error hz hmoved
  · cases hdone
  · exact (eq_of_shift_error hyesterday).1
  · exact (eq_of_shift_error htomorrow).1
  · cases hdone

/-- Universal time is no named zone. -/
theorem not_isNamed_ofInstant (zone : Zone) (i : Int) :
    ¬ (zone.isNamed ∧ (ofInstant i).zone = some zone) := by
  rintro ⟨hnamed, hzone⟩
  cases hzone
  cases hnamed

/-- The day that the clock of a zone shows at an instant. -/
def dayIn (zone : Zone) (i : Int) : Day := .ofWall (i + zone.offsetAtInstant i)

/-- The days around an instant are there if and only if the one before and the one after are in the
calendar. -/
theorem adjacentDays_ofInstant {zone : Zone} {i : Int} (hi : inCalendar i = true) {days : AdjacentDays} :
    (ofInstant i).adjacentDays zone = .ok days ↔
      ((dayIn zone i).plus (-1)).inCalendar = true ∧ ((dayIn zone i).plus 1).inCalendar = true ∧
        days = ⟨(dayIn zone i).plus (-1), dayIn zone i, (dayIn zone i).plus 1⟩ := by
  have hnamed := not_isNamed_ofInstant zone i
  rw [adjacentDays_eq_ok_iff]
  constructor
  · rintro ⟨moved, -, hmoved, hrest⟩
    obtain ⟨-, -, rfl⟩ := (inZone_eq_ok_iff (instant?_ofInstant i) hnamed).mp hmoved
    exact hrest
  · rintro ⟨hbefore, hafter, hdays⟩
    have hwall : inCalendar (i + zone.offsetAtInstant i) = true := by
      rw [Day.inCalendar_iff] at hbefore hafter
      rw [inCalendar_iff]
      simp only [dayIn, Day.ofWall, Day.plus, lowest, highest, Day.start, dayLength, second, Day.first,
        Day.last] at hbefore hafter ⊢
      omega
    exact ⟨_, Option.some_ne_none _, (inZone_eq_ok_iff (instant?_ofInstant i) hnamed).mpr ⟨hi, hwall, rfl⟩,
      hbefore, hafter, hdays⟩

end Moment

/-- To shift a day that is some days away is to shift it by both at once. -/
theorem Day.shift_plus (d : Day) (m n : Int) : (d.plus m).shift n =
    if (d.plus (m + n)).inCalendar then .ok (d.plus (m + n)) else .error .outOfRange := by
  rw [Day.shift, Day.plus_plus]

/-! ### What is asked, and what fails -/

/-- Answers are moments of the zone that lie in the calendar in universal time, and without an answer the
events of a day could not be determined, or they leave the calendar. -/
structure AnswersIn (zone : Zone) (ask : Query → Except Failure Moment) : Prop where
  /-- Answers are of the zone. -/
  inZone : ∀ q m, ask q = .ok m → m.zone = some zone
  /-- Answers lie in the calendar. -/
  inCalendar : ∀ q m, ask q = .ok m → ∃ i, m.instant? = some i ∧ Moment.inCalendar i = true
  /-- There are two reasons for no answer. -/
  fails : ∀ q e, ask q = .error e → e.kind = .calculation ∨ e = .outOfRange

section

variable {ask : Query → Except Failure Moment} {zone : Zone} {d : Day} {now : Moment}

theorem AnswersIn.before (h : AnswersIn zone ask) {p q : Query} {a b : Moment} (ha : ask p = .ok a)
    (hb : ask q = .ok b) : a.before b = .ok (decide (a.wall < b.wall)) := by
  rw [Moment.before, if_pos ((h.inZone p a ha).trans (h.inZone q b hb).symm)]

/-- Boundaries are made of answers, or they are inconsistent. -/
theorem AnswersIn.boundariesOf (h : AnswersIn zone ask) {p r s x : Query} {a b c e : Moment}
    (ha : ask p = .ok a) (hb : ask r = .ok b) (hc : ask s = .ok c) (he : ask x = .ok e) :
    (∃ found, boundariesOf d a b c e = .ok found) ∨ boundariesOf d a b c e = .error (.inconsistent d) := by
  have hmillis : ∀ {q : Query} {m : Moment}, ask q = .ok m → ∃ n, m.toMillis = .ok n := by
    intro q m hm
    obtain ⟨i, hi, hin⟩ := h.inCalendar q m hm
    exact ⟨_, Moment.toMillis_of_instant? hi hin⟩
  obtain ⟨na, hna⟩ := hmillis ha
  obtain ⟨nb, hnb⟩ := hmillis hb
  obtain ⟨nc, hnc⟩ := hmillis hc
  obtain ⟨ne, hne⟩ := hmillis he
  simp only [Daylight.boundariesOf, hna, hnb, hnc, hne, bind, Except.bind, Boundaries.make]
  split_ifs
  · exact .inl ⟨_, rfl⟩
  · exact .inr rfl

/-- The sunset that ends the day: today's if it follows today's sunrise, or else tomorrow's. -/
inductive Evening (ask : Query → Except Failure Moment) (d : Day) : Moment → Prop
  /-- Today's, when yesterday's is known, too. -/
  | today {rise set before : Moment} : ask ⟨.sunrise, d⟩ = .ok rise → ask ⟨.sunset, d⟩ = .ok set →
      rise.before set = .ok true → ask ⟨.sunset, d.plus (-1)⟩ = .ok before → Evening ask d set
  /-- Tomorrow's. -/
  | tomorrow {rise set next : Moment} : ask ⟨.sunrise, d⟩ = .ok rise → ask ⟨.sunset, d⟩ = .ok set →
      rise.before set = .ok false → ask ⟨.sunset, d.plus 1⟩ = .ok next → Evening ask d next

/-- The questions that an evaluation of a day comes to. -/
inductive Reaches (ask : Query → Except Failure Moment) (d : Day) : Query → Prop
  /-- Today's sunrise. -/
  | sunrise : Reaches ask d ⟨.sunrise, d⟩
  /-- Today's sunset. -/
  | sunset {rise : Moment} : ask ⟨.sunrise, d⟩ = .ok rise → Reaches ask d ⟨.sunset, d⟩
  /-- Yesterday's sunset. -/
  | before {rise set : Moment} : ask ⟨.sunrise, d⟩ = .ok rise → ask ⟨.sunset, d⟩ = .ok set →
      rise.before set = .ok true → Reaches ask d ⟨.sunset, d.plus (-1)⟩
  /-- Tomorrow's sunset. -/
  | next {rise set : Moment} : ask ⟨.sunrise, d⟩ = .ok rise → ask ⟨.sunset, d⟩ = .ok set →
      rise.before set = .ok false → Reaches ask d ⟨.sunset, d.plus 1⟩
  /-- Tomorrow's sunrise. -/
  | after {evening : Moment} : Evening ask d evening → Reaches ask d ⟨.sunrise, d.plus 1⟩
  /-- The sunrise of the day after tomorrow. -/
  | later {evening rise : Moment} : Evening ask d evening → ask ⟨.sunrise, d.plus 1⟩ = .ok rise →
      evening.before rise = .ok false → Reaches ask d ⟨.sunrise, d.plus 2⟩

/-- A question of an evaluation that has no answer: its day is not in the calendar, or it is answered with a
failure. -/
def IsStuck (ask : Query → Except Failure Moment) (q : Query) (e : Failure) : Prop :=
  (q.day.inCalendar = false ∧ e = .outOfRange) ∨ (q.day.inCalendar = true ∧ ask q = .error e)

/-- The rest of an evaluation, when the sunset that ends the day is known. -/
def fromEvening (ask : Query → Except Failure Moment) (d : Day) (previous rise evening : Moment) :
    Except Failure Boundaries := do
  let nextSunrise ← ask ⟨.sunrise, d.plus 1⟩
  let later ← evening.before nextSunrise
  let nextSunrise ← if later then pure nextSunrise else do
    let dayAfter ← (d.plus 1).shift 1
    ask ⟨.sunrise, dayAfter⟩
  boundariesOf d previous rise evening nextSunrise

theorem evaluateWith_today (hd : now.adjacentDays zone = .ok ⟨d.plus (-1), d, d.plus 1⟩)
    {rise set before : Moment} (hr : ask ⟨.sunrise, d⟩ = .ok rise) (hs : ask ⟨.sunset, d⟩ = .ok set)
    (hb : rise.before set = .ok true) (hp : ask ⟨.sunset, d.plus (-1)⟩ = .ok before) :
    evaluateWith ask now zone = fromEvening ask d before rise set := by
  simp [evaluateWith, fromEvening, known_except, hd, hr, hs, hb, hp, bind, Except.bind, pure, Except.pure]

theorem evaluateWith_tomorrow (hd : now.adjacentDays zone = .ok ⟨d.plus (-1), d, d.plus 1⟩)
    {rise set next : Moment} (hr : ask ⟨.sunrise, d⟩ = .ok rise) (hs : ask ⟨.sunset, d⟩ = .ok set)
    (hb : rise.before set = .ok false) (hn : ask ⟨.sunset, d.plus 1⟩ = .ok next) :
    evaluateWith ask now zone = fromEvening ask d set rise next := by
  simp [evaluateWith, fromEvening, known_except, hd, hr, hs, hb, hn, bind, Except.bind, pure, Except.pure]

/-- How an evaluation ends when the sunset that ends the day is known. -/
theorem fromEvening_cases (ha : AnswersIn zone ask) (hc : (d.plus 1).inCalendar = true) {evening : Moment}
    (he : Evening ask d evening) {p r s : Query} {previous rise : Moment} (hp : ask p = .ok previous)
    (hr : ask r = .ok rise) (hs : ask s = .ok evening) :
    (∃ b, fromEvening ask d previous rise evening = .ok b) ∨
      fromEvening ask d previous rise evening = .error (.inconsistent d) ∨
      ∃ q e, Reaches ask d q ∧ IsStuck ask q e ∧ fromEvening ask d previous rise evening = .error e := by
  cases hn : ask ⟨.sunrise, d.plus 1⟩ with
  | error e =>
    refine .inr (.inr ⟨_, e, .after he, .inr ⟨hc, hn⟩, ?_⟩)
    simp [fromEvening, hn, bind, Except.bind]
  | ok next =>
    have hbefore := ha.before hs hn
    by_cases hlater : evening.wall < next.wall
    · rw [decide_eq_true hlater] at hbefore
      have heq : fromEvening ask d previous rise evening = boundariesOf d previous rise evening next := by
        simp [fromEvening, hn, hbefore, bind, Except.bind, pure, Except.pure]
      rw [heq]
      exact (ha.boundariesOf hp hr hs hn).imp_right .inl
    · rw [decide_eq_false hlater] at hbefore
      have hreaches : Reaches ask d ⟨.sunrise, d.plus 2⟩ := .later he hn hbefore
      by_cases hcalendar : (d.plus 2).inCalendar = true
      · have hshift : (d.plus 1).shift 1 = .ok (d.plus 2) := (d.shift_plus 1 1).trans (if_pos hcalendar)
        cases hl : ask ⟨.sunrise, d.plus 2⟩ with
        | error e =>
          refine .inr (.inr ⟨_, e, hreaches, .inr ⟨hcalendar, hl⟩, ?_⟩)
          simp [fromEvening, hn, hbefore, hshift, hl, bind, Except.bind]
        | ok last =>
          have heq : fromEvening ask d previous rise evening = boundariesOf d previous rise evening last := by
            simp [fromEvening, hn, hbefore, hshift, hl, bind, Except.bind]
          rw [heq]
          exact (ha.boundariesOf hp hr hs hl).imp_right .inl
      · have hshift : (d.plus 1).shift 1 = .error .outOfRange := (d.shift_plus 1 1).trans (if_neg hcalendar)
        refine .inr (.inr ⟨_, _, hreaches, .inl ⟨Bool.not_eq_true _ ▸ hcalendar, rfl⟩, ?_⟩)
        simp [fromEvening, hn, hbefore, hshift, bind, Except.bind]

theorem inCalendar_of_adjacentDays_eq (hd : now.adjacentDays zone = .ok ⟨d.plus (-1), d, d.plus 1⟩) :
    (d.plus (-1)).inCalendar = true ∧ d.inCalendar = true ∧ (d.plus 1).inCalendar = true := by
  obtain ⟨moved, -, -, hyesterday, htomorrow, hdays⟩ := Moment.adjacentDays_eq_ok_iff.mp hd
  obtain ⟨-, hday, -⟩ := AdjacentDays.mk.inj hdays
  rw [← hday] at hyesterday htomorrow
  refine ⟨hyesterday, ?_, htomorrow⟩
  simpa [Day.plus] using Day.inCalendar_between hyesterday htomorrow (m := 0) (by decide) (by decide)

/-- **How an evaluation of a day ends.** There are boundaries, or the answers are inconsistent, or a question
that it comes to has no answer. -/
theorem evaluateWith_cases (ha : AnswersIn zone ask)
    (hd : now.adjacentDays zone = .ok ⟨d.plus (-1), d, d.plus 1⟩) :
    (∃ b, evaluateWith ask now zone = .ok b) ∨ evaluateWith ask now zone = .error (.inconsistent d) ∨
      ∃ q e, Reaches ask d q ∧ IsStuck ask q e ∧ evaluateWith ask now zone = .error e := by
  obtain ⟨hyesterday, htoday, htomorrow⟩ := inCalendar_of_adjacentDays_eq hd
  cases hr : ask ⟨.sunrise, d⟩ with
  | error e =>
    refine .inr (.inr ⟨_, e, .sunrise, .inr ⟨htoday, hr⟩, ?_⟩)
    simp [evaluateWith, known_except, hd, hr, bind, Except.bind]
  | ok rise =>
    cases hs : ask ⟨.sunset, d⟩ with
    | error e =>
      refine .inr (.inr ⟨_, e, .sunset hr, .inr ⟨htoday, hs⟩, ?_⟩)
      simp [evaluateWith, known_except, hd, hr, hs, bind, Except.bind]
    | ok set =>
      have hbefore := ha.before hr hs
      by_cases hfollows : rise.wall < set.wall
      · rw [decide_eq_true hfollows] at hbefore
        cases hp : ask ⟨.sunset, d.plus (-1)⟩ with
        | error e =>
          refine .inr (.inr ⟨_, e, .before hr hs hbefore, .inr ⟨hyesterday, hp⟩, ?_⟩)
          simp [evaluateWith, known_except, hd, hr, hs, hbefore, hp, bind, Except.bind]
        | ok previous =>
          rw [evaluateWith_today hd hr hs hbefore hp]
          exact fromEvening_cases ha htomorrow (.today hr hs hbefore hp) hp hr hs
      · rw [decide_eq_false hfollows] at hbefore
        cases hn : ask ⟨.sunset, d.plus 1⟩ with
        | error e =>
          refine .inr (.inr ⟨_, e, .next hr hs hbefore, .inr ⟨htomorrow, hn⟩, ?_⟩)
          simp [evaluateWith, known_except, hd, hr, hs, hbefore, hn, bind, Except.bind]
        | ok next =>
          rw [evaluateWith_tomorrow hd hr hs hbefore hn]
          exact fromEvening_cases ha htomorrow (.tomorrow hr hs hbefore hn) hs hr hn

/-- What an evaluation comes to when the sunset that ends the day is known. -/
theorem Evening.exists_fromEvening {evening : Moment} (he : Evening ask d evening)
    (hd : now.adjacentDays zone = .ok ⟨d.plus (-1), d, d.plus 1⟩) :
    ∃ previous rise, evaluateWith ask now zone = fromEvening ask d previous rise evening := by
  cases he with
  | today hr hs hb hp => exact ⟨_, _, evaluateWith_today hd hr hs hb hp⟩
  | tomorrow hr hs hb hn => exact ⟨_, _, evaluateWith_tomorrow hd hr hs hb hn⟩

/-- **A question without an answer ends an evaluation** that comes to it. -/
theorem evaluateWith_of_isStuck {q : Query} {e : Failure}
    (hd : now.adjacentDays zone = .ok ⟨d.plus (-1), d, d.plus 1⟩) (hq : Reaches ask d q)
    (hs : IsStuck ask q e) : evaluateWith ask now zone = .error e := by
  obtain ⟨hyesterday, htoday, htomorrow⟩ := inCalendar_of_adjacentDays_eq hd
  have hfails : q.day.inCalendar = true → ask q = .error e := by
    intro hcalendar
    obtain ⟨hout, -⟩ | ⟨-, hask⟩ := hs
    · rw [hcalendar] at hout
      cases hout
    · exact hask
  cases hq with
  | sunrise => simp [evaluateWith, known_except, hd, hfails htoday, bind, Except.bind]
  | sunset hr => simp [evaluateWith, known_except, hd, hr, hfails htoday, bind, Except.bind]
  | before hr hset hb =>
    simp [evaluateWith, known_except, hd, hr, hset, hb, hfails hyesterday, bind, Except.bind]
  | next hr hset hb =>
    simp [evaluateWith, known_except, hd, hr, hset, hb, hfails htomorrow, bind, Except.bind]
  | after he =>
    obtain ⟨previous, rise, heq⟩ := he.exists_fromEvening hd
    rw [heq]
    simp [fromEvening, hfails htomorrow, bind, Except.bind]
  | later he hn hb =>
    obtain ⟨previous, rise, heq⟩ := he.exists_fromEvening hd
    rw [heq]
    obtain ⟨hout, rfl⟩ | ⟨hcalendar, hask⟩ := hs
    · have hshift : (d.plus 1).shift 1 = .error .outOfRange :=
        (d.shift_plus 1 1).trans (if_neg (Bool.not_eq_true _ ▸ hout))
      simp [fromEvening, hn, hb, hshift, bind, Except.bind]
    · have hshift : (d.plus 1).shift 1 = .ok (d.plus 2) := (d.shift_plus 1 1).trans (if_pos hcalendar)
      simp [fromEvening, hn, hb, hshift, hask, bind, Except.bind]

end

/-! ### Evaluations -/

/-- An evaluation at an instant leaves the calendar: the day before or the day after is not in it, or a
question that the evaluation comes to is about a day that is not in it, or is answered by saying so. -/
def LeavesCalendar (ask : Query → Except Failure Moment) (zone : Zone) (i : Int) : Prop :=
  ((Moment.dayIn zone i).plus (-1)).inCalendar = false ∨ ((Moment.dayIn zone i).plus 1).inCalendar = false ∨
    ∃ q, Reaches ask (Moment.dayIn zone i) q ∧ IsStuck ask q .outOfRange

section

variable {calculator : Calculator} {location : Location} {zone : Zone} {i : Int}

theorem evaluate_eq_error_iff {now : Moment} {e : Failure} :
    evaluate calculator (some location) now zone = .error e ↔
      evaluateWith (fun query => calculator location query zone) now zone = .error e := by
  rw [evaluate]
  cases evaluateWith (fun query => calculator location query zone) now zone with
  | error failure => simp [Functor.map, Except.map]
  | ok b => simp [Functor.map, Except.map]

/-- **An evaluation at an instant of the calendar** comes to boundaries, or the events could not be
determined, or it leaves the calendar, which is then the failure. -/
theorem evaluate_ofInstant (ha : AnswersIn zone fun query => calculator location query zone)
    (hi : Moment.inCalendar i = true) :
    ((∃ b, evaluate calculator (some location) (.ofInstant i) zone = .ok (some b)) ∨
      (∃ e, evaluate calculator (some location) (.ofInstant i) zone = .error e ∧ e.kind = .calculation) ∨
      evaluate calculator (some location) (.ofInstant i) zone = .error .outOfRange) ∧
    (evaluate calculator (some location) (.ofInstant i) zone = .error .outOfRange ↔
      LeavesCalendar (fun query => calculator location query zone) zone i) := by
  simp only [evaluate_eq_ok_some_iff, evaluate_eq_error_iff]
  by_cases hdays : ((Moment.dayIn zone i).plus (-1)).inCalendar = true ∧
      ((Moment.dayIn zone i).plus 1).inCalendar = true
  · have hd := (Moment.adjacentDays_ofInstant hi).mpr ⟨hdays.1, hdays.2, rfl⟩
    have hstuck : LeavesCalendar (fun query => calculator location query zone) zone i →
        evaluateWith (fun query => calculator location query zone) (.ofInstant i) zone =
          .error .outOfRange := by
      rintro (hyesterday | htomorrow | ⟨q, hq, hs⟩)
      · rw [hdays.1] at hyesterday
        cases hyesterday
      · rw [hdays.2] at htomorrow
        cases htomorrow
      · exact evaluateWith_of_isStuck hd hq hs
    obtain ⟨b, hb⟩ | herror | ⟨q, e, hq, hs, herror⟩ := evaluateWith_cases ha hd
    · refine ⟨.inl ⟨b, hb⟩, fun h => ?_, hstuck⟩
      rw [hb] at h
      cases h
    · refine ⟨.inr (.inl ⟨_, herror, rfl⟩), fun h => ?_, hstuck⟩
      rw [herror] at h
      cases h
    · refine ⟨.inr ?_, fun h => ?_, hstuck⟩
      · obtain ⟨-, rfl⟩ | ⟨-, hask⟩ := hs
        · exact .inr herror
        · obtain hkind | rfl := ha.fails q e hask
          · exact .inl ⟨e, herror, hkind⟩
          · exact .inr herror
      · obtain rfl : e = .outOfRange := Except.error.inj (herror.symm.trans h)
        exact .inr (.inr ⟨q, hq, hs⟩)
  · -- The days around the instant are not there, and that is all that can be wrong with them.
    have hout : evaluateWith (fun query => calculator location query zone) (.ofInstant i) zone =
        .error .outOfRange := by
      cases hd : (Moment.ofInstant i).adjacentDays zone with
      | ok days =>
        obtain ⟨hyesterday, htomorrow, -⟩ := (Moment.adjacentDays_ofInstant hi).mp hd
        exact absurd ⟨hyesterday, htomorrow⟩ hdays
      | error e =>
        rw [Moment.eq_of_adjacentDays_error (Option.some_ne_none _) hd] at hd
        simp [evaluateWith, known_except, hd, bind, Except.bind]
    refine ⟨.inr (.inr hout), fun _ => ?_, fun _ => hout⟩
    rw [not_and_or, Bool.not_eq_true, Bool.not_eq_true] at hdays
    exact hdays.imp_right .inl

/-- **After an evaluation the line is written.** -/
theorem exists_report_of_evaluate {b : Boundaries} {now : Moment}
    (h : evaluate calculator (some location) now zone = .ok (some b)) : ∃ r, b.report (some now) = .ok r := by
  obtain ⟨n, -, hnight, hnext⟩ := exists_outlook h
  obtain ⟨_, _, _, _, _, hb⟩ := boundariesOf_of_evaluateWith (evaluate_eq_ok_some_iff.mp h)
  have hin : ∀ millis ∈ [b.previousSunset, b.sunrise, b.sunset, b.nextSunrise],
      Moment.ofMillis millis = .ok (.ofInstant (millis * 1000)) := fun millis hmillis =>
    Moment.ofMillis_of_inCalendar (inCalendar_of_boundariesOf hb hmillis)
  simp only [List.mem_cons, List.not_mem_nil, or_false, forall_eq_or_imp, forall_eq] at hin
  obtain ⟨hp, hr, hs, hx⟩ := hin
  simp [Boundaries.report, Boundaries.outlook, hp, hr, hs, hx, hnight, hnext, bind, Except.bind, pure,
    Except.pure]

end

/-! ### The sun's course -/

theorem Zone.isKnown_of_resolve {name : Option String} {zone : Zone} (h : Zone.resolve name = .ok zone) :
    zone.IsKnown := by
  simp only [Zone.resolve] at h
  split at h
  · cases h
    trivial
  · split at h
    · cases h
      trivial
    · split at h
      case h_1 r hr =>
        cases h
        exact List.mem_of_find?_eq_some hr
      case h_2 => cases h

namespace Solar

variable {event : Event} {location : Location} {d : Day} {zone : Zone}

theorem exists_of_momentOf {m : Moment} (h : momentOf event location d zone = .ok (some m)) :
    ∃ i, Moment.inCalendar i = true ∧ (Moment.ofInstant i).inZone zone = .ok m := by
  rw [momentOf] at h
  split at h
  · cases h
  · simp only [bind_eq_ok_iff] at h
    obtain ⟨wall, hwall, moment, hmoment, hdone⟩ := h
    cases hdone
    obtain ⟨hin, rfl⟩ := Moment.inCalendar_of_checked hwall
    exact ⟨_, hin, hmoment⟩

theorem eq_of_momentOf_error {e : Failure} (h : momentOf event location d zone = .error e) :
    e = .outOfRange := by
  rw [momentOf] at h
  split at h
  · cases h
  · simp only [bind_eq_error_iff] at h
    obtain hwall | ⟨wall, -, hmoment | ⟨moment, -, hdone⟩⟩ := h
    · exact Moment.eq_of_checked_error hwall
    · exact Moment.eq_of_inZone_error (Option.some_ne_none _) hmoment
    · cases hdone

/-- An answer of the sun's course is the moment of the event for some day. -/
theorem exists_of_calculator {q : Query} {m : Moment} (h : calculator location q zone = .ok m) :
    ∃ d, momentOf q.event location d zone = .ok (some m) := by
  simp only [calculator, bind_eq_ok_iff] at h
  obtain ⟨found, hfound, moment, hmoment, h⟩ := h
  cases found with
  | none => cases hmoment
  | some first =>
    cases hmoment
    split at h
    · cases h
      exact ⟨_, hfound⟩
    · simp only [bind_eq_ok_iff] at h
      obtain ⟨other, -, found, hother, moment, hmoment, h⟩ := h
      cases found with
      | none => cases hmoment
      | some second =>
        cases hmoment
        split at h
        · cases h
          exact ⟨other, hother⟩
        · cases h

/-- The sun's course has no answer where there is no event on the day, or where it leaves the calendar. -/
theorem fails_of_calculator {q : Query} {e : Failure} (h : calculator location q zone = .error e) :
    e.kind = .calculation ∨ e = .outOfRange := by
  simp only [calculator, bind_eq_error_iff] at h
  obtain hleaves | ⟨found, -, h⟩ := h
  · exact .inr (eq_of_momentOf_error hleaves)
  · cases found with
    | none =>
      obtain hnone | ⟨_, hsome, -⟩ := h
      · cases hnone
        exact .inl rfl
      · cases hsome
    | some first =>
      obtain hnone | ⟨moment, hsome, h⟩ := h
      · cases hnone
      · cases hsome
        split at h
        · cases h
        · simp only [bind_eq_error_iff] at h
          obtain hshift | ⟨other, -, hleaves | ⟨found, -, h⟩⟩ := h
          · exact .inr (Moment.eq_of_shift_error hshift).1
          · exact .inr (eq_of_momentOf_error hleaves)
          · cases found with
            | none =>
              obtain hnone | ⟨_, hsome, -⟩ := h
              · cases hnone
                exact .inl rfl
              · cases hsome
            | some second =>
              obtain hnone | ⟨moment, hsome, h⟩ := h
              · cases hnone
              · split at h <;> cases h
                exact .inl rfl

/-- **The sun's course answers in every known zone.** -/
theorem answersIn (location : Location) (h : zone.IsKnown) :
    AnswersIn zone fun query => calculator location query zone := by
  constructor
  case inZone =>
    intro q m hm
    obtain ⟨d, hd⟩ := exists_of_calculator hm
    obtain ⟨i, -, hi⟩ := exists_of_momentOf hd
    obtain ⟨-, -, rfl⟩ :=
      (Moment.inZone_eq_ok_iff (Moment.instant?_ofInstant i) (Moment.not_isNamed_ofInstant zone i)).mp hi
    rfl
  case inCalendar =>
    intro q m hm
    obtain ⟨d, hd⟩ := exists_of_calculator hm
    obtain ⟨i, hin, hi⟩ := exists_of_momentOf hd
    exact ⟨i, Moment.instant?_of_inZone h (Moment.instant?_ofInstant i) hi, hin⟩
  case fails => exact fun q e he => fails_of_calculator he

end Solar

end Daylight
