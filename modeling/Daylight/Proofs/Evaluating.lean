import Daylight.Proofs.SunEvents

/-!
# What an evaluation comes to

An evaluation finds the days around its moment, asks for their events, and makes boundaries of four of the
answers. `boundariesOf_eq_ok_iff` says when four answers become boundaries, and which.

## What is proved

* `exists_outlook`: after an evaluation nothing fails. At its moment the boundaries say whether it is
  night, and what comes next; both moments are in the calendar.
* `inquire_outcome`: an inquiry, which records the questions, has the outcome of the plain evaluation.
  Both are one program for two ways of asking, so the proof goes through the program once, step by
  step, with `SameOutcome` as what the two ways have in common.
* `consecutive_boundaries`: in an alternating course, the four events that an evaluation looks for are
  neighbours.
* `DailyTimes.follows_course`, `DailyTimes.isAlternating_course`: the same times on every day are such
  a course, whichever of the two comes first.
-/

namespace Daylight

/-! ### The days and the location -/

theorem known_except {α : Type} (x : Except Failure α) : (known x : Except Failure α) = x := by
  cases x <;> rfl

/-- An evaluation that comes to boundaries has found the days around the moment. -/
theorem adjacentDays_of_evaluateWith {ask : Query → Except Failure Moment} {now : Moment} {zone : Zone}
    {b : Boundaries} (h : evaluateWith ask now zone = .ok b) :
    ∃ days, now.adjacentDays zone = .ok days := by
  rw [evaluateWith, bind_eq_ok_iff] at h
  obtain ⟨days, hd, -⟩ := h
  exact ⟨days, by rwa [known_except] at hd⟩

theorem evaluate_eq_ok_some_iff {calculator : Calculator} {location : Location} {now : Moment}
    {zone : Zone} {b : Boundaries} :
    evaluate calculator (some location) now zone = .ok (some b) ↔
      evaluateWith (fun query => calculator location query zone) now zone = .ok b := by
  rw [evaluate]
  cases evaluateWith (fun query => calculator location query zone) now zone with
  | error e => simp [Functor.map, Except.map]
  | ok b' => simp [Functor.map, Except.map]

/-- An evaluation that comes to boundaries has a location, and an instant of the calendar. -/
theorem inCalendar_of_evaluate {calculator : Calculator} {location : Option Location} {now : Moment}
    {zone : Zone} {b : Boundaries} (h : evaluate calculator location now zone = .ok (some b)) :
    ∃ i, now.instant? = some i ∧ Moment.inCalendar i = true := by
  cases location with
  | none => simp [evaluate] at h
  | some location =>
    obtain ⟨days, hd⟩ := adjacentDays_of_evaluateWith (evaluate_eq_ok_some_iff.mp h)
    exact Moment.inCalendar_of_adjacentDays hd

/-! ### Boundaries -/

theorem make_eq_ok_iff {p r s x : Int} {b : Boundaries} :
    Boundaries.make p r s x = .ok b ↔
      p = b.previousSunset ∧ r = b.sunrise ∧ s = b.sunset ∧ x = b.nextSunrise := by
  unfold Boundaries.make
  constructor
  · intro h
    split at h
    · simp only [Except.ok.injEq] at h
      subst h
      exact ⟨rfl, rfl, rfl, rfl⟩
    · cases h
  · rintro ⟨rfl, rfl, rfl, rfl⟩
    exact dif_pos b.ordered

/-- Four moments become boundaries when the boundaries are their milliseconds; that they are in order
is part of what boundaries are. -/
theorem boundariesOf_eq_ok_iff {today : Day} {p r s x : Moment} {b : Boundaries} :
    boundariesOf today p r s x = .ok b ↔
      p.toMillis = .ok b.previousSunset ∧ r.toMillis = .ok b.sunrise ∧
        s.toMillis = .ok b.sunset ∧ x.toMillis = .ok b.nextSunrise := by
  simp only [boundariesOf]
  constructor
  · intro h
    split at h
    · rename_i b' hb
      obtain rfl : b' = b := Except.ok.inj h
      simp only [bind_eq_ok_iff, make_eq_ok_iff] at hb
      obtain ⟨r', hr, s', hs, p', hp, x', hx, rfl, rfl, rfl, rfl⟩ := hb
      exact ⟨hp, hr, hs, hx⟩
    · split at h <;> cases h
  · rintro ⟨hp, hr, hs, hx⟩
    have hb : (do
        let sunrise ← r.toMillis
        let sunset ← s.toMillis
        let previousSunset ← p.toMillis
        let nextSunrise ← x.toMillis
        Boundaries.make previousSunset sunrise sunset nextSunrise) = .ok b := by
      simp only [bind_eq_ok_iff]
      exact ⟨_, hr, _, hs, _, hp, _, hx, make_eq_ok_iff.mpr ⟨rfl, rfl, rfl, rfl⟩⟩
    rw [hb]

/-- Whatever way an evaluation goes, it ends with four moments. -/
theorem boundariesOf_of_evaluateWith {ask : Query → Except Failure Moment} {now : Moment} {zone : Zone}
    {b : Boundaries} (h : evaluateWith ask now zone = .ok b) :
    ∃ today p r s x, boundariesOf today p r s x = .ok b := by
  simp only [evaluateWith, known_except, bind_eq_ok_iff] at h
  obtain ⟨days, -, r, -, same, -, follows, -, h⟩ := h
  split at h
  -- whichever sunset is asked for, tomorrow's sunrise is the last one, or the one after it is
  all_goals
    simp only [bind_eq_ok_iff] at h
    obtain ⟨other, -, pair, -, x, -, later, -, h⟩ := h
    split at h
    · simp only [bind_eq_ok_iff] at h
      obtain ⟨x', -, h⟩ := h
      exact ⟨_, _, _, _, _, h⟩
    · simp only [bind_eq_ok_iff] at h
      obtain ⟨dayAfter, -, x', -, h⟩ := h
      exact ⟨_, _, _, _, _, h⟩

/-- Whatever comes next, it is one of the boundaries. -/
theorem transitionAfter_mem (b : Boundaries) (millis : Int) :
    b.transitionAfter millis ∈ [b.previousSunset, b.sunrise, b.sunset, b.nextSunrise] := by
  unfold Boundaries.transitionAfter
  split
  · simp
  · split <;> simp

/-- Boundaries that were made of moments lie in the calendar. -/
theorem inCalendar_of_boundariesOf {today : Day} {p r s x : Moment} {b : Boundaries}
    (h : boundariesOf today p r s x = .ok b) {millis : Int}
    (hm : millis ∈ [b.previousSunset, b.sunrise, b.sunset, b.nextSunrise]) :
    Moment.inCalendar (millis * 1000) = true := by
  have hfloor : ∀ {m : Moment} {count : Int}, m.toMillis = .ok count →
      Moment.inCalendar (count * 1000) = true := by
    intro m count ht
    obtain ⟨i, -, hi, rfl⟩ := Moment.instant?_of_toMillis ht
    exact Moment.inCalendar_floor hi
  obtain ⟨hp, hr, hs, hx⟩ := boundariesOf_eq_ok_iff.mp h
  simp only [List.mem_cons, List.not_mem_nil, or_false] at hm
  rcases hm with rfl | rfl | rfl | rfl
  · exact hfloor hp
  · exact hfloor hr
  · exact hfloor hs
  · exact hfloor hx

/-- **After an evaluation nothing fails**: at the moment of the evaluation its boundaries say whether
it is night, and what comes next. -/
theorem exists_outlook {calculator : Calculator} {location : Option Location} {now : Moment}
    {zone : Zone} {b : Boundaries} (h : evaluate calculator location now zone = .ok (some b)) :
    ∃ n, Boundaries.millisOf now = .ok n ∧ b.isNight now = .ok (b.isNightAt n) ∧
      b.nextTransition now = .ok (.ofInstant (b.transitionAfter n * 1000)) := by
  obtain ⟨i, hi, hc⟩ := inCalendar_of_evaluate h
  have hn := Boundaries.millisOf_of_instant? hi hc
  refine ⟨i / 1000, hn, ?_, ?_⟩
  · simp only [Boundaries.isNight, hn]
    rfl
  · cases location with
    | none => simp [evaluate] at h
    | some location =>
      obtain ⟨_, _, _, _, _, hb⟩ := boundariesOf_of_evaluateWith (evaluate_eq_ok_some_iff.mp h)
      have hin := inCalendar_of_boundariesOf hb (transitionAfter_mem b (i / 1000))
      simp only [Boundaries.nextTransition, hn]
      exact Moment.ofMillis_of_inCalendar hin

/-! ### Recording the questions -/

/-- The recorded computation comes to the outcome of the plain one, whatever was asked before. -/
def SameOutcome {α : Type} (x : ExceptT Failure (StateM (List Query)) α) (y : Except Failure α) :
    Prop :=
  ∀ asked, (x.run.run asked).1 = y

theorem sameOutcome_pure {α : Type} (a : α) : SameOutcome (pure a) (pure a) := fun _ => rfl

theorem sameOutcome_known {α : Type} (y : Except Failure α) : SameOutcome (known y) (known y) := by
  intro asked
  cases y <;> rfl

theorem sameOutcome_bind {α β : Type} {x : ExceptT Failure (StateM (List Query)) α}
    {y : Except Failure α} {f : α → ExceptT Failure (StateM (List Query)) β}
    {g : α → Except Failure β} (hx : SameOutcome x y) (hf : ∀ a, SameOutcome (f a) (g a)) :
    SameOutcome (x >>= f) (y >>= g) := by
  intro asked
  have hrun := hx asked
  rw [ExceptT.run_bind, StateT.run_bind]
  cases hr : x.run.run asked with
  | mk outcome after =>
    rw [hr] at hrun
    subst hrun
    cases outcome with
    | error e => rfl
    | ok a => exact hf a after

/-- **Recording the questions does not change the outcome.** -/
theorem inquire_outcome (calculator : Calculator) (location : Option Location) (now : Moment)
    (zone : Zone) :
    (inquire calculator location now zone).outcome = evaluate calculator location now zone := by
  cases location with
  | none => rfl
  | some location =>
    let recorded : Query → ExceptT Failure (StateM (List Query)) Moment := fun query => do
      modify (· ++ [query])
      known (calculator location query zone)
    have ask : ∀ query, SameOutcome (recorded query) (calculator location query zone) := by
      intro query asked
      cases hq : calculator location query zone <;> simp only [recorded, hq] <;> rfl
    have same : SameOutcome (evaluateWith recorded now zone)
        (evaluateWith (fun query => calculator location query zone) now zone) := by
      unfold evaluateWith
      refine sameOutcome_bind (sameOutcome_known _) fun days => ?_
      refine sameOutcome_bind (ask _) fun sunrise => ?_
      refine sameOutcome_bind (ask _) fun sameDay => ?_
      refine sameOutcome_bind (sameOutcome_known _) fun follows => ?_
      dsimp only
      -- both branches go on in the same way, with another pair of sunsets
      split <;>
        refine sameOutcome_bind (ask _) fun _ => sameOutcome_bind (sameOutcome_pure _) fun pair => ?_
      all_goals
        refine sameOutcome_bind (ask _) fun nextSunrise => ?_
        refine sameOutcome_bind (sameOutcome_known _) fun later => ?_
        split
        · exact sameOutcome_bind (sameOutcome_pure _) fun _ => sameOutcome_known _
        · exact sameOutcome_bind (sameOutcome_known _) fun _ =>
            sameOutcome_bind (ask _) fun _ => sameOutcome_known _
    simp only [evaluate]
    rw [← same []]
    rfl

/-! ### Following a course -/

/-- A calculator that tells, for a location and a zone, when the events of a course take place. In which
zones it writes the moments is left open. -/
def Calculator.Follows (calculator : Calculator) (location : Location) (zone : Zone) (c : Course) :
    Prop :=
  ∀ q : Query, q.day.inCalendar = true →
    ∃ m, calculator location q zone = .ok m ∧ m.instant? = some (c q)

/-- Whatever the calculator says of an event is at its instant. -/
theorem Calculator.Follows.instant? {calculator : Calculator} {location : Location} {zone : Zone}
    {c : Course} (hc : calculator.Follows location zone c) {q : Query} (hq : q.day.inCalendar = true)
    {m : Moment} (hm : calculator location q zone = .ok m) : m.instant? = some (c q) := by
  obtain ⟨told, htold, hi⟩ := hc q hq
  obtain rfl : told = m := Except.ok.inj (htold.symm.trans hm)
  exact hi

/-- The sunset that an evaluation takes for the one before, when `first` comes first on every day. -/
def AdjacentDays.sunsetBefore (days : AdjacentDays) : Event → Query
  | .sunrise => ⟨.sunset, days.yesterday⟩
  | .sunset => ⟨.sunset, days.today⟩

/-- The sunset that an evaluation takes for the end of the day. -/
def AdjacentDays.sunsetAfter (days : AdjacentDays) : Event → Query
  | .sunrise => ⟨.sunset, days.today⟩
  | .sunset => ⟨.sunset, days.tomorrow⟩

section

variable {zone : Zone} {offset : Int} {c : Course} {now : Moment} {days : AdjacentDays} {first : Event}

/-- The days around a moment, counted from the middle one, are days of the calendar. -/
theorem days_inCalendar (hz : zone.HasOffset offset) (hd : now.adjacentDays zone = .ok days) :
    days.yesterday = days.today.plus (-1) ∧ days.tomorrow = days.today.plus 1 ∧
      days.yesterday.inCalendar = true ∧ days.today.inCalendar = true ∧
      days.tomorrow.inCalendar = true := by
  obtain ⟨i, hi, -⟩ := Moment.inCalendar_of_adjacentDays hd
  obtain ⟨-, hy, ht, hyc, htc⟩ := Moment.adjacentDays_of_hasOffset hz hi hd
  refine ⟨hy, ht, hyc, ?_, htc⟩
  rw [hy] at hyc
  rw [ht] at htc
  have htoday := Day.inCalendar_between hyc htc (m := 0) (by omega) (by omega)
  rwa [Day.plus_zero] at htoday

/-- **The events that the boundaries are made of are neighbours.** -/
theorem consecutive_boundaries (hz : zone.HasOffset offset) (ha : c.IsAlternating offset)
    (hd : now.adjacentDays zone = .ok days) (hf : c.ComesFirst first days.today) :
    c.Consecutive (days.sunsetBefore first) ⟨.sunrise, days.today⟩ ∧
      c.Consecutive ⟨.sunrise, days.today⟩ (days.sunsetAfter first) ∧
      c.Consecutive (days.sunsetAfter first) ⟨.sunrise, days.tomorrow⟩ := by
  obtain ⟨hy, ht, hyc, hdc, htc⟩ := days_inCalendar hz hd
  rw [hy] at hyc
  rw [ht] at htc
  cases first with
  | sunrise =>
    have hnight := ha.consecutive_night hyc (by rwa [Day.plus_back]) (ha.comesFirst_previous hyc hdc hf)
    rw [Day.plus_back, ← hy] at hnight
    refine ⟨hnight, ha.consecutive_day hdc hf, ?_⟩
    rw [ht]
    exact ha.consecutive_night hdc htc hf
  | sunset =>
    have hnight := ha.consecutive_night hdc htc hf
    have hday := ha.consecutive_day htc (ha.comesFirst_next hdc htc hf)
    rw [← ht] at hnight hday
    exact ⟨ha.consecutive_day hdc hf, hnight, hday⟩

end

/-! ### The same times on every day -/

namespace DailyTimes

/-- The time of an event. -/
def time (t : DailyTimes) : Event → Int
  | .sunrise => t.sunrise
  | .sunset => t.sunset

/-- Both events are on the day itself, and not in one millisecond. -/
structure IsRegular (t : DailyTimes) : Prop where
  /-- The sunrise is asked for the day itself. -/
  sunriseShift : t.sunriseShift = 0
  /-- The sunset is asked for the day itself. -/
  sunsetShift : t.sunsetShift = 0
  /-- Both times are times of one day. -/
  onDay : ∀ e, 0 ≤ t.time e ∧ t.time e < dayLength
  /-- They differ in milliseconds. -/
  distinct : t.sunrise / 1000 ≠ t.sunset / 1000

/-- The course of the same times on every day. -/
def course (t : DailyTimes) (offset : Int) : Course := fun q => q.day.start + t.time q.event - offset

/-- On every day, whatever the location, the events are those of the course. -/
theorem follows_course {t : DailyTimes} (h : t.IsRegular) {zone : Zone} {offset : Int}
    (hz : zone.HasOffset offset) (location : Location) :
    Calculator.Follows t.calculator location zone (t.course offset) := by
  intro q hq
  refine ⟨⟨q.day.start + t.time q.event, some zone, false⟩, ?_, ?_⟩
  · have hday : q.day.shift 0 = .ok q.day := by
      simp only [Day.shift, Day.plus_zero, hq, if_true]
    obtain ⟨e, d⟩ := q
    cases e with
    | sunrise => simp only [calculator, h.sunriseShift, hday, time]; rfl
    | sunset => simp only [calculator, h.sunsetShift, hday, time]; rfl
  · rw [Moment.instant?_eq_some_iff]
    exact ⟨zone, rfl, by rw [hz.atWall]; rfl⟩

theorem millis_course {t : DailyTimes} {offset : Int} (hw : offset % 1000 = 0) (q : Query) :
    (t.course offset).millis q = q.day.startMillis offset + t.time q.event / 1000 := by
  simp only [Course.millis, course, Day.start, Day.startMillis, Moment.millisOfDay, dayLength, second]
  omega

/-- **The same times on every day alternate**, whichever comes first. -/
theorem isAlternating_course {t : DailyTimes} (h : t.IsRegular) {offset : Int}
    (hw : offset % 1000 = 0) : (t.course offset).IsAlternating offset := by
  have hbound : ∀ e, 0 ≤ t.time e / 1000 ∧ t.time e / 1000 < Moment.millisOfDay := by
    intro e
    obtain ⟨h₁, h₂⟩ := h.onDay e
    simp only [dayLength, second, Moment.millisOfDay] at h₂ ⊢
    omega
  have hne : ∀ e : Event, t.time e / 1000 ≠ t.time e.other / 1000 := by
    intro e
    cases e with
    | sunrise => exact h.distinct
    | sunset => exact h.distinct.symm
  refine ⟨hw, ?_, ?_, ?_⟩
  · rintro ⟨e, ⟨d⟩⟩ -
    obtain ⟨h₁, h₂⟩ := h.onDay e
    simp only [dayLength, second] at h₂
    simp only [course, Day.ofWall, Day.start, dayLength, second, Day.mk.injEq]
    omega
  · rintro ⟨pe, ⟨pd⟩⟩ ⟨qe, ⟨qd⟩⟩ - - heq
    have hp := hbound pe
    have hq := hbound qe
    simp only [millis_course hw, Day.startMillis, Moment.millisOfDay] at heq hp hq
    obtain rfl : pd = qd := by omega
    rcases pe.eq_or_eq_other qe with rfl | rfl
    · rfl
    · exact absurd (by omega) (hne pe)
  · rintro ⟨e, ⟨pd⟩⟩ ⟨_, ⟨qd⟩⟩ hp hq rfl hlt
    have he := hbound e
    have ho := hbound e.other
    simp only [millis_course hw, Day.startMillis, Moment.millisOfDay] at hlt he ho ⊢
    -- the other event of the earlier day comes in between if it comes second, else that of the later
    rcases lt_or_gt_of_ne (hne e) with hfirst | hsecond
    · exact ⟨⟨e.other, ⟨pd⟩⟩, hp, rfl, by dsimp only; omega, by dsimp only; omega⟩
    · exact ⟨⟨e.other, ⟨qd⟩⟩, hq, rfl, by dsimp only; omega, by dsimp only; omega⟩

end DailyTimes

/-- A location far west of Greenwich. -/
def home : Location := ⟨37.4, -122.1, none, none, "unknown", by decide, by decide⟩

/-- Sunrise at 20:00 and sunset at 04:00, as in universal time when the sun is nearly half a day
away. -/
def eveningSunrise : DailyTimes := ⟨72000 * second, 14400 * second, 0, 0⟩

theorem isRegular_eveningSunrise : eveningSunrise.IsRegular where
  sunriseShift := rfl
  sunsetShift := rfl
  onDay e := by cases e <;> decide
  distinct := by decide

end Daylight
