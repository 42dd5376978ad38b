import Daylight.Proofs.Evaluating

/-!
# Wall clocks and instants

An evaluation compares two pairs of answers: the sunrise and the sunset of the day, and the sunset that
it takes for the end of the day with tomorrow's sunrise. Two moments of one zone are compared by what
the clock shows, whatever their folds. Where the clock was put back between them, the one that shows the
later reading may come first. But the boundaries are made of instants.

To see what follows from that, the evaluation is written once more with the order as a parameter
(`evaluateBy`). Told in universal time, a calculator is evaluated by the order in time; as it is, by the
order of the clock. So all depends on whether the clock tells the order of the two pairs as it is
(`Answers.TellsTime`).

Boundaries are in order by themselves. That is why a first pair in the wrong order always ends in a
failure, while a second pair in the wrong order can go unnoticed: then a sunrise is passed over.

## What is proved

* `before_eq_earlier_iff`, `before_eq_earlier_of_offset`: when the clock tells the order of two moments.
  Moments of two zones, and moments with one offset, are always in the right order.
* `evaluateWith_eq_evaluateBy`, `evaluateBy_toUtc`: the two ways of looking at an evaluation.
* `evaluateBy_congr`: an evaluation depends on nothing but the order of the two pairs.
* `tellsTime_of_offset`, `tellsTime_of_isSteady`: where all answers have one offset, or are written in zones
  whose clocks are never put forward or back, the clock tells the time.
* `nonempty_way`: the way of an evaluation that comes to boundaries, with all answers that it met.
* `tellsTime_or_passesOver`: what becomes of an evaluation that the clock misleads.
* `evaluate_inUtc_cases`: all of this together.
-/

namespace Daylight

namespace Moment

/-- Whether a moment is before another one in time. -/
def earlier (a b : Moment) : Except Failure Bool :=
  match a.instant?, b.instant? with
  | some a, some b => .ok (a < b)
  | _, _ => .error .mixedComparison

theorem earlier_of_instant? {a b : Moment} {x y : Int} (ha : a.instant? = some x)
    (hb : b.instant? = some y) : a.earlier b = .ok (decide (x < y)) := by
  simp only [earlier, ha, hb]

/-- Moments of two zones are compared in time. -/
theorem before_of_zone_ne {a b : Moment} (h : a.zone ≠ b.zone) : a.before b = a.earlier b := by
  rw [before, if_neg h]
  rfl

/-- **When the clock tells the order of two moments**: they are of two zones, or what the clock shows is in
the same order as the instants. -/
theorem before_eq_earlier_iff {a b : Moment} {x y : Int} (ha : a.instant? = some x)
    (hb : b.instant? = some y) :
    a.before b = a.earlier b ↔ (a.zone = b.zone → (a.wall < b.wall ↔ x < y)) := by
  rw [earlier_of_instant? ha hb]
  by_cases hz : a.zone = b.zone
  · rw [before, if_pos hz, Except.ok.injEq, decide_eq_decide]
    exact ⟨fun h _ => h, fun h => h hz⟩
  · simp [before, hz, ha, hb]

/-- Moments with one offset are in the order in which the clock shows them. -/
theorem before_eq_earlier_of_offset {a b : Moment} {x y : Int} (ha : a.instant? = some x)
    (hb : b.instant? = some y) (ho : a.offset? = b.offset?) : a.before b = a.earlier b := by
  obtain ⟨offset, hoa, rfl⟩ := offset?_of_instant? ha
  obtain ⟨offset', hob, rfl⟩ := offset?_of_instant? hb
  obtain rfl : offset = offset' := Option.some.inj (hoa.symm.trans (ho.trans hob))
  rw [before_eq_earlier_iff ha hb]
  intro _
  omega

/-- A moment told in a zone with one offset. -/
def IsSteady (m : Moment) : Prop := ∃ zone offset, m.zone = some zone ∧ zone.HasOffset offset

/-- The clock tells whether such a moment is before another one, whatever that one is. -/
theorem before_eq_earlier_of_isSteady {a b : Moment} (h : a.IsSteady) : a.before b = a.earlier b := by
  obtain ⟨zone, offset, hza, hz⟩ := h
  by_cases hzone : a.zone = b.zone
  · have ha : a.instant? = some (a.wall - offset) := instant?_eq_some_iff.mpr ⟨zone, hza, by rw [hz.atWall]⟩
    have hb : b.instant? = some (b.wall - offset) :=
      instant?_eq_some_iff.mpr ⟨zone, hzone.symm.trans hza, by rw [hz.atWall]⟩
    rw [before_eq_earlier_iff ha hb]
    intro _
    omega
  · exact before_of_zone_ne hzone

/-- What can be compared by the clock can be compared in time, where one of the two has an instant. -/
theorem exists_earlier {a b : Moment} {x : Int} {shown : Bool} (ha : a.instant? = some x)
    (h : a.before b = .ok shown) : ∃ told, a.earlier b = .ok told := by
  by_cases hzone : a.zone = b.zone
  · obtain ⟨zone, hza, -⟩ := instant?_eq_some_iff.mp ha
    have hb := instant?_eq_some_iff.mpr ⟨zone, hzone.symm.trans hza, rfl⟩
    exact ⟨_, earlier_of_instant? ha hb⟩
  · exact ⟨shown, before_of_zone_ne hzone ▸ h⟩

end Moment

/-! ### Evaluating by an order -/

/-- What a calculator says at one location and in one zone. -/
abbrev Answers := Query → Except Failure Moment

/-- Which of the two events comes first, when it is known whether the sunset follows the sunrise. -/
def firstOf (follows : Bool) : Event := if follows then .sunrise else .sunset

section

variable (order : Moment → Moment → Except Failure Bool) (ask : Answers)

/-- The end of an evaluation: with the sunrise of the day and the two sunsets around it known, the sunrise
after is asked for. -/
def finishBy (days : AdjacentDays) (sunrise sunset previous : Moment) : Except Failure Boundaries := do
  let next ← ask ⟨.sunrise, days.tomorrow⟩
  let later ← order sunset next
  if later then boundariesOf days.today previous sunrise sunset next
  else do
    let dayAfter ← days.tomorrow.shift 1
    let next ← ask ⟨.sunrise, dayAfter⟩
    boundariesOf days.today previous sunrise sunset next

/-- The boundaries around a moment, when `order` says which of two answers comes first. -/
def evaluateBy (now : Moment) (zone : Zone) : Except Failure Boundaries := do
  let days ← now.adjacentDays zone
  let sunrise ← ask ⟨.sunrise, days.today⟩
  let sameDay ← ask ⟨.sunset, days.today⟩
  let follows ← order sunrise sameDay
  if follows then do
    let previous ← ask ⟨.sunset, days.yesterday⟩
    finishBy order ask days sunrise sameDay previous
  else do
    let next ← ask ⟨.sunset, days.tomorrow⟩
    finishBy order ask days sunrise next sameDay

end

theorem bind_congr_of_ok {α β : Type} {x : Except Failure α} {f g : α → Except Failure β}
    (h : ∀ a, x = .ok a → f a = g a) : x >>= f = x >>= g := by
  cases x with
  | error e => rfl
  | ok a => exact h a rfl

/-- An evaluation goes by what the clock shows. -/
theorem evaluateWith_eq_evaluateBy (ask : Answers) (now : Moment) (zone : Zone) :
    evaluateWith ask now zone = evaluateBy Moment.before ask now zone := by
  simp only [evaluateWith, evaluateBy, finishBy, known_except]
  refine bind_congr fun days => bind_congr fun sunrise => bind_congr fun sameDay =>
    bind_congr fun follows => ?_
  cases follows
  all_goals simp only [Bool.false_eq_true, if_true, if_false, pure_bind]

section

variable {order : Moment → Moment → Except Failure Bool} {ask : Answers} {now : Moment} {zone : Zone}
  {days : AdjacentDays} {r s p t x y : Moment} {follows : Bool} {b : Boundaries}

/-- The way of an evaluation, up to the sunrise after. -/
theorem evaluateBy_eq (hd : now.adjacentDays zone = .ok days) (hr : ask ⟨.sunrise, days.today⟩ = .ok r)
    (hs : ask ⟨.sunset, days.today⟩ = .ok s) (ho : order r s = .ok follows)
    (hp : ask (days.sunsetBefore (firstOf follows)) = .ok p)
    (ht : ask (days.sunsetAfter (firstOf follows)) = .ok t) :
    evaluateBy order ask now zone = finishBy order ask days r t p := by
  simp only [evaluateBy, hd, hr, hs, ho, bind, Except.bind]
  cases follows with
  | true =>
    obtain rfl : s = t := Except.ok.inj (hs.symm.trans ht)
    have hp' : ask ⟨.sunset, days.yesterday⟩ = .ok p := hp
    simp only [if_true, hp']
  | false =>
    obtain rfl : s = p := Except.ok.inj (hs.symm.trans hp)
    have ht' : ask ⟨.sunset, days.tomorrow⟩ = .ok t := ht
    simp only [Bool.false_eq_true, if_false, ht']

/-- When tomorrow's sunrise is found to be later than the sunset, it is the sunrise after. -/
theorem finishBy_of_later (hx : ask ⟨.sunrise, days.tomorrow⟩ = .ok x) (ho : order t x = .ok true) :
    finishBy order ask days r t p = boundariesOf days.today p r t x := by
  simp only [finishBy, hx, ho, bind, Except.bind, if_true]

end

/-- The sunrise that an evaluation takes for the one after: tomorrow's if that is later than the sunset, and
else the one of the day after. -/
def AdjacentDays.sunriseAfter (days : AdjacentDays) (later : Bool) : Query :=
  ⟨.sunrise, if later then days.tomorrow else days.tomorrow.plus 1⟩

/-- The way of an evaluation to its boundaries, with all answers that it met. -/
structure Way (order : Moment → Moment → Except Failure Bool) (ask : Answers) (now : Moment) (zone : Zone)
    (b : Boundaries) where
  /-- The days around the moment. -/
  days : AdjacentDays
  /-- The sunrise of the day. -/
  sunrise : Moment
  /-- The sunset of the day. -/
  sameDay : Moment
  /-- Whether this sunset follows the sunrise. -/
  follows : Bool
  /-- The sunset before. -/
  previous : Moment
  /-- The sunset that ends the day. -/
  sunset : Moment
  /-- Tomorrow's sunrise. -/
  next : Moment
  /-- Whether it is later than that sunset. -/
  later : Bool
  /-- The sunrise after. -/
  last : Moment
  hasDays : now.adjacentDays zone = .ok days
  hasSunrise : ask ⟨.sunrise, days.today⟩ = .ok sunrise
  hasSameDay : ask ⟨.sunset, days.today⟩ = .ok sameDay
  compares : order sunrise sameDay = .ok follows
  hasPrevious : ask (days.sunsetBefore (firstOf follows)) = .ok previous
  hasSunset : ask (days.sunsetAfter (firstOf follows)) = .ok sunset
  hasNext : ask ⟨.sunrise, days.tomorrow⟩ = .ok next
  comparesNext : order sunset next = .ok later
  hasLast : ask (days.sunriseAfter later) = .ok last
  inCalendar : (days.sunriseAfter later).day.inCalendar = true
  ends : boundariesOf days.today previous sunrise sunset last = .ok b

section

variable {order : Moment → Moment → Except Failure Bool} {ask : Answers} {now : Moment} {zone : Zone}
  {days : AdjacentDays} {r p t : Moment} {b : Boundaries}

/-- The end of an evaluation that comes to boundaries. -/
theorem exists_of_finishBy (hd : now.adjacentDays zone = .ok days)
    (h : finishBy order ask days r t p = .ok b) :
    ∃ next later last, ask ⟨.sunrise, days.tomorrow⟩ = .ok next ∧ order t next = .ok later ∧
      ask (days.sunriseAfter later) = .ok last ∧ (days.sunriseAfter later).day.inCalendar = true ∧
      boundariesOf days.today p r t last = .ok b := by
  simp only [finishBy, bind_eq_ok_iff] at h
  obtain ⟨next, hn, later, ho, h⟩ := h
  cases later with
  | true =>
    simp only [if_true] at h
    obtain ⟨moved, -, -, -, ht, rfl⟩ := Moment.adjacentDays_eq_ok_iff.mp hd
    exact ⟨next, true, next, hn, ho, hn, ht, h⟩
  | false =>
    simp only [Bool.false_eq_true, if_false, bind_eq_ok_iff] at h
    obtain ⟨dayAfter, hshift, last, hl, h⟩ := h
    rw [Day.shift] at hshift
    split at hshift
    case isTrue hin =>
      obtain rfl : days.tomorrow.plus 1 = dayAfter := Except.ok.inj hshift
      exact ⟨next, false, last, hn, ho, hl, hin, h⟩
    case isFalse => cases hshift

/-- **An evaluation that comes to boundaries has gone its way.** -/
theorem nonempty_way (h : evaluateBy order ask now zone = .ok b) : Nonempty (Way order ask now zone b) := by
  simp only [evaluateBy, bind_eq_ok_iff] at h
  obtain ⟨days, hd, r, hr, s, hs, follows, ho, h⟩ := h
  cases follows with
  | true =>
    simp only [if_true, bind_eq_ok_iff] at h
    obtain ⟨p, hp, h⟩ := h
    obtain ⟨x, later, y, hx, hlater, hy, hin, hb⟩ := exists_of_finishBy hd h
    exact ⟨⟨days, r, s, true, p, s, x, later, y, hd, hr, hs, ho, hp, hs, hx, hlater, hy, hin, hb⟩⟩
  | false =>
    simp only [Bool.false_eq_true, if_false, bind_eq_ok_iff] at h
    obtain ⟨t, ht, h⟩ := h
    obtain ⟨x, later, y, hx, hlater, hy, hin, hb⟩ := exists_of_finishBy hd h
    exact ⟨⟨days, r, s, false, s, t, x, later, y, hd, hr, hs, ho, hs, ht, hx, hlater, hy, hin, hb⟩⟩

end

/-! ### Answers in universal time -/

/-- The moment stands for an instant of the calendar. -/
structure Moment.IsAt (m : Moment) (i : Int) : Prop where
  /-- The instant. -/
  instant : m.instant? = some i
  /-- It lies in the calendar. -/
  inCalendar : Moment.inCalendar i = true

/-- A moment with a zone that can be read in universal time. -/
def Moment.IsConvertible (m : Moment) : Prop := m.zone.isSome = true ∧ m.toUtc.isOk = true

instance (m : Moment) : Decidable m.IsConvertible :=
  inferInstanceAs (Decidable (m.zone.isSome = true ∧ m.toUtc.isOk = true))

/-- All answers have a zone and can be read in universal time. -/
def Answers.IsConvertible (ask : Answers) : Prop := ∀ q m, ask q = .ok m → m.IsConvertible

/-- The answers of a calculator at one location and in one zone. -/
def Calculator.answers (calculator : Calculator) (location : Location) (zone : Zone) : Answers :=
  fun query => calculator location query zone

/-- The calculator with every answer read in universal time. -/
def Calculator.inUtc (calculator : Calculator) : Calculator := fun location query zone => do
  let told ← calculator location query zone
  told.toUtc

namespace Moment

/-- What can be read in universal time stands for an instant of the calendar. -/
theorem IsConvertible.exists_isAt {m : Moment} (h : m.IsConvertible) : ∃ i, m.IsAt i := by
  obtain ⟨hzone, hutc⟩ := h
  obtain ⟨zone, hz⟩ := Option.isSome_iff_exists.mp hzone
  have hi : m.instant? = some (m.wall - zone.offsetAtWall m.fold m.wall) :=
    instant?_eq_some_iff.mpr ⟨zone, hz, rfl⟩
  refine ⟨_, hi, ?_⟩
  by_contra hc
  have hfails : m.toUtc = .error .outOfRange := by
    simp only [toUtc, hz]
    rw [inZone_of_instant? hi (by simp [Zone.utc, Zone.isNamed])]
    simp [checked, hc, bind, Except.bind]
  rw [hfails] at hutc
  cases hutc

theorem before_ofInstant (i j : Int) : (ofInstant i).before (ofInstant j) = .ok (decide (i < j)) :=
  if_pos rfl

theorem IsAt.toMillis {m : Moment} {i : Int} (h : m.IsAt i) : m.toMillis = .ok (i / 1000) :=
  toMillis_of_instant? h.instant h.inCalendar

/-- What is read in universal time has the same milliseconds. -/
theorem IsAt.toMillis_ofInstant {m : Moment} {i : Int} (h : m.IsAt i) :
    (ofInstant i).toMillis = m.toMillis :=
  (toMillis_of_instant? (instant?_ofInstant i) h.inCalendar).trans h.toMillis.symm

end Moment

/-- Boundaries depend on the milliseconds of the four moments only. -/
theorem boundariesOf_congr {today : Day} {p r s x p' r' s' x' : Moment} (hp : p'.toMillis = p.toMillis)
    (hr : r'.toMillis = r.toMillis) (hs : s'.toMillis = s.toMillis) (hx : x'.toMillis = x.toMillis) :
    boundariesOf today p' r' s' x' = boundariesOf today p r s x := by
  simp only [boundariesOf, hp, hr, hs, hx]

section

variable {ask : Answers} {now : Moment} {zone : Zone} {days : AdjacentDays}

/-- Asking for an answer in universal time, and going on with it. -/
theorem bind_toUtc {β : Type} (hc : ask.IsConvertible) (q : Query) {f g : Moment → Except Failure β}
    (h : ∀ m i, m.IsAt i → f (.ofInstant i) = g m) : (ask q >>= Moment.toUtc) >>= f = ask q >>= g := by
  cases hq : ask q with
  | error e => rfl
  | ok m =>
    obtain ⟨i, hi⟩ := (hc q m hq).exists_isAt
    have hutc : m.toUtc = .ok (.ofInstant i) := Moment.toUtc_of_instant? hi.instant hi.inCalendar
    simpa only [bind, Except.bind, hutc] using h m i hi

theorem finishBy_toUtc (hc : ask.IsConvertible) {r s p : Moment} {i j k : Int} (hr : r.IsAt i)
    (hs : s.IsAt j) (hp : p.IsAt k) :
    finishBy Moment.before (fun q => ask q >>= Moment.toUtc) days (.ofInstant i) (.ofInstant j)
      (.ofInstant k) = finishBy Moment.earlier ask days r s p := by
  unfold finishBy
  refine bind_toUtc hc _ fun x l hx => ?_
  rw [Moment.before_ofInstant, Moment.earlier_of_instant? hs.instant hx.instant]
  refine bind_congr fun later => ?_
  cases later with
  | true =>
    simp only [if_true]
    exact boundariesOf_congr hp.toMillis_ofInstant hr.toMillis_ofInstant hs.toMillis_ofInstant
      hx.toMillis_ofInstant
  | false =>
    simp only [Bool.false_eq_true, if_false]
    refine bind_congr fun dayAfter => bind_toUtc hc _ fun y m hy => ?_
    exact boundariesOf_congr hp.toMillis_ofInstant hr.toMillis_ofInstant hs.toMillis_ofInstant
      hy.toMillis_ofInstant

/-- **Told in universal time, an evaluation goes by the order in time.** -/
theorem evaluateBy_toUtc (hc : ask.IsConvertible) :
    evaluateBy Moment.before (fun q => ask q >>= Moment.toUtc) now zone =
      evaluateBy Moment.earlier ask now zone := by
  unfold evaluateBy
  refine bind_congr fun days => bind_toUtc hc _ fun r i hr => bind_toUtc hc _ fun s j hs => ?_
  rw [Moment.before_ofInstant, Moment.earlier_of_instant? hr.instant hs.instant]
  refine bind_congr fun follows => ?_
  cases follows with
  | true =>
    simp only [if_true]
    exact bind_toUtc hc _ fun p k hp => finishBy_toUtc hc hr hs hp
  | false =>
    simp only [Bool.false_eq_true, if_false]
    exact bind_toUtc hc _ fun t k ht => finishBy_toUtc hc hr ht hs

end

/-! ### When the clock tells the time -/

/-- The pairs of answers that an evaluation has to compare. -/
inductive Answers.IsCompared (ask : Answers) (now : Moment) (zone : Zone) : Moment → Moment → Prop
  /-- Today's sunrise with today's sunset. -/
  | today {days : AdjacentDays} {r s : Moment} (hd : now.adjacentDays zone = .ok days)
      (hr : ask ⟨.sunrise, days.today⟩ = .ok r) (hs : ask ⟨.sunset, days.today⟩ = .ok s) :
      IsCompared ask now zone r s
  /-- The sunset that ends the day with tomorrow's sunrise. -/
  | tomorrow {days : AdjacentDays} {r s t x : Moment} {follows : Bool}
      (hd : now.adjacentDays zone = .ok days) (hr : ask ⟨.sunrise, days.today⟩ = .ok r)
      (hs : ask ⟨.sunset, days.today⟩ = .ok s) (ho : r.earlier s = .ok follows)
      (ht : ask (days.sunsetAfter (firstOf follows)) = .ok t)
      (hx : ask ⟨.sunrise, days.tomorrow⟩ = .ok x) : IsCompared ask now zone t x

/-- The clock tells the time of an evaluation: what has to be compared is in the order in which the clock
shows it. -/
def Answers.TellsTime (ask : Answers) (now : Moment) (zone : Zone) : Prop :=
  ∀ a b, ask.IsCompared now zone a b → a.before b = a.earlier b

section

variable {ask : Answers} {now : Moment} {zone : Zone}

/-- The clock tells the time where it tells the order of any two answers. -/
theorem tellsTime_of_forall (h : ∀ {q q' : Query} {a b : Moment}, ask q = .ok a → ask q' = .ok b →
    a.before b = a.earlier b) : ask.TellsTime now zone := by
  intro a b hcompared
  cases hcompared with
  | today _ hr hs => exact h hr hs
  | tomorrow _ _ _ _ ht hx => exact h ht hx

/-- Where all answers have one offset, the clock tells the time. -/
theorem tellsTime_of_offset (hc : ask.IsConvertible) {offset : Int}
    (ho : ∀ q m, ask q = .ok m → m.offset? = some offset) : ask.TellsTime now zone := by
  refine tellsTime_of_forall fun {q q' a b} ha hb => ?_
  obtain ⟨i, hi⟩ := (hc q a ha).exists_isAt
  obtain ⟨j, hj⟩ := (hc q' b hb).exists_isAt
  exact Moment.before_eq_earlier_of_offset hi.instant hj.instant ((ho q a ha).trans (ho q' b hb).symm)

/-- Where all answers are told in zones with one offset each, the clock tells the time. -/
theorem tellsTime_of_isSteady (hs : ∀ q m, ask q = .ok m → m.IsSteady) : ask.TellsTime now zone :=
  tellsTime_of_forall fun ha _ => Moment.before_eq_earlier_of_isSteady (hs _ _ ha)

/-- Whether the clock tells the time depends on the days around the moment only. -/
theorem tellsTime_congr {now' : Moment} (hd : now.adjacentDays zone = now'.adjacentDays zone)
    (h : ask.TellsTime now zone) : ask.TellsTime now' zone := by
  intro a b hcompared
  cases hcompared with
  | today hd' hr hs => exact h a b (.today (hd.trans hd') hr hs)
  | tomorrow hd' hr hs ho ht hx => exact h a b (.tomorrow (hd.trans hd') hr hs ho ht hx)

/-- **An evaluation depends on nothing but the order of the two pairs.** -/
theorem evaluateBy_congr (h : ask.TellsTime now zone) :
    evaluateBy Moment.before ask now zone = evaluateBy Moment.earlier ask now zone := by
  unfold evaluateBy
  refine bind_congr_of_ok fun days hd => bind_congr_of_ok fun r hr => bind_congr_of_ok fun s hs => ?_
  rw [h r s (.today hd hr hs)]
  refine bind_congr_of_ok fun follows ho => ?_
  have hfinish : ∀ t p, ask (days.sunsetAfter (firstOf follows)) = .ok t →
      finishBy Moment.before ask days r t p = finishBy Moment.earlier ask days r t p := by
    intro t p ht
    unfold finishBy
    refine bind_congr_of_ok fun x hx => ?_
    rw [h t x (.tomorrow hd hr hs ho ht hx)]
  cases follows with
  | true =>
    simp only [if_true]
    exact bind_congr_of_ok fun p hp => hfinish s p hs
  | false =>
    simp only [Bool.false_eq_true, if_false]
    exact bind_congr_of_ok fun t ht => hfinish t s ht

end

/-! ### When it does not -/

/-- **The sunrise after is passed over.** Tomorrow's sunrise is later than the sunset, but the clock does
not show it so, and the evaluation takes the sunrise of the day after in its place. -/
def Answers.PassesOver (ask : Answers) (now : Moment) (zone : Zone) : Prop :=
  ∃ days p r t x y, now.adjacentDays zone = .ok days ∧ ask ⟨.sunrise, days.tomorrow⟩ = .ok x ∧
    ask ⟨.sunrise, days.tomorrow.plus 1⟩ = .ok y ∧ t.before x = .ok false ∧ t.earlier x = .ok true ∧
    evaluateBy Moment.before ask now zone = boundariesOf days.today p r t y ∧
    evaluateBy Moment.earlier ask now zone = boundariesOf days.today p r t x

section

variable {ask : Answers} {now : Moment} {zone : Zone} {days : AdjacentDays} {p r s t x : Moment}
  {follows : Bool} {b : Boundaries}

/-- Moments whose milliseconds are in order. -/
theorem earlier_of_toMillis {m n : Int} (hr : r.toMillis = .ok m) (hs : s.toMillis = .ok n) (h : m < n) :
    r.earlier s = .ok true ∧ s.earlier r = .ok false := by
  obtain ⟨i, hi, -, rfl⟩ := Moment.instant?_of_toMillis hr
  obtain ⟨j, hj, -, rfl⟩ := Moment.instant?_of_toMillis hs
  rw [Moment.earlier_of_instant? hi hj, Moment.earlier_of_instant? hj hi]
  simp only [Except.ok.injEq, decide_eq_true_eq, decide_eq_false_iff_not]
  omega

/-- In boundaries, today's sunset is where it is looked for: after the sunrise if it was found to follow,
and before it if not. -/
theorem earlier_of_boundariesOf (hs : ask ⟨.sunset, days.today⟩ = .ok s)
    (hp : ask (days.sunsetBefore (firstOf follows)) = .ok p)
    (ht : ask (days.sunsetAfter (firstOf follows)) = .ok t)
    (hb : boundariesOf days.today p r t x = .ok b) : r.earlier s = .ok follows := by
  obtain ⟨hp', hr', ht', -⟩ := boundariesOf_eq_ok_iff.mp hb
  obtain ⟨hpr, hrt, -⟩ := b.ordered
  cases follows with
  | true =>
    obtain rfl : s = t := Except.ok.inj (hs.symm.trans ht)
    exact (earlier_of_toMillis hr' ht' hrt).1
  | false =>
    obtain rfl : s = p := Except.ok.inj (hs.symm.trans hp)
    exact (earlier_of_toMillis hp' hr' hpr).2

theorem tellsTime_of_pairs (hd : now.adjacentDays zone = .ok days)
    (hr : ask ⟨.sunrise, days.today⟩ = .ok r) (hs : ask ⟨.sunset, days.today⟩ = .ok s)
    (ho : r.earlier s = .ok follows) (ht : ask (days.sunsetAfter (firstOf follows)) = .ok t)
    (hx : ask ⟨.sunrise, days.tomorrow⟩ = .ok x) (hfirst : r.before s = r.earlier s)
    (hsecond : t.before x = t.earlier x) : ask.TellsTime now zone := by
  intro a b h
  cases h with
  | @today days' _ _ hd' hr' hs' =>
    obtain rfl : days = days' := Except.ok.inj (hd.symm.trans hd')
    obtain rfl : r = a := Except.ok.inj (hr.symm.trans hr')
    obtain rfl : s = b := Except.ok.inj (hs.symm.trans hs')
    exact hfirst
  | @tomorrow days' r' s' _ _ follows' hd' hr' hs' ho' ht' hx' =>
    obtain rfl : days = days' := Except.ok.inj (hd.symm.trans hd')
    obtain rfl : r = r' := Except.ok.inj (hr.symm.trans hr')
    obtain rfl : s = s' := Except.ok.inj (hs.symm.trans hs')
    obtain rfl : follows = follows' := Except.ok.inj (ho.symm.trans ho')
    obtain rfl : t = a := Except.ok.inj (ht.symm.trans ht')
    obtain rfl : x = b := Except.ok.inj (hx.symm.trans hx')
    exact hsecond

/-- The first pair of an evaluation that comes to boundaries is in the right order, as the boundaries are. -/
theorem Way.earlier_sunrise (w : Way Moment.before ask now zone b) :
    w.sunrise.earlier w.sameDay = .ok w.follows :=
  earlier_of_boundariesOf w.hasSameDay w.hasPrevious w.hasSunset w.ends

/-- So the clock tells the time if it tells whether tomorrow's sunrise is later than the sunset. -/
theorem Way.tellsTime_iff (w : Way Moment.before ask now zone b) :
    ask.TellsTime now zone ↔ w.sunset.earlier w.next = .ok w.later := by
  constructor
  · intro htells
    rw [← htells _ _ (.tomorrow w.hasDays w.hasSunrise w.hasSameDay w.earlier_sunrise w.hasSunset w.hasNext)]
    exact w.comparesNext
  · intro hsecond
    exact tellsTime_of_pairs w.hasDays w.hasSunrise w.hasSameDay w.earlier_sunrise w.hasSunset w.hasNext
      (w.compares.trans w.earlier_sunrise.symm) (w.comparesNext.trans hsecond.symm)

/-- **What becomes of an evaluation that the clock misleads.** If it comes to boundaries at all, the first
pair was in the right order; so it was the second pair, and a sunrise is passed over. -/
theorem tellsTime_or_passesOver (h : evaluateBy Moment.before ask now zone = .ok b) :
    ask.TellsTime now zone ∨ ask.PassesOver now zone := by
  obtain ⟨w⟩ := nonempty_way h
  obtain ⟨-, -, ht, hl⟩ := boundariesOf_eq_ok_iff.mp w.ends
  have hlast := w.hasLast
  have hshown := w.comparesNext
  rw [w.tellsTime_iff]
  cases hlater : w.later with
  | true =>
    rw [hlater] at hlast
    obtain heq : w.next = w.last := Except.ok.inj (w.hasNext.symm.trans hlast)
    rw [heq]
    exact .inl (earlier_of_toMillis ht hl b.ordered.2.2).1
  | false =>
    rw [hlater] at hlast hshown
    obtain ⟨i, hi, -⟩ := Moment.instant?_of_toMillis ht
    obtain ⟨told, htold⟩ := Moment.exists_earlier hi hshown
    cases told with
    | true =>
      refine .inr ⟨w.days, w.previous, w.sunrise, w.sunset, w.next, w.last, w.hasDays, w.hasNext, hlast, hshown,
        htold, h.trans w.ends.symm, ?_⟩
      rw [evaluateBy_eq w.hasDays w.hasSunrise w.hasSameDay w.earlier_sunrise w.hasPrevious w.hasSunset,
        finishBy_of_later w.hasNext htold]
    | false => exact .inl htold

end

section

variable {calculator : Calculator} {location : Location} {now : Moment} {zone : Zone}

theorem evaluate_eq_evaluateBy : evaluate calculator (some location) now zone =
    some <$> evaluateBy Moment.before (calculator.answers location zone) now zone :=
  congrArg (some <$> ·) (evaluateWith_eq_evaluateBy _ now zone)

/-- The calculator told in universal time is evaluated by the order in time. -/
theorem evaluate_inUtc (hc : (calculator.answers location zone).IsConvertible) :
    evaluate calculator.inUtc (some location) now zone =
      some <$> evaluateBy Moment.earlier (calculator.answers location zone) now zone := by
  rw [evaluate_eq_evaluateBy, ← evaluateBy_toUtc hc]
  rfl

/-- **When an evaluation decides by instants.** Let all answers be convertible to universal time. If the
clock tells the time of the evaluation, it has the same outcome as with all answers in universal time. If
not, it fails, or it passes tomorrow's sunrise over. So whenever it comes to boundaries with the answers in
universal time, and the next two sunrises are not in one millisecond, the outcomes are the same exactly
when the clock tells the time. -/
theorem evaluate_inUtc_cases (hc : (calculator.answers location zone).IsConvertible) :
    ((calculator.answers location zone).TellsTime now zone →
        evaluate calculator.inUtc (some location) now zone =
          evaluate calculator (some location) now zone) ∧
      (¬ (calculator.answers location zone).TellsTime now zone →
        (∃ e, evaluate calculator (some location) now zone = .error e) ∨
          (calculator.answers location zone).PassesOver now zone) ∧
      ∀ b days, evaluate calculator.inUtc (some location) now zone = .ok (some b) →
        now.adjacentDays zone = .ok days →
        (∀ x y, calculator location ⟨.sunrise, days.tomorrow⟩ zone = .ok x →
          calculator location ⟨.sunrise, days.tomorrow.plus 1⟩ zone = .ok y → x.toMillis ≠ y.toMillis) →
        (evaluate calculator.inUtc (some location) now zone =
            evaluate calculator (some location) now zone ↔
          (calculator.answers location zone).TellsTime now zone) := by
  have htells : (calculator.answers location zone).TellsTime now zone →
      evaluate calculator.inUtc (some location) now zone =
        evaluate calculator (some location) now zone := by
    intro h
    rw [evaluate_inUtc hc, evaluate_eq_evaluateBy, evaluateBy_congr h]
  refine ⟨htells, fun hnot => ?_, fun b days hb hd hne => ⟨fun hsame => ?_, htells⟩⟩
  · rw [evaluate_eq_evaluateBy]
    cases htold : evaluateBy Moment.before (calculator.answers location zone) now zone with
    | error e => exact .inl ⟨e, rfl⟩
    | ok b => exact .inr ((tellsTime_or_passesOver htold).resolve_left hnot)
  · rw [hb, evaluate_eq_evaluateBy] at hsame
    obtain ⟨b', htold, hsome⟩ := map_eq_ok_iff.mp hsame.symm
    obtain rfl : b' = b := Option.some.inj hsome
    rcases tellsTime_or_passesOver htold with h | h
    · exact h
    · -- the boundaries would end with both sunrises
      obtain ⟨days', p, r, t, x, y, hd', hx, hy, -, -, hbefore, hearlier⟩ := h
      obtain rfl : days = days' := Except.ok.inj (hd.symm.trans hd')
      rw [evaluate_inUtc hc] at hb
      obtain ⟨b'', hmeant, hsome'⟩ := map_eq_ok_iff.mp hb
      obtain rfl : b'' = b' := Option.some.inj hsome'
      obtain ⟨-, -, -, hxm⟩ := boundariesOf_eq_ok_iff.mp (hearlier.symm.trans hmeant)
      obtain ⟨-, -, -, hym⟩ := boundariesOf_eq_ok_iff.mp (hbefore.symm.trans htold)
      exact absurd (hxm.trans hym.symm) (hne x y hx hy)

end

/-! ### An autumn night in New York -/

/-- The almanac of a list of readings, which knows nothing else. -/
def Almanac.ofReadings (readings : List (Query × Moment)) : Almanac :=
  ⟨fun _ query _ => .error (.noEvent query none), readings.map fun r => (r.1, .ok r.2)⟩

theorem Almanac.isConvertible_ofReadings {readings : List (Query × Moment)}
    (h : ∀ r ∈ readings, r.2.IsConvertible) (location : Location) (zone : Zone) :
    ((ofReadings readings).calculator.answers location zone).IsConvertible := by
  intro q m hm
  simp only [Calculator.answers, calculator, ofReadings] at hm
  split at hm
  · rename_i answer hlookup
    obtain ⟨before, behind, hsplit, -⟩ := List.lookup_eq_some_iff.mp hlookup
    have hmem : (q, answer) ∈ readings.map fun r => (r.1, (.ok r.2 : Except Failure Moment)) := by
      rw [hsplit]
      simp
    obtain ⟨r, hr, heq⟩ := List.mem_map.mp hmem
    rw [Prod.mk.injEq] at heq
    obtain ⟨-, rfl⟩ := heq
    obtain rfl : r.2 = m := Except.ok.inj hm
    exact h r hr
  · cases hm

/-- The zone of New York. -/
def newYorkZone : Zone := .region Atlas.americaNewYork

/-- A reading of a clock in New York, in seconds after midnight. -/
def newYork (day seconds : Int) (fold : Bool) : Moment :=
  ⟨(Day.mk day).start + seconds * second, some newYorkZone, fold⟩

/-- Sunset at 05:50 and sunrise at 06:10 of universal time, from 2023-11-03 to 2023-11-07, as a clock in New
York shows them. In the night to 2023-11-05 it is put back at 06:00. -/
def autumnReadings : List (Query × Moment) :=
  [(⟨.sunset, ⟨19664⟩⟩, newYork 19664 6600 false), (⟨.sunrise, ⟨19664⟩⟩, newYork 19664 7800 false),
    (⟨.sunset, ⟨19665⟩⟩, newYork 19665 6600 false), (⟨.sunrise, ⟨19665⟩⟩, newYork 19665 7800 false),
    (⟨.sunset, ⟨19666⟩⟩, newYork 19666 6600 false), (⟨.sunrise, ⟨19666⟩⟩, newYork 19666 4200 true),
    (⟨.sunset, ⟨19667⟩⟩, newYork 19667 3000 false), (⟨.sunrise, ⟨19667⟩⟩, newYork 19667 4200 false),
    (⟨.sunset, ⟨19668⟩⟩, newYork 19668 3000 false), (⟨.sunrise, ⟨19668⟩⟩, newYork 19668 4200 false)]

/-- The calculator that knows these events. -/
def autumn : Calculator := (Almanac.ofReadings autumnReadings).calculator

theorem isConvertible_autumn : (autumn.answers home newYorkZone).IsConvertible :=
  Almanac.isConvertible_ofReadings (by decide +kernel) home newYorkZone

/-- At 17:00 of universal time on a day. -/
def afternoon (day : Int) : Moment := .ofInstant ((Day.mk day).start + 61200 * second)

/-- **In the night in which the clock is put back**, an evaluation finds that night's events inconsistent:
the sunset at 01:50 is the first of the two, but the clock shows the sunrise, twenty minutes later, at
01:10. In universal time the events are in order. An evaluation on the day before goes through; but from
its boundaries the sunrise of that night is missing. -/
theorem misled_autumn :
    (autumn.answers home newYorkZone).IsConvertible ∧
      evaluate autumn (some home) (afternoon 19666) newYorkZone = .error (.inconsistent ⟨19666⟩) ∧
      evaluate autumn.inUtc (some home) (afternoon 19666) newYorkZone =
        .ok (some ⟨1699163400000, 1699164600000, 1699249800000, 1699251000000, by decide⟩) ∧
      evaluate autumn (some home) (afternoon 19665) newYorkZone =
        .ok (some ⟨1699077000000, 1699078200000, 1699163400000, 1699251000000, by decide⟩) ∧
      evaluate autumn.inUtc (some home) (afternoon 19665) newYorkZone =
        .ok (some ⟨1699077000000, 1699078200000, 1699163400000, 1699164600000, by decide⟩) := by
  refine ⟨isConvertible_autumn, ?_, ?_, ?_, ?_⟩
  all_goals decide +kernel

/-- Two days later the clock tells the time again. On the day of that night it does not, and on the day
before the sunrise is passed over. -/
theorem tellsTime_autumn :
    evaluate autumn.inUtc (some home) (afternoon 19667) newYorkZone =
        evaluate autumn (some home) (afternoon 19667) newYorkZone ∧
      ¬ (autumn.answers home newYorkZone).TellsTime (afternoon 19666) newYorkZone ∧
      (autumn.answers home newYorkZone).PassesOver (afternoon 19665) newYorkZone := by
  have hdays : ∀ day ∈ [(19665 : Int), 19666, 19667], (afternoon day).adjacentDays newYorkZone =
      .ok ⟨⟨day - 1⟩, ⟨day⟩, ⟨day + 1⟩⟩ := by decide +kernel
  refine ⟨?_, fun htells => ?_, ?_⟩
  · have htells : (autumn.answers home newYorkZone).TellsTime (afternoon 19667) newYorkZone :=
      tellsTime_of_pairs (hdays 19667 (by decide)) rfl rfl rfl rfl rfl (by decide +kernel)
        (by decide +kernel)
    exact (evaluate_inUtc_cases isConvertible_autumn).1 htells
  · have hmeant : evaluate autumn.inUtc (some home) (afternoon 19666) newYorkZone =
        .ok (some ⟨1699163400000, 1699164600000, 1699249800000, 1699251000000, by decide⟩) := by
      decide +kernel
    have hne : ∀ x y, autumn home ⟨.sunrise, ⟨19667⟩⟩ newYorkZone = .ok x →
        autumn home ⟨.sunrise, ⟨19668⟩⟩ newYorkZone = .ok y → x.toMillis ≠ y.toMillis := by
      intro x y hx hy
      obtain rfl : newYork 19667 4200 false = x := Except.ok.inj hx
      obtain rfl : newYork 19668 4200 false = y := Except.ok.inj hy
      decide +kernel
    have hsame := ((evaluate_inUtc_cases isConvertible_autumn).2.2 _ _ hmeant
      (hdays 19666 (by decide)) hne).mpr htells
    exact absurd hsame (by decide +kernel)
  · have hmisled : ¬ (autumn.answers home newYorkZone).TellsTime (afternoon 19665) newYorkZone := by
      intro htells
      have horder := htells _ _ (.tomorrow (hdays 19665 (by decide)) rfl rfl rfl rfl rfl)
      exact absurd horder (by decide +kernel)
    refine ((evaluate_inUtc_cases isConvertible_autumn).2.1 hmisled).resolve_left ?_
    rintro ⟨e, he⟩
    have hok : (evaluate autumn (some home) (afternoon 19665) newYorkZone).isOk = true := by
      decide +kernel
    rw [he] at hok
    cases hok

end Daylight
