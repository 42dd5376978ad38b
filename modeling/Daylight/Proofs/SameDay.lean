import Daylight.Proofs.Cycle
import Daylight.Proofs.Transitions

/-!
# One day, one outcome

An evaluation takes nothing from its moment but a day. So two moments with one day have one outcome, with every
calculator and at every location.

The day should be the one that the clock of the zone shows at the instant of the moment. It is where the moment
is converted into the zone. But a moment that is in a named zone already is not converted, and its reading need
not be one that the clock ever shows. Where a gap reaches over midnight, or leaves out a day, a reading before
midnight can mean an instant behind it. Such a moment is misdated: it is evaluated for the date of its reading,
which is not the day on which it lies, and the same instant told in any other zone is evaluated for another day.

## What is proved

* `Moment.localDay_of_not_isMisdated`, `Moment.localDay_of_isMisdated`: which day is taken.
* `Moment.not_isMisdated_of_inZone`: what a conversion into a known zone came to is not misdated.
* `evaluate_alike_iff`: moments on one day have one outcome unless one of them is misdated; two that are, if
  their readings have one date. In all other cases some calculator tells them apart.
* `two_outcomes_on_one_day`: it happens.
-/

namespace Daylight

namespace Moment

/-- A moment lies on a day in a zone: this is the date of the reading that universal time is converted to. -/
def FallsOn (m : Moment) (zone : Zone) (d : Day) : Prop :=
  m.zone ≠ none ∧ ∃ utc shown, m.toUtc = .ok utc ∧ utc.inZone zone = .ok shown ∧ shown.day = d

/-- A moment of the zone itself that does not lie on the date of its reading. -/
def IsMisdated (m : Moment) (zone : Zone) : Prop :=
  zone.isNamed ∧ m.zone = some zone ∧ ¬ m.FallsOn zone m.day

variable {m : Moment} {zone : Zone} {d : Day}

/-- The day on which a moment lies, from its instant. -/
theorem fallsOn_iff :
    m.FallsOn zone d ↔ ∃ i, m.instant? = some i ∧ inCalendar i = true ∧
      inCalendar (i + zone.offsetAtInstant i) = true ∧ d = Day.ofWall (i + zone.offsetAtInstant i) := by
  have hz : ∀ i, ¬ (zone.isNamed ∧ (ofInstant i).zone = some zone) := by
    rintro i ⟨hn, hsome⟩
    obtain rfl := Option.some.inj hsome
    cases hn
  constructor
  · rintro ⟨hne, utc, shown, hutc, hshown, rfl⟩
    obtain ⟨i, hi, hin, rfl⟩ := instant?_of_toUtc hne hutc
    obtain ⟨-, hin', rfl⟩ := (inZone_eq_ok_iff (instant?_ofInstant i) (hz i)).mp hshown
    exact ⟨i, hi, hin, hin', rfl⟩
  · rintro ⟨i, hi, hin, hin', rfl⟩
    obtain ⟨z, hsome, -⟩ := instant?_eq_some_iff.mp hi
    refine ⟨by simp [hsome], _, ⟨_, some zone, zone.repeats i⟩, toUtc_of_instant? hi hin, ?_, rfl⟩
    exact (inZone_eq_ok_iff (instant?_ofInstant i) (hz i)).mpr ⟨hin, hin', rfl⟩

theorem FallsOn.unique {d' : Day} (h : m.FallsOn zone d) (h' : m.FallsOn zone d') : d = d' := by
  obtain ⟨i, hi, -, -, rfl⟩ := fallsOn_iff.mp h
  obtain ⟨j, hj, -, -, rfl⟩ := fallsOn_iff.mp h'
  obtain rfl : i = j := Option.some.inj (hi.symm.trans hj)
  rfl

/-- **A moment that is not misdated is evaluated for the day on which it lies.** -/
theorem localDay_of_not_isMisdated (h : m.FallsOn zone d) (hm : ¬ m.IsMisdated zone) :
    m.localDay zone = .ok d := by
  obtain ⟨i, hi, hin, hin', rfl⟩ := fallsOn_iff.mp h
  obtain ⟨z, hz, -⟩ := instant?_eq_some_iff.mp hi
  by_cases hsame : zone.isNamed ∧ m.zone = some zone
  · have hday : m.FallsOn zone m.day := by
      by_contra hnot
      exact hm ⟨hsame.1, hsame.2, hnot⟩
    rw [← hday.unique h]
    simp only [localDay, hz, inZone, if_pos (hz ▸ hsame)]
    rfl
  · have hmoved := (inZone_eq_ok_iff hi hsame).mpr ⟨hin, hin', rfl⟩
    simp only [localDay, hz, hmoved]
    rfl

/-- **A misdated moment is evaluated for the date of its reading**, which is another day. -/
theorem localDay_of_isMisdated (hm : m.IsMisdated zone) : m.localDay zone = .ok m.day := by
  obtain ⟨hn, hz, -⟩ := hm
  simp only [localDay, hz, inZone, hn, true_and, if_true]
  rfl

theorem IsMisdated.day_ne (hm : m.IsMisdated zone) (h : m.FallsOn zone d) : m.day ≠ d := by
  rintro rfl
  exact hm.2.2 h

/-- The date of a misdated reading is not far from the day on which the moment lies. -/
theorem IsMisdated.near (hm : m.IsMisdated zone) (h : m.FallsOn zone d) :
    d.number - 2 ≤ m.day.number ∧ m.day.number ≤ d.number + 2 := by
  obtain ⟨i, hi, -, -, rfl⟩ := fallsOn_iff.mp h
  obtain ⟨hn, hz, -⟩ := hm
  obtain ⟨z, hz', hw⟩ := instant?_eq_some_iff.mp hi
  obtain rfl : z = zone := Option.some.inj (hz'.symm.trans hz)
  cases z with
  | fixed offset purpose => cases hn
  | region r =>
    obtain ⟨h₁, h₂⟩ := r.isBelowDay_offsetAt (·.reading m.fold) m.wall
    obtain ⟨h₃, h₄⟩ := r.isBelowDay_offsetAt (·.instant) i
    simp only [Zone.offsetAtWall] at hw
    simp only [Zone.offsetAtInstant, day, Day.ofWall, dayLength, second] at h₁ h₂ h₃ h₄ ⊢
    omega

/-- The day that is taken for a moment lies in the calendar and near the right one, and it is the right one
unless the moment is misdated. -/
theorem FallsOn.exists_localDay (h : m.FallsOn zone d) (hc : inCalendar m.wall = true) :
    ∃ taken, m.localDay zone = .ok taken ∧ taken.inCalendar = true ∧
      (d.number - 2 ≤ taken.number ∧ taken.number ≤ d.number + 2) ∧
      (¬ m.IsMisdated zone ∧ taken = d ∨ m.IsMisdated zone ∧ taken = m.day ∧ taken ≠ d) := by
  by_cases hm : m.IsMisdated zone
  · exact ⟨m.day, localDay_of_isMisdated hm, inCalendar_ofWall hc, hm.near h, .inr ⟨hm, rfl, hm.day_ne h⟩⟩
  · obtain ⟨i, -, -, hin, rfl⟩ := fallsOn_iff.mp h
    exact ⟨_, localDay_of_not_isMisdated h hm, inCalendar_ofWall hin, by omega, .inl ⟨hm, rfl⟩⟩

/-- **A moment that came by a conversion into a known zone is not misdated.** -/
theorem not_isMisdated_of_inZone {moved : Moment} (h : zone.IsKnown) (hne : m.zone ≠ none)
    (hz : m.zone ≠ some zone) (hm : m.inZone zone = .ok moved) : ¬ moved.IsMisdated zone := by
  obtain ⟨z, hzone⟩ := Option.ne_none_iff_exists'.mp hne
  have hi : m.instant? = some (m.wall - z.offsetAtWall m.fold m.wall) :=
    instant?_eq_some_iff.mpr ⟨z, hzone, rfl⟩
  have hmoved := instant?_of_inZone h hi hm
  obtain ⟨hin, hin', rfl⟩ := (inZone_eq_ok_iff hi fun hsame => hz hsame.2).mp hm
  rintro ⟨-, -, hnot⟩
  exact hnot (fallsOn_iff.mpr ⟨_, hmoved, hin, hin', rfl⟩)

end Moment

/-! ### What an evaluation takes from its moment -/

/-- An evaluation depends on the days around its moment only. -/
theorem evaluate_congr {now₁ now₂ : Moment} {zone : Zone} (h : now₁.adjacentDays zone = now₂.adjacentDays zone)
    (calculator : Calculator) (location : Option Location) :
    evaluate calculator location now₁ zone = evaluate calculator location now₂ zone := by
  simp only [evaluate, evaluateWith, h]

/-- A calculator without answers. -/
def mute (reason : Query → Failure) : Calculator := fun _ query _ => .error (reason query)

/-- Without answers, an evaluation ends at its first question. -/
theorem evaluate_mute (reason : Query → Failure) (location : Location) (now : Moment) (zone : Zone) :
    evaluate (mute reason) (some location) now zone =
      (now.adjacentDays zone).bind fun days => .error (reason ⟨.sunrise, days.today⟩) := by
  simp only [evaluate, evaluateWith]
  cases now.adjacentDays zone <;> rfl

/-- **The days around a moment can be told from the outcomes of its evaluations.** -/
theorem adjacentDays_of_evaluate {now₁ now₂ : Moment} {zone : Zone} (location : Location)
    (h : ∀ calculator, evaluate calculator (some location) now₁ zone =
      evaluate calculator (some location) now₂ zone) :
    now₁.adjacentDays zone = now₂.adjacentDays zone := by
  have hasked := h (mute (.noEvent · none))
  have hsilent := h (mute fun _ => .alreadyStarted)
  simp only [evaluate_mute] at hasked hsilent
  cases h₁ : now₁.adjacentDays zone with
  | error e₁ =>
    cases h₂ : now₂.adjacentDays zone with
    | error e₂ =>
      rw [h₁, h₂] at hasked
      exact congrArg Except.error (Except.error.inj hasked)
    | ok days₂ =>
      -- one failure cannot be two answers
      rw [h₁, h₂] at hasked hsilent
      have hboth := (Except.error.inj hasked).symm.trans (Except.error.inj hsilent)
      cases hboth
  | ok days₁ =>
    cases h₂ : now₂.adjacentDays zone with
    | error e₂ =>
      rw [h₁, h₂] at hasked hsilent
      have hboth := (Except.error.inj hasked).trans (Except.error.inj hsilent).symm
      cases hboth
    | ok days₂ =>
      rw [h₁, h₂] at hasked
      obtain ⟨moved₁, -, -, -, -, rfl⟩ := Moment.adjacentDays_eq_ok_iff.mp h₁
      obtain ⟨moved₂, -, -, -, -, rfl⟩ := Moment.adjacentDays_eq_ok_iff.mp h₂
      have htoday := Except.error.inj hasked
      simp only [Failure.noEvent.injEq, Query.mk.injEq, true_and, and_true] at htoday
      rw [htoday]

/-- The days around a moment, from the day that is taken. -/
theorem Moment.adjacentDays_of_localDay {now : Moment} {zone : Zone} {d : Day} (h : now.localDay zone = .ok d) :
    now.adjacentDays zone =
      if (d.plus (-1)).inCalendar ∧ (d.plus 1).inCalendar then .ok ⟨d.plus (-1), d, d.plus 1⟩
      else .error .outOfRange := by
  simp only [adjacentDays, h, Day.shift, bind, Except.bind]
  by_cases hy : (d.plus (-1)).inCalendar = true
  · by_cases ht : (d.plus 1).inCalendar = true
    · simp [hy, ht, pure, Except.pure]
    · simp [hy, ht]
  · simp [hy]

/-- Days of the calendar that are near to each other are one if what is around them is. -/
theorem Moment.localDay_of_adjacentDays_eq {now₁ now₂ : Moment} {zone : Zone} {d₁ d₂ : Day}
    (h₁ : now₁.localDay zone = .ok d₁) (h₂ : now₂.localDay zone = .ok d₂) (hc₁ : d₁.inCalendar = true)
    (hc₂ : d₂.inCalendar = true) (hnear : d₁.number - 4 ≤ d₂.number ∧ d₂.number ≤ d₁.number + 4)
    (h : now₁.adjacentDays zone = now₂.adjacentDays zone) : d₁ = d₂ := by
  rw [adjacentDays_of_localDay h₁, adjacentDays_of_localDay h₂] at h
  split at h
  · split at h
    · exact congrArg AdjacentDays.today (Except.ok.inj h)
    · cases h
  · rename_i hedge₁
    split at h
    · cases h
    · -- both are at an edge of the calendar, and it is the same one
      rename_i hedge₂
      simp only [Day.inCalendar_iff, Day.plus, Day.first, Day.last] at hedge₁ hedge₂ hc₁ hc₂
      obtain ⟨n₁⟩ := d₁
      obtain ⟨n₂⟩ := d₂
      simp only [Day.mk.injEq]
      dsimp only at hedge₁ hedge₂ hc₁ hc₂ hnear
      omega

/-- **Two moments on one day of a zone have one outcome, unless one of them is misdated.** Then they have one
outcome if both are, and their readings have the same date; in all other cases there are evaluations that come to
something else. -/
theorem evaluate_alike_iff {now₁ now₂ : Moment} {zone : Zone} {d : Day} (h₁ : now₁.FallsOn zone d)
    (h₂ : now₂.FallsOn zone d) (hc₁ : Moment.inCalendar now₁.wall = true)
    (hc₂ : Moment.inCalendar now₂.wall = true) :
    (∀ calculator location, evaluate calculator location now₁ zone = evaluate calculator location now₂ zone) ↔
      (¬ now₁.IsMisdated zone ∧ ¬ now₂.IsMisdated zone) ∨
        (now₁.IsMisdated zone ∧ now₂.IsMisdated zone ∧ now₁.day = now₂.day) := by
  obtain ⟨t₁, hday₁, hin₁, hnear₁, htaken₁⟩ := h₁.exists_localDay hc₁
  obtain ⟨t₂, hday₂, hin₂, hnear₂, htaken₂⟩ := h₂.exists_localDay hc₂
  have hsame : (∀ calculator location,
      evaluate calculator location now₁ zone = evaluate calculator location now₂ zone) ↔ t₁ = t₂ := by
    constructor
    · intro hall
      have hdays := adjacentDays_of_evaluate home fun calculator => hall calculator (some home)
      exact Moment.localDay_of_adjacentDays_eq hday₁ hday₂ hin₁ hin₂ (by omega) hdays
    · rintro rfl
      refine evaluate_congr ?_
      rw [Moment.adjacentDays_of_localDay hday₁, Moment.adjacentDays_of_localDay hday₂]
  rw [hsame]
  rcases htaken₁ with ⟨hm₁, rfl⟩ | ⟨hm₁, rfl, hne₁⟩
  · rcases htaken₂ with ⟨hm₂, rfl⟩ | ⟨hm₂, rfl, hne₂⟩
    · simp [hm₁, hm₂]
    · simp [hm₁, hm₂, hne₂.symm]
  · rcases htaken₂ with ⟨hm₂, rfl⟩ | ⟨hm₂, rfl, -⟩
    · simp [hm₁, hm₂, hne₁]
    · simp [hm₁, hm₂]

/-- The clock of a town where spring begins with a gap from eleven in the evening to midnight. -/
def nuukZone : Zone := .region Atlas.americaNuuk

/-- A reading in the gap of 30 March 2024, at some minutes past eleven. -/
def skipped (minutes : Int) : Moment := ⟨1711839600000000 + minutes * (60 * second), some nuukZone, false⟩

/-- Half past eleven lies on the day after, as does the moment of universal time at the same instant. -/
theorem fallsOn_nuuk :
    (skipped 30).FallsOn nuukZone ⟨19813⟩ ∧ (skipped 45).FallsOn nuukZone ⟨19813⟩ ∧
      (Moment.ofInstant 1711848600000000).FallsOn nuukZone ⟨19813⟩ := by
  simp only [Moment.fallsOn_iff]
  refine ⟨⟨1711848600000000, ?_⟩, ⟨1711849500000000, ?_⟩, ⟨1711848600000000, ?_⟩⟩
  all_goals decide +kernel

/-- Readings in the gap have one outcome, but it is not that of the day on which they lie. -/
theorem alike_in_gap :
    (∀ calculator location,
        evaluate calculator location (skipped 30) nuukZone = evaluate calculator location (skipped 45) nuukZone) ∧
      ∃ calculator location, evaluate calculator location (skipped 30) nuukZone ≠
        evaluate calculator location (.ofInstant 1711848600000000) nuukZone := by
  obtain ⟨hhalf, hlater, hutc⟩ := fallsOn_nuuk
  have hmisdated : ∀ {m : Moment}, m.FallsOn nuukZone ⟨19813⟩ → m.zone = some nuukZone → m.day = ⟨19812⟩ →
      m.IsMisdated nuukZone := by
    intro m hm hz hday
    refine ⟨rfl, hz, fun hfalls => ?_⟩
    rw [hday] at hfalls
    exact absurd (hfalls.unique hm) (by decide)
  have hm := hmisdated hhalf rfl (by decide)
  constructor
  · exact (evaluate_alike_iff hhalf hlater (by decide) (by decide)).mpr
      (.inr ⟨hm, hmisdated hlater rfl (by decide), by decide⟩)
  · by_contra! hall
    rcases (evaluate_alike_iff hhalf hutc (by decide) (by decide)).mp hall with ⟨hnot, -⟩ | ⟨-, hother, -⟩
    · exact hnot hm
    · exact absurd hother.2.1 (by decide)

/-- **One instant, two outcomes.** With sunrise at six and sunset at eighteen, half past eleven in the gap is
evaluated for 30 March, and the same instant, told in universal time, for 31 March, on which both lie. -/
theorem two_outcomes_on_one_day :
    (skipped 30).FallsOn nuukZone ⟨19813⟩ ∧ (Moment.ofInstant 1711848600000000).FallsOn nuukZone ⟨19813⟩ ∧
      evaluate sixToSix.calculator (some home) (skipped 30) nuukZone ≠
        evaluate sixToSix.calculator (some home) (.ofInstant 1711848600000000) nuukZone := by
  obtain ⟨hhalf, -, hutc⟩ := fallsOn_nuuk
  exact ⟨hhalf, hutc, by decide +kernel⟩

end Daylight
