import Daylight.Proofs.Instants
import Mathlib.Tactic.IntervalCases

/-!
# The calendar in both directions

`Day.ofCivil` counts the days up to a date, and `Day.civil` finds the date of a day. Both count years from
March to March, so that a leap day ends its year. Here they are shown to be inverse to each other.

A day is found in three steps: its year in the cycle of four hundred years, by one division with three
corrections; its month, by the linear rule; and the day of the month. The first step is the hard one. It is
taken apart into the century of the cycle and the year of the century, where a correction is off by one at
most.

## What is proved

* `Day.march_le`, `Day.lt_march_succ`: the year from March to March that is found is the one of the day.
* `Day.ofCivil_civil`, `Day.isValid_civil`: the date of a day of the calendar is a date of the calendar, and
  counting up to it gives the day back.
* `Day.civil_year_eq_iff`: the years from January on, as intervals of days.
-/

namespace Daylight

namespace Day

/-- The number of the first of March of a year. -/
def march (year : Int) : Int :=
  year / 400 * 146097 + (year % 400 * 365 + year % 400 / 4 - year % 400 / 100) - 719468

/-- The number of the first of January of a year. -/
def newYear (year : Int) : Int := march (year - 1) + 306

/-- The days from the first of March to the first of a month, with March as 0. -/
def monthStart (month : Int) : Int := (153 * month + 2) / 5

/-- The year in its cycle, from March to March, of a day of the cycle. -/
def yearOfCycle (dayOfCycle : Int) : Int :=
  (dayOfCycle - dayOfCycle / 1460 + dayOfCycle / 36524 - dayOfCycle / 146096) / 365

/-- The year in which the March before a day lies. -/
def marchYear (d : Day) : Int :=
  yearOfCycle ((d.number + 719468) % 146097) + (d.number + 719468) / 146097 * 400

/-- The day in the year from March to March, from 0. -/
def dayOfYear (d : Day) : Int := d.number - march d.marchYear

/-! ### The year of a day -/

/-- A year of the calendar has a day more when the February at its end is that of a leap year. -/
theorem march_succ (year : Int) :
    march (year + 1) = march year + 365 + if isLeap (year + 1) then 1 else 0 := by
  simp only [march, isLeap, Bool.and_eq_true, Bool.or_eq_true, decide_eq_true_eq]
  split <;> omega

/-- The year of a century. The division by 1460 in place of 1461 counts one leap day too many at most. -/
theorem yearOfCentury_bounds {century day : Int} (hc : 0 ≤ century ∧ century ≤ 3)
    (hd : 0 ≤ day ∧ day < 36524) {year : Int} (hy : year = (day - (24 * century + day) / 1460) / 365) :
    (0 ≤ year ∧ year ≤ 99) ∧ 365 * year + year / 4 ≤ day ∧
      (day < 365 * (year + 1) + (year + 1) / 4 ∨ year = 99) := by
  have hleaps : (24 * century + day) / 1460 = day / 1461 ∨
      (24 * century + day) / 1460 = day / 1461 + 1 := by omega
  have hyear : year / 4 = day / 1461 ∧
      (year = 4 * (day / 1461) + day % 1461 / 365 ∨
        (year = 4 * (day / 1461) + 3 ∧ day % 1461 = 1460)) := by omega
  omega

theorem yearOfCycle_bounds (day : Int) (hd : 0 ≤ day ∧ day < 146097) :
    (0 ≤ yearOfCycle day ∧ yearOfCycle day ≤ 399) ∧
      365 * yearOfCycle day + yearOfCycle day / 4 - yearOfCycle day / 100 ≤ day ∧
      (day < 365 * (yearOfCycle day + 1) + (yearOfCycle day + 1) / 4 - (yearOfCycle day + 1) / 100 ∨
        yearOfCycle day = 399) := by
  by_cases hlast : day = 146096
  · subst hlast
    decide
  · -- the century, and the year in it
    obtain ⟨century, hcentury⟩ : ∃ century, century = day / 36524 := ⟨_, rfl⟩
    obtain ⟨rest, hrest⟩ : ∃ rest, rest = day % 36524 := ⟨_, rfl⟩
    obtain ⟨year, hyear⟩ : ∃ year, year = (rest - (24 * century + rest) / 1460) / 365 := ⟨_, rfl⟩
    have hbounds := yearOfCentury_bounds (by omega) (by omega) hyear
    have hcycle : yearOfCycle day = 100 * century + year := by
      unfold yearOfCycle
      omega
    rw [hcycle]
    have hleaps : (100 * century + year) / 4 = 25 * century + year / 4 ∧
        (100 * century + year + 1) / 4 = 25 * century + (year + 1) / 4 := by omega
    have hcenturies : (100 * century + year) / 100 = century ∧
        (100 * century + year + 1) / 100 = century + (year + 1) / 100 := by omega
    rw [hleaps.1, hleaps.2, hcenturies.1, hcenturies.2]
    omega

/-- The first of March of a year that is given by its cycle. -/
theorem march_cycle (cycle year : Int) (h₁ : 0 ≤ year) (h₂ : year ≤ 399) :
    march (year + cycle * 400) =
      cycle * 146097 + (365 * year + year / 4 - year / 100) - 719468 := by
  have hcycle : (year + cycle * 400) / 400 = cycle := by omega
  have hyear : (year + cycle * 400) % 400 = year := by omega
  rw [march, hcycle, hyear]
  omega

/-- A day lies in the year from March to March that is found for it. -/
theorem march_le (d : Day) : march d.marchYear ≤ d.number := by
  have hcycle := Int.mul_ediv_add_emod (d.number + 719468) 146097
  obtain ⟨⟨h₁, h₂⟩, hle, -⟩ := yearOfCycle_bounds ((d.number + 719468) % 146097) (by omega)
  rw [marchYear, march_cycle _ _ h₁ h₂]
  omega

theorem lt_march_succ (d : Day) : d.number < march (d.marchYear + 1) := by
  have hcycle := Int.mul_ediv_add_emod (d.number + 719468) 146097
  obtain ⟨⟨h₁, h₂⟩, -, hlt⟩ := yearOfCycle_bounds ((d.number + 719468) % 146097) (by omega)
  rw [marchYear]
  by_cases hlast : yearOfCycle ((d.number + 719468) % 146097) = 399
  · have hnext := march_cycle ((d.number + 719468) / 146097 + 1) 0 (by omega) (by omega)
    rw [hlast, show (399 : Int) + (d.number + 719468) / 146097 * 400 + 1 =
      0 + ((d.number + 719468) / 146097 + 1) * 400 by omega, hnext]
    omega
  · rw [add_right_comm, march_cycle _ _ (by omega) (by omega)]
    omega

/-! ### Dates -/

/-- The day of the year, from the day of the cycle. -/
theorem dayOfYear_eq (d : Day) {day year : Int} (hd : day = (d.number + 719468) % 146097)
    (hy : year = yearOfCycle day) : d.dayOfYear = day - (365 * year + year / 4 - year / 100) := by
  have hcycle := Int.mul_ediv_add_emod (d.number + 719468) 146097
  obtain ⟨⟨h₁, h₂⟩, -⟩ := yearOfCycle_bounds day (by omega)
  rw [← hy] at h₁ h₂
  rw [dayOfYear, marchYear, ← hd, ← hy, march_cycle _ _ h₁ h₂]
  omega

theorem dayOfYear_nonneg (d : Day) : 0 ≤ d.dayOfYear := by
  have h := d.march_le
  unfold dayOfYear
  omega

theorem dayOfYear_lt (d : Day) :
    d.dayOfYear < 365 + if isLeap (d.marchYear + 1) then 1 else 0 := by
  have h := d.lt_march_succ
  rw [march_succ] at h
  unfold dayOfYear
  omega

/-- The month of the year, with March as 0. -/
def monthOfYear (d : Day) : Int := (5 * d.dayOfYear + 2) / 153

theorem monthOfYear_bounds (d : Day) : 0 ≤ d.monthOfYear ∧ d.monthOfYear ≤ 11 := by
  have h₁ := d.dayOfYear_nonneg
  have h₂ := d.dayOfYear_lt
  unfold monthOfYear
  split at h₂ <;> omega

/-- The date of a day, from its year and its day of the year from March on. -/
theorem civil_eq (d : Day) :
    d.civil =
      ⟨if d.monthOfYear < 10 then d.marchYear else d.marchYear + 1,
        if d.monthOfYear < 10 then d.monthOfYear + 3 else d.monthOfYear - 9,
        d.dayOfYear - monthStart d.monthOfYear + 1⟩ := by
  have hmonth := d.monthOfYear_bounds
  have hfound : ∀ day, day = (d.number + 719468) % 146097 -
      (365 * yearOfCycle ((d.number + 719468) % 146097) + yearOfCycle ((d.number + 719468) % 146097) / 4 -
        yearOfCycle ((d.number + 719468) % 146097) / 100) →
      d.civil =
        let month := (5 * day + 2) / 153
        let monthOfDate := if month < 10 then month + 3 else month - 9
        ⟨if monthOfDate ≤ 2 then d.marchYear + 1 else d.marchYear, monthOfDate,
          day - monthStart month + 1⟩ := by
    rintro _ rfl
    rfl
  rw [hfound _ (d.dayOfYear_eq rfl rfl)]
  change (⟨if (if d.monthOfYear < 10 then d.monthOfYear + 3 else d.monthOfYear - 9) ≤ 2 then _ else _,
    if d.monthOfYear < 10 then _ else _, _⟩ : Civil) = _
  by_cases hm : d.monthOfYear < 10
  · simp only [if_pos hm, if_neg (show ¬ d.monthOfYear + 3 ≤ 2 by omega)]
    rfl
  · simp only [if_neg hm, if_pos (show d.monthOfYear - 9 ≤ 2 by omega)]
    rfl

/-- A date from March on is counted from the March of its year. -/
theorem number_ofCivil {c : Civil} (h : 2 < c.month) :
    (ofCivil c).number = march c.year + monthStart (c.month - 3) + c.day - 1 := by
  simp only [ofCivil, march, monthStart, if_neg (not_le.mpr h)]
  omega

/-- A date of January or February is counted from the March of the year before. -/
theorem number_ofCivil_of_le {c : Civil} (h : c.month ≤ 2) :
    (ofCivil c).number = march (c.year - 1) + monthStart (c.month + 9) + c.day - 1 := by
  simp only [ofCivil, march, monthStart, if_pos h]
  omega

/-- **Counting up to the date of a day gives the day back.** -/
theorem ofCivil_civil (d : Day) : ofCivil d.civil = d := by
  have hmonth := d.monthOfYear_bounds
  have hnumber : (ofCivil d.civil).number = d.number := by
    rw [civil_eq]
    by_cases hm : d.monthOfYear < 10
    · rw [number_ofCivil (by simp only [if_pos hm]; omega)]
      simp only [if_pos hm, add_sub_cancel_right, dayOfYear]
      omega
    · rw [number_ofCivil_of_le (by simp only [if_neg hm]; omega)]
      simp only [if_neg hm, add_sub_cancel_right, dayOfYear, sub_add_cancel]
      omega
  cases hd : ofCivil d.civil
  rw [hd] at hnumber
  cases d
  exact congrArg Day.mk hnumber

/-- A year has at least 365 days. -/
theorem newYear_succ (year : Int) : newYear year + 365 ≤ newYear (year + 1) := by
  have h := march_succ (year - 1)
  rw [sub_add_cancel] at h
  simp only [newYear, add_sub_cancel_right]
  split at h <;> omega

theorem newYear_le_of_le {y z : Int} (h : y ≤ z) : newYear y ≤ newYear z := by
  induction z, h using Int.leInduction with
  | base => exact le_refl _
  | succ z _ ih =>
    have hyear := newYear_succ z
    omega

/-- The first of January comes before the first of March, by two months at most. -/
theorem newYear_lt_march (year : Int) : newYear year + 59 ≤ march year ∧ march year ≤ newYear year + 60 := by
  have h := march_succ (year - 1)
  rw [sub_add_cancel] at h
  unfold newYear
  split at h <;> omega

/-- The months of March to December are in the year of their March, the other two in the next one. -/
theorem monthOfYear_lt_iff (d : Day) : d.monthOfYear < 10 ↔ d.dayOfYear < 306 := by
  unfold monthOfYear
  omega

/-- The year of the date of a day begins before the day and ends behind it. -/
theorem newYear_civil (d : Day) :
    newYear d.civil.year ≤ d.number ∧ d.number < newYear (d.civil.year + 1) := by
  have hle := d.march_le
  have hlt := d.lt_march_succ
  have hmonth := d.monthOfYear_lt_iff
  have hfirst := newYear_lt_march d.marchYear
  have hsecond := newYear_lt_march (d.marchYear + 1)
  have hsuccs : newYear (d.marchYear + 1) = march d.marchYear + 306 := by
    rw [newYear, add_sub_cancel_right]
  have hthird := newYear_lt_march (d.marchYear + 1 + 1)
  have hlast : newYear (d.marchYear + 1 + 1) = march (d.marchYear + 1) + 306 := by
    rw [newYear, add_sub_cancel_right]
  rw [dayOfYear] at hmonth
  rw [civil_eq]
  by_cases hm : d.monthOfYear < 10
  · simp only [if_pos hm]
    omega
  · simp only [if_neg hm]
    omega

/-- **The years from January on.** -/
theorem civil_year_eq_iff {d : Day} {year : Int} :
    d.civil.year = year ↔ newYear year ≤ d.number ∧ d.number < newYear (year + 1) := by
  obtain ⟨hle, hlt⟩ := d.newYear_civil
  constructor
  · rintro rfl
    exact ⟨hle, hlt⟩
  · rintro ⟨hle', hlt'⟩
    rcases lt_trichotomy d.civil.year year with h | h | h
    · have hyears := newYear_le_of_le (y := d.civil.year + 1) (z := year) (by omega)
      omega
    · exact h
    · have hyears := newYear_le_of_le (y := year + 1) (z := d.civil.year) (by omega)
      omega

/-- A day of the calendar has a year of the calendar. -/
theorem civil_year_mem {d : Day} (h : d.inCalendar = true) :
    firstYear ≤ d.civil.year ∧ d.civil.year ≤ lastYear := by
  obtain ⟨hle, hlt⟩ := d.newYear_civil
  simp only [inCalendar_iff, first, last] at h
  have hfirst : newYear 1 = -719162 := by decide
  have hlast : newYear 10000 = 2932897 := by decide
  simp only [firstYear, lastYear]
  constructor
  · by_contra hyear
    have hyears := newYear_le_of_le (y := d.civil.year + 1) (z := 1) (by omega)
    omega
  · by_contra hyear
    have hyears := newYear_le_of_le (y := 10000) (z := d.civil.year) (by omega)
    omega

/-- The day of the month is one of the month. -/
theorem civil_day_mem (d : Day) :
    1 ≤ d.civil.day ∧ d.civil.day ≤ monthLength d.civil.year d.civil.month := by
  obtain ⟨h₁, h₂⟩ := d.monthOfYear_bounds
  have hnonneg := d.dayOfYear_nonneg
  have hlt := d.dayOfYear_lt
  obtain ⟨month, hmonth⟩ : ∃ month, month = d.monthOfYear := ⟨_, rfl⟩
  have hday : 153 * month ≤ 5 * d.dayOfYear + 2 ∧ 5 * d.dayOfYear + 2 < 153 * month + 153 := by
    rw [hmonth, monthOfYear]
    omega
  rw [civil_eq, ← hmonth]
  rw [← hmonth] at h₁ h₂
  by_cases hlast : month = 11
  · -- February ends the year, with its leap day if there is one
    subst hlast
    have hlength : monthLength (d.marchYear + 1) 2 = 28 + if isLeap (d.marchYear + 1) then 1 else 0 := by
      simp only [monthLength, if_true]
      split <;> rfl
    have hstart : monthStart 11 = 337 := rfl
    norm_num only [hstart, hlength, if_false]
    omega
  · -- all other months have the length that the linear rule gives them
    have hbefore : month ≤ 10 := by omega
    interval_cases month
    all_goals
      norm_num [monthStart, monthLength]
      omega

theorem civil_month_mem (d : Day) : 1 ≤ d.civil.month ∧ d.civil.month ≤ 12 := by
  have hmonth := d.monthOfYear_bounds
  rw [civil_eq]
  dsimp only
  split <;> omega

/-- **The date of a day of the calendar is one of the calendar's.** -/
theorem isValid_civil {d : Day} (h : d.inCalendar = true) : d.civil.isValid = true := by
  obtain ⟨hfirst, hlast⟩ := civil_year_mem h
  obtain ⟨hmonth, hmonth'⟩ := d.civil_month_mem
  obtain ⟨hday, hday'⟩ := d.civil_day_mem
  simp only [Civil.isValid, Bool.and_eq_true, decide_eq_true_eq]
  exact ⟨⟨⟨⟨⟨hfirst, hlast⟩, hmonth⟩, hmonth'⟩, hday⟩, hday'⟩

/-- **A day of the calendar is the day of its date.** -/
theorem ofCivil?_civil {d : Day} (h : d.inCalendar = true) : ofCivil? d.civil = some d := by
  rw [ofCivil?, if_pos (isValid_civil h), ofCivil_civil]

end Day

end Daylight
