import Daylight.Proofs.Calendar

/-!
# There and back on a clock that changes

A clock is looked up in two ways. An instant has an offset, and so has a reading, but a change happens at one
instant and at two readings, and which of the two counts depends on the fold. Here the two are shown to fit
together: the reading of an instant, with the fold that says whether it comes for the second time, has the
offset of the instant.

Most of it is about one list of changes. Let the changes lie four days apart, and let all offsets be less than a
day. Then a reading is never near two changes, and the changes that have happened by the reading are those that
have happened at the instant. The other part is about the list, since the two ways of asking need not look at
the same one. At the turn of a year the reading may lie in another year than the instant: there the offset is
the same in all years. Where a yearly rule goes on behind recorded changes, the reading may still be governed by
the recorded ones: that depends on the data there (`Yearly.Continues`).

## What is proved

* `AreSound.reading_le_iff`: which changes have happened, told by the reading.
* `Yearly.IsSound.exists_changes`: the two changes of every year, from the rules for all years.
* `Region.IsSound.offsetAt_reading`: the two ways of asking fit together for a region whose changes lie apart.
* `Atlas.isSound`: they do in all named zones.
* `Moment.instant?_of_inZone`: a conversion into a known zone keeps the instant.
-/

namespace Daylight

/-! ### One list of changes -/

/-- Changes in their order: each finds the offset that the one before has left, and happens at least four
days after it. -/
def AreApart : Int → List Change → Prop
  | _, [] => True
  | offset, c :: rest =>
    c.before = offset ∧ (∀ d ∈ rest, c.instant + 4 * dayLength ≤ d.instant) ∧ AreApart c.after rest

instance AreApart.decidable : (offset : Int) → (changes : List Change) → Decidable (AreApart offset changes)
  | _, [] => .isTrue trivial
  | _, c :: rest =>
    have := AreApart.decidable c.after rest
    inferInstanceAs (Decidable (_ ∧ _ ∧ _))

/-- Changes that lie apart, all by less than a day's offset. -/
structure AreSound (offset : Int) (changes : List Change) : Prop where
  /-- They lie apart. -/
  apart : AreApart offset changes
  /-- The offset at the start is less than a day. -/
  start : IsBelowDay offset
  /-- So are all others. -/
  bounded : ∀ c ∈ changes, c.IsBounded

/-- Whether a clock at an instant shows for the second time what it shows. -/
def RepeatsAt (changes : List Change) (t : Int) : Prop :=
  ∃ c ∈ changes, c.instant ≤ t ∧ t < c.instant + (c.before - c.after)

section

variable {changes : List Change} {offset t : Int} {key : Change → Int}

/-- The offset that is found is the one at the start, or that of a change that has happened. -/
theorem offsetAt_mem (key : Change → Int) (t : Int) (changes : List Change) (offset : Int) :
    offsetAt key t offset changes = offset ∨
      ∃ c ∈ changes, key c ≤ t ∧ offsetAt key t offset changes = c.after := by
  induction changes generalizing offset with
  | nil => exact .inl rfl
  | cons c rest ih =>
    rw [offsetAt]
    split
    · rename_i hc
      rcases ih c.after with h | ⟨d, hd, hle, h⟩
      · exact .inr ⟨c, List.mem_cons_self, hc, h⟩
      · exact .inr ⟨d, List.mem_cons_of_mem _ hd, hle, h⟩
    · exact .inl rfl

/-- Two ways of asking find the same offset if the same changes have happened for both. -/
theorem offsetAt_congr {key' : Change → Int} {t' : Int} (h : ∀ c ∈ changes, key c ≤ t ↔ key' c ≤ t') :
    offsetAt key t offset changes = offsetAt key' t' offset changes := by
  induction changes generalizing offset with
  | nil => rfl
  | cons c rest ih =>
    simp only [offsetAt, h c List.mem_cons_self, ih fun d hd => h d (List.mem_cons_of_mem _ hd)]

theorem offsetAt_of_lt (h : ∀ c ∈ changes, t < key c) : offsetAt key t offset changes = offset := by
  cases changes with
  | nil => rfl
  | cons c rest => rw [offsetAt, if_neg (not_le.mpr (h c List.mem_cons_self))]

theorem offsetAt_of_le (h : ∀ c ∈ changes, key c ≤ t) {last : Change} (hl : changes.getLast? = some last) :
    offsetAt key t offset changes = last.after := by
  induction changes generalizing offset with
  | nil => cases hl
  | cons c rest ih =>
    rw [offsetAt, if_pos (h c List.mem_cons_self)]
    cases rest with
    | nil =>
      obtain rfl := Option.some.inj hl
      rfl
    | cons d rest =>
      rw [List.getLast?_cons_cons] at hl
      exact ih (fun e he => h e (List.mem_cons_of_mem _ he)) hl

/-- Two changes are one, or they do not come close to each other. -/
theorem AreApart.eq_or_le (h : AreApart offset changes) {c d : Change} (hc : c ∈ changes) (hd : d ∈ changes)
    (hle : c.instant ≤ d.instant) : c = d ∨ c.instant + 4 * dayLength ≤ d.instant := by
  induction changes generalizing offset with
  | nil => cases hc
  | cons e rest ih =>
    obtain ⟨-, hrest, hapart⟩ := h
    rcases List.mem_cons.mp hc with rfl | hc'
    · rcases List.mem_cons.mp hd with rfl | hd'
      · exact .inl rfl
      · exact .inr (hrest d hd')
    · rcases List.mem_cons.mp hd with rfl | hd'
      · have hbefore := hrest c hc'
        simp only [dayLength, second] at hbefore
        omega
      · exact ih hapart hc' hd'

/-- The last change comes after all others. -/
theorem AreApart.eq_or_le_last (h : AreApart offset changes) {c last : Change} (hc : c ∈ changes)
    (hl : changes.getLast? = some last) : c = last ∨ c.instant + 4 * dayLength ≤ last.instant := by
  refine h.eq_or_le hc (List.mem_of_getLast? hl) ?_
  induction changes generalizing offset with
  | nil => cases hc
  | cons e rest ih =>
    obtain ⟨-, hrest, hapart⟩ := h
    cases rest with
    | nil =>
      obtain rfl : e = last := Option.some.inj hl
      rw [List.mem_singleton.mp hc]
    | cons d rest =>
      rw [List.getLast?_cons_cons] at hl
      rcases List.mem_cons.mp hc with rfl | hc'
      · have hbehind := hrest last (List.mem_of_getLast? hl)
        simp only [dayLength, second] at hbehind
        omega
      · exact ih hapart hc' hl

/-- **What an offset tells about a change that has happened**: it is the one that the change has left, or the
change lies four days back. -/
theorem AreApart.after_or_le (h : AreApart offset changes) {c : Change} (hc : c ∈ changes)
    (hle : c.instant ≤ t) :
    offsetAt (·.instant) t offset changes = c.after ∨ c.instant + 4 * dayLength ≤ t := by
  induction changes generalizing offset with
  | nil => cases hc
  | cons e rest ih =>
    obtain ⟨-, hrest, hapart⟩ := h
    have hfirst : e.instant ≤ t := by
      rcases List.mem_cons.mp hc with rfl | hc
      · exact hle
      · have hbehind := hrest c hc
        simp only [dayLength, second] at hbehind
        omega
    rw [offsetAt, if_pos hfirst]
    rcases List.mem_cons.mp hc with rfl | hc
    · rcases offsetAt_mem (·.instant) t rest c.after with hkept | ⟨d, hd, hdle, -⟩
      · exact .inl hkept
      · exact .inr ((hrest d hd).trans hdle)
    · exact ih hapart hc

/-- **What an offset tells about a change to come**: it is the one that the change finds, or the change is
more than four days ahead. -/
theorem AreApart.before_or_lt (h : AreApart offset changes) {c : Change} (hc : c ∈ changes)
    (hlt : t < c.instant) :
    offsetAt (·.instant) t offset changes = c.before ∨ t + 4 * dayLength < c.instant := by
  induction changes generalizing offset with
  | nil => cases hc
  | cons e rest ih =>
    obtain ⟨hbefore, hrest, hapart⟩ := h
    rw [offsetAt]
    split
    · rename_i hfirst
      rcases List.mem_cons.mp hc with rfl | hc
      · exact absurd hfirst (not_le.mpr hlt)
      · exact ih hapart hc
    · rename_i hfirst
      rcases List.mem_cons.mp hc with rfl | hc
      · exact .inl hbefore.symm
      · have hbehind := hrest c hc
        exact .inr (by omega)

/-- A change happens within a day, by the clock. -/
theorem Change.IsBounded.reading {c : Change} (h : c.IsBounded) (fold : Bool) :
    c.instant - dayLength < c.reading fold ∧ c.reading fold < c.instant + dayLength := by
  obtain ⟨⟨h₁, h₂⟩, h₃, h₄⟩ := h
  unfold Change.reading
  cases fold
  · simp only [Bool.false_eq_true, if_false]
    omega
  · simp only [if_true]
    omega

/-- A change that has happened is read as one, by the clock that it has set. -/
theorem reading_le_of_mem {fold : Bool} (hfold : fold = true ↔ RepeatsAt changes t) {c : Change}
    (hc : c ∈ changes) (hle : c.instant ≤ t) : c.reading fold ≤ t + c.after := by
  cases fold with
  | false =>
    have hover : ¬ t < c.instant + (c.before - c.after) := fun hlt => by
      simpa using hfold.mpr ⟨c, hc, hle, hlt⟩
    simp only [Change.reading, Bool.false_eq_true, if_false]
    omega
  | true =>
    simp only [Change.reading, if_true]
    omega

/-- **The reading of a clock, with its fold, tells which changes have happened.** -/
theorem AreSound.reading_le_iff (h : AreSound offset changes) {fold : Bool}
    (hfold : fold = true ↔ RepeatsAt changes t) {c : Change} (hc : c ∈ changes) :
    c.reading fold ≤ t + offsetAt (·.instant) t offset changes ↔ c.instant ≤ t := by
  obtain ⟨o, hoffset⟩ : ∃ o, o = offsetAt (·.instant) t offset changes := ⟨_, rfl⟩
  obtain ⟨hlow, hhigh⟩ : IsBelowDay o := hoffset ▸ isBelowDay_offsetAt (·.instant) t h.bounded h.start
  obtain ⟨hafter, hbefore⟩ := (h.bounded c hc).reading fold
  rw [← hoffset]
  constructor
  · intro hle
    by_contra hlt
    rw [not_le] at hlt
    rcases h.apart.before_or_lt hc hlt with hfound | hfar
    · -- the change comes next
      rw [← hoffset] at hfound
      cases fold with
      | false =>
        simp only [Change.reading, Bool.false_eq_true, if_false] at hle
        omega
      | true =>
        obtain ⟨d, hd, hdle, hdlt⟩ := hfold.mp rfl
        obtain ⟨⟨h₁, h₂⟩, h₃, h₄⟩ := h.bounded d hd
        rcases h.apart.eq_or_le hd hc (by omega) with rfl | hapart <;> omega
    · omega
  · intro hle
    rcases h.apart.after_or_le hc hle with hfound | hfar
    · -- the change was the last one
      rw [hoffset, hfound]
      exact reading_le_of_mem hfold hc hle
    · omega

/-- A change that happens now is not read as one that has happened before. -/
theorem AreSound.le_reading_of_instant (h : AreSound offset changes) {fold : Bool}
    (hfold : fold = true ↔ RepeatsAt changes t) {c : Change} (hc : c ∈ changes) (ht : c.instant = t) :
    t + offsetAt (·.instant) t offset changes ≤ c.reading fold := by
  subst ht
  have hfound : offsetAt (·.instant) c.instant offset changes = c.after := by
    rcases h.apart.after_or_le hc (le_refl _) with hfound | hfar
    · exact hfound
    · simp only [dayLength, second] at hfar
      omega
  rw [hfound, Change.reading]
  cases fold with
  | false =>
    simp only [Bool.false_eq_true, if_false]
    omega
  | true =>
    -- the change that makes the clock repeat itself cannot be another one
    obtain ⟨d, hd, hle, hlt⟩ := hfold.mp rfl
    obtain ⟨⟨h₁, h₂⟩, h₃, h₄⟩ := h.bounded d hd
    simp only [if_true]
    rcases h.apart.eq_or_le hd hc hle with rfl | hapart <;> omega

end

/-! ### The changes of a year -/

/-- A rule for one day of a month from March to November, and for a time a week off at most. -/
def ChangeRule.IsSound (r : ChangeRule) : Prop :=
  (3 ≤ r.month ∧ r.month ≤ 11) ∧ (1 ≤ r.week ∧ r.week ≤ 5) ∧ (-604800 ≤ r.time ∧ r.time ≤ 604800)

/-- Two rules with three months between them, and two offsets. -/
def Yearly.IsSound (y : Yearly) : Prop :=
  (y.begins.IsSound ∧ y.ends.IsSound) ∧ (IsOffset y.standard ∧ IsOffset y.summer) ∧
    (y.begins.month + 3 ≤ y.ends.month ∨ y.ends.month + 3 ≤ y.begins.month)

/-- The offset at the turn of a year. -/
def Yearly.turn (y : Yearly) : Int :=
  (if y.begins.month < y.ends.month then y.standard else y.summer) * second

/-- The year of a reading of universal time. -/
def yearOf (t : Int) : Int := (Day.ofWall t).civil.year

/-- The reading at which a year begins. -/
def yearStart (year : Int) : Int := Day.newYear year * dayLength

theorem yearOf_eq_iff {t year : Int} :
    yearOf t = year ↔ yearStart year ≤ t ∧ t < yearStart (year + 1) := by
  rw [yearOf, Day.civil_year_eq_iff]
  simp only [Day.ofWall, yearStart, dayLength, second]
  omega

theorem yearStart_le_of_le {y z : Int} (h : y ≤ z) : yearStart y ≤ yearStart z := by
  have hdays := Day.newYear_le_of_le h
  simp only [yearStart, dayLength, second]
  omega

/-- A rule names a time in its month, or a week off at most. -/
theorem ChangeRule.IsSound.wall_bounds {r : ChangeRule} (h : r.IsSound) (year : Int) :
    (Day.march year + Day.monthStart (r.month - 3) - 7) * dayLength ≤ r.wall year ∧
      r.wall year ≤ (Day.march year + Day.monthStart (r.month - 3) + 37) * dayLength := by
  obtain ⟨⟨hmonth, -⟩, ⟨hweek, hweek'⟩, htime, htime'⟩ := h
  have hlength : 28 ≤ monthLength year r.month ∧ monthLength year r.month ≤ 31 := by
    unfold monthLength
    split_ifs <;> omega
  have hstart : (Day.ofCivil ⟨year, r.month, 1⟩).number = Day.march year + Day.monthStart (r.month - 3) := by
    rw [Day.number_ofCivil (by dsimp only; omega)]
    dsimp only
    omega
  simp only [ChangeRule.wall, Day.start, Day.plus, hstart, dayLength, second]
  generalize monthLength year r.month = length at hlength ⊢
  generalize (Day.ofCivil ⟨year, r.month, 1⟩).weekday = weekday
  split <;> omega

/-- Two rules with three months between them name times in a year that lie four days apart, and as far from
the ends of the year. -/
theorem ChangeRule.IsSound.apart {r₁ r₂ : ChangeRule} (h₁ : r₁.IsSound) (h₂ : r₂.IsSound)
    (hmonths : r₁.month + 3 ≤ r₂.month) {p q : Int} (hp : IsOffset p) (hq : IsOffset q) (year : Int) :
    yearStart year + 4 * dayLength ≤ r₁.wall year - p * second ∧
      r₁.wall year - p * second + 4 * dayLength ≤ r₂.wall year - q * second ∧
      r₂.wall year - q * second + 4 * dayLength ≤ yearStart (year + 1) := by
  obtain ⟨h₁₁, h₁₂⟩ := h₁.wall_bounds year
  obtain ⟨h₂₁, h₂₂⟩ := h₂.wall_bounds year
  obtain ⟨hy₁, hy₂⟩ := Day.newYear_lt_march year
  have hnext : Day.newYear (year + 1) = Day.march year + 306 := by
    rw [Day.newYear, add_sub_cancel_right]
  obtain ⟨⟨hm₁, -⟩, -⟩ := h₁
  obtain ⟨⟨-, hm₂⟩, -⟩ := h₂
  obtain ⟨hp₁, hp₂⟩ := hp
  obtain ⟨hq₁, hq₂⟩ := hq
  simp only [yearStart, hnext]
  simp only [Day.monthStart, dayLength, second] at h₁₁ h₁₂ h₂₁ h₂₂ ⊢
  omega

/-- **The two changes of a year** lie four days apart and as far from the ends of the year, and the offset at
its ends is always the same. -/
theorem Yearly.IsSound.exists_changes {y : Yearly} (h : y.IsSound) (year : Int) :
    ∃ a b, y.changes year = [a, b] ∧ AreApart y.turn [a, b] ∧
      yearStart year + 4 * dayLength ≤ a.instant ∧ b.instant + 4 * dayLength ≤ yearStart (year + 1) ∧
      b.after = y.turn := by
  obtain ⟨⟨hbegins, hends⟩, ⟨hs, hd⟩, hmonths⟩ := h
  by_cases hfirst : y.begins.month < y.ends.month
  · obtain ⟨hlow, hapart, hhigh⟩ := hbegins.apart hends (by omega) hs hd year
    have hlt : y.begins.wall year - y.standard * second < y.ends.wall year - y.summer * second := by
      simp only [dayLength, second] at hapart ⊢
      omega
    refine ⟨_, _, if_pos hlt, ?_, hlow, hhigh, ?_⟩
    · simp [AreApart, Yearly.turn, if_pos hfirst, hapart]
    · simp [Yearly.turn, if_pos hfirst]
  · obtain ⟨hlow, hapart, hhigh⟩ := hends.apart hbegins (by omega) hd hs year
    have hlt : ¬ y.begins.wall year - y.standard * second < y.ends.wall year - y.summer * second := by
      simp only [dayLength, second] at hapart ⊢
      omega
    refine ⟨_, _, if_neg hlt, ?_, hlow, hhigh, ?_⟩
    · simp [AreApart, Yearly.turn, if_neg hfirst, hapart]
    · simp [Yearly.turn, if_neg hfirst]

/-- **Near its ends, a year has the offset that it has at its ends**, by every way of asking that finds a change
on its day. -/
theorem Yearly.IsSound.offsetAt_turn {y : Yearly} (h : y.IsSound) {key : Change → Int} {year t : Int}
    (hkey : ∀ c ∈ y.changes year, c.instant - dayLength < key c ∧ key c < c.instant + dayLength)
    (hnear : t < yearStart year + dayLength ∨ yearStart (year + 1) - dayLength < t) :
    offsetAt key t y.turn (y.changes year) = y.turn := by
  obtain ⟨a, b, hchanges, ⟨-, hapart, -⟩, hlow, hhigh, hturn⟩ := h.exists_changes year
  have hb := hapart b (List.mem_singleton_self b)
  rw [hchanges] at hkey ⊢
  have hkeyA := hkey a List.mem_cons_self
  have hkeyB := hkey b (List.mem_cons_of_mem _ (List.mem_singleton_self b))
  rcases hnear with hstart | hend
  · refine offsetAt_of_lt fun c hc => ?_
    simp only [List.mem_cons, List.not_mem_nil, or_false] at hc
    rcases hc with rfl | rfl <;> omega
  · refine (offsetAt_of_le (fun c hc => ?_) rfl).trans hturn
    simp only [List.mem_cons, List.not_mem_nil, or_false] at hc
    rcases hc with rfl | rfl <;> omega

/-- A clock that shows another year is near the turn between the two. -/
theorem near_turn {t offset : Int} (ho : IsBelowDay offset) (hyear : yearOf (t + offset) ≠ yearOf t) :
    (t < yearStart (yearOf t) + dayLength ∨ yearStart (yearOf t + 1) - dayLength < t) ∧
      (t + offset < yearStart (yearOf (t + offset)) + dayLength ∨
        yearStart (yearOf (t + offset) + 1) - dayLength < t + offset) := by
  obtain ⟨hlow, hhigh⟩ := ho
  obtain ⟨h₁, h₂⟩ := yearOf_eq_iff.mp (rfl : yearOf t = _)
  obtain ⟨h₃, h₄⟩ := yearOf_eq_iff.mp (rfl : yearOf (t + offset) = _)
  rcases lt_or_gt_of_ne hyear with hlt | hlt
  · have hyears := yearStart_le_of_le (y := yearOf (t + offset) + 1) (z := yearOf t) (by omega)
    exact ⟨.inl (by omega), .inr (by omega)⟩
  · have hyears := yearStart_le_of_le (y := yearOf t + 1) (z := yearOf (t + offset)) (by omega)
    exact ⟨.inr (by omega), .inl (by omega)⟩

/-! ### Regions -/

/-- A yearly rule goes on behind the last recorded change: it has the same offset there, no change of its own
in the four days behind it or at the end of its year, and it has the last change among its own if that puts the
clock back. -/
def Yearly.Continues (y : Yearly) (last : Change) : Prop :=
  offsetAt (·.instant) last.instant y.turn (y.changes (yearOf last.instant)) = last.after ∧
    (∀ c ∈ y.changes (yearOf last.instant), last.instant < c.instant →
      last.instant + 4 * dayLength ≤ c.instant) ∧
    yearOf (last.instant + 4 * dayLength) = yearOf last.instant ∧
    (last.before ≤ last.after ∨ last ∈ y.changes (yearOf last.instant))

/-- The changes of a region lie four days apart, the recorded ones, those of a year, and where they meet. -/
def Region.IsSound (r : Region) : Prop :=
  AreApart (r.before * second) r.changes ∧
    ∀ y ∈ r.yearly, y.IsSound ∧ ∀ last ∈ r.changes.getLast?, y.Continues last

instance : DecidablePred ChangeRule.IsSound := fun _ => inferInstanceAs (Decidable (_ ∧ _))

instance : DecidablePred Yearly.IsSound := fun _ => inferInstanceAs (Decidable (_ ∧ _))

instance (y : Yearly) : DecidablePred y.Continues := fun _ => inferInstanceAs (Decidable (_ ∧ _))

instance : DecidablePred Region.IsSound := fun _ => inferInstanceAs (Decidable (_ ∧ _))

/-- **The named zones are sound.** -/
theorem Atlas.isSound : ∀ r ∈ Atlas.regions, r.IsSound := by
  decide +kernel

/-- The changes that govern a time are the recorded ones, unless all of them have happened before. -/
theorem Region.governing_cases (r : Region) (key : Change → Int) (t : Int) :
    (r.governing key t = r.changes ∧ ∀ y, r.yearly = some y → ∃ c ∈ r.changes, t ≤ key c) ∨
      ∃ y, r.yearly = some y ∧ (∀ c ∈ r.changes, key c < t) ∧ r.governing key t = y.changes (yearOf t) := by
  unfold governing
  cases hy : r.yearly with
  | none => exact .inl ⟨rfl, fun y h => by cases h⟩
  | some y =>
    by_cases hall : r.changes.all (fun c => decide (key c < t)) = true
    · refine .inr ⟨y, rfl, fun c hc => ?_, if_pos hall⟩
      exact of_decide_eq_true (List.all_eq_true.mp hall c hc)
    · refine .inl ⟨if_neg hall, fun _ _ => ?_⟩
      simpa [List.all_eq_true] using hall

/-- Offsets in whole seconds. -/
theorem Region.dvd_of_mem_governing (r : Region) (key : Change → Int) (t : Int) :
    ∀ c ∈ r.governing key t, second ∣ c.before ∧ second ∣ c.after := by
  have hchain : ∀ recorded before, ∀ c ∈ chain before recorded, second ∣ c.before ∧ second ∣ c.after := by
    intro recorded
    induction recorded with
    | nil => intro before c hc; cases hc
    | cons entry rest ih =>
      intro before c hc
      rcases List.mem_cons.mp hc with rfl | hc
      · exact ⟨Dvd.intro_left _ rfl, Dvd.intro_left _ rfl⟩
      · exact ih _ c hc
  intro c hc
  rcases r.governing_cases key t with ⟨hg, -⟩ | ⟨y, -, -, hg⟩
  · rw [hg] at hc
    exact hchain _ _ c hc
  · rw [hg] at hc
    simp only [Yearly.changes] at hc
    split at hc
    all_goals
      simp only [List.mem_cons, List.not_mem_nil, or_false] at hc
      rcases hc with rfl | rfl <;> exact ⟨Dvd.intro_left _ rfl, Dvd.intro_left _ rfl⟩

theorem Region.dvd_offsetAt (r : Region) (key : Change → Int) (time : Int) : second ∣ r.offsetAt key time := by
  have hall := r.dvd_of_mem_governing key (startOfSecond time)
  simp only [Region.offsetAt]
  generalize r.governing key (startOfSecond time) = changes at hall ⊢
  have hstart : second ∣ (changes.head?.map (·.before)).getD (r.before * second) := by
    cases changes with
    | nil => exact Dvd.intro_left _ rfl
    | cons c rest => exact (hall c List.mem_cons_self).1
  rcases offsetAt_mem key (startOfSecond time) changes _ with h | ⟨c, hc, -, h⟩
  · rw [h]
    exact hstart
  · rw [h]
    exact (hall c hc).2

/-- An offset in whole seconds does not move the start of a second. -/
theorem startOfSecond_add {offset : Int} (h : second ∣ offset) (i : Int) :
    startOfSecond (i + offset) = startOfSecond i + offset := by
  obtain ⟨k, rfl⟩ := h
  simp only [startOfSecond, second]
  omega

theorem Region.repeats_iff (r : Region) (i : Int) :
    r.repeats i = true ↔ RepeatsAt (r.governing (·.instant) (startOfSecond i)) (startOfSecond i) := by
  simp [repeats, RepeatsAt]

/-- The offset before changes that lie apart is that before the first of them. -/
theorem AreApart.getD_head? {offset start : Int} {changes : List Change} (h : AreApart offset changes)
    (hne : changes = [] → start = offset) : (changes.head?.map (·.before)).getD start = offset := by
  cases changes with
  | nil => exact hne rfl
  | cons c rest => exact h.1

/-- What an offset is, and what is read, shortly behind the last recorded change. -/
theorem Yearly.Continues.offsetAt {y : Yearly} {last : Change} (h : y.Continues last) {t : Int}
    (ht : last.instant < t) (ht' : t < last.instant + 4 * dayLength) :
    offsetAt (·.instant) t y.turn (y.changes (yearOf t)) = last.after ∧
      ∀ {fold : Bool}, (fold = true ↔ RepeatsAt (y.changes (yearOf t)) t) →
        last.reading fold ≤ t + last.after := by
  obtain ⟨hafter, hnone, hyear, hback⟩ := h
  obtain ⟨hlow, -⟩ := yearOf_eq_iff.mp (rfl : yearOf last.instant = _)
  obtain ⟨-, hhigh⟩ := yearOf_eq_iff.mp hyear
  have hsame : yearOf t = yearOf last.instant := yearOf_eq_iff.mpr ⟨by omega, by omega⟩
  refine ⟨?_, fun {fold} hfold => ?_⟩
  · -- no change has happened since
    rw [hsame, ← hafter]
    refine offsetAt_congr fun c hc => ⟨fun hle => ?_, fun hle => hle.trans ht.le⟩
    by_contra hlt
    have hfar := hnone c hc (not_le.mp hlt)
    omega
  · rcases hback with hforward | hmem
    · unfold Change.reading
      split <;> omega
    · exact reading_le_of_mem hfold (hsame ▸ hmem) ht.le

namespace Region.IsSound

variable {r : Region}

theorem recorded (h : r.IsSound) : AreSound (r.before * second) r.changes :=
  ⟨h.1, r.isBounded.1.isBelowDay, isBounded_of_mem_chain r.isBounded.2.1 r.isBounded.1⟩

theorem yearly (h : r.IsSound) {y : Yearly} (hy : r.yearly = some y) (year : Int) :
    AreSound y.turn (y.changes year) ∧ y.changes year ≠ [] := by
  obtain ⟨hsound, -⟩ := h.2 y hy
  obtain ⟨a, b, hchanges, hapart, -⟩ := hsound.exists_changes year
  have hbounded : ∀ c ∈ y.changes year, c.IsBounded :=
    Yearly.isBounded_of_mem_changes hsound.2.1.1 hsound.2.1.2 year
  have hfirst := (hbounded a (by simp [hchanges])).1
  rw [hapart.1] at hfirst
  exact ⟨⟨hchanges ▸ hapart, hfirst, hbounded⟩, by simp [hchanges]⟩

theorem offsetAt_recorded (h : r.IsSound) {key : Change → Int} {time : Int}
    (hg : r.governing key (startOfSecond time) = r.changes) :
    r.offsetAt key time = Daylight.offsetAt key (startOfSecond time) (r.before * second) r.changes := by
  rw [Region.offsetAt]
  simp only [hg, h.1.getD_head? fun _ => rfl]

theorem offsetAt_yearly (h : r.IsSound) {y : Yearly} (hy : r.yearly = some y) {key : Change → Int} {time : Int}
    (hg : r.governing key (startOfSecond time) = y.changes (yearOf (startOfSecond time))) :
    r.offsetAt key time =
      Daylight.offsetAt key (startOfSecond time) y.turn (y.changes (yearOf (startOfSecond time))) := by
  obtain ⟨hsound, hne⟩ := h.yearly hy (yearOf (startOfSecond time))
  rw [Region.offsetAt]
  simp only [hg, hsound.apart.getD_head? fun hnil => absurd hnil hne]

/-- There and back among the recorded changes. -/
theorem offsetAt_reading_recorded (h : r.IsSound) {i : Int}
    (hg : r.governing (·.instant) (startOfSecond i) = r.changes)
    (hsome : ∀ y, r.yearly = some y → ∃ c ∈ r.changes, startOfSecond i ≤ c.instant) :
    r.offsetAt (·.reading (r.repeats i)) (i + r.offsetAt (·.instant) i) = r.offsetAt (·.instant) i := by
  have hwall := startOfSecond_add (r.dvd_offsetAt (·.instant) i) i
  have hoffset := h.offsetAt_recorded hg
  have hfold := r.repeats_iff i
  rw [hg] at hfold
  generalize r.repeats i = fold at hfold ⊢
  have hread : ∀ c ∈ r.changes, c.reading fold ≤ startOfSecond i + r.offsetAt (·.instant) i ↔
      c.instant ≤ startOfSecond i := by
    intro c hc
    rw [hoffset]
    exact h.recorded.reading_le_iff hfold hc
  rcases r.governing_cases (·.reading fold) (startOfSecond i + r.offsetAt (·.instant) i) with
    ⟨hg', -⟩ | ⟨y, hy, hall, -⟩
  · rw [← hwall] at hg'
    rw [h.offsetAt_recorded hg', hwall, offsetAt_congr hread, ← hoffset]
  · -- a change that is to come, or happens now, is not read as one that has happened before
    obtain ⟨c, hc, hle⟩ := hsome y hy
    have hlt := hall c hc
    have hinstant := (hread c hc).mp hlt.le
    have hnow := h.recorded.le_reading_of_instant hfold hc (le_antisymm hinstant hle)
    rw [hoffset] at hlt
    exact absurd hlt (not_lt.mpr hnow)

/-- Where the yearly rule goes on already, but the reading does not lie behind the recorded changes: the last of
them was not long ago, and its offset is the one that is found, either way. -/
theorem offsetAt_shortly_behind (h : r.IsSound) {y : Yearly} (hy : r.yearly = some y) {t offset : Int}
    {fold : Bool} (hall : ∀ c ∈ r.changes, c.instant < t) (ho : IsBelowDay offset)
    (hoffset : offset = Daylight.offsetAt (·.instant) t y.turn (y.changes (yearOf t)))
    (hfold : fold = true ↔ RepeatsAt (y.changes (yearOf t)) t) {c : Change} (hc : c ∈ r.changes)
    (hle : t + offset ≤ c.reading fold) :
    Daylight.offsetAt (·.reading fold) (t + offset) (r.before * second) r.changes = offset := by
  obtain ⟨last, hlast⟩ : ∃ last, r.changes.getLast? = some last :=
    ⟨_, List.getLast?_eq_some_getLast (List.ne_nil_of_mem hc)⟩
  obtain ⟨hlow, hhigh⟩ := ho
  have hbehind := hall last (List.mem_of_getLast? hlast)
  have hclose : t < last.instant + 4 * dayLength := by
    obtain ⟨-, hreading⟩ := (h.recorded.bounded c hc).reading fold
    rcases h.1.eq_or_le_last hc hlast with rfl | hfar <;> omega
  obtain ⟨hafter, hread⟩ := ((h.2 y hy).2 last hlast).offsetAt hbehind hclose
  rw [hafter] at hoffset
  subst hoffset
  refine offsetAt_of_le (fun d hd => ?_) hlast
  rcases h.1.eq_or_le_last hd hlast with rfl | hfar
  · exact hread hfold
  · obtain ⟨-, hreading⟩ := (h.recorded.bounded d hd).reading fold
    omega

/-- There and back among the changes of a year. -/
theorem offsetAt_reading_yearly (h : r.IsSound) {y : Yearly} (hy : r.yearly = some y) {i : Int}
    (hall : ∀ c ∈ r.changes, c.instant < startOfSecond i)
    (hg : r.governing (·.instant) (startOfSecond i) = y.changes (yearOf (startOfSecond i))) :
    r.offsetAt (·.reading (r.repeats i)) (i + r.offsetAt (·.instant) i) = r.offsetAt (·.instant) i := by
  have hwall := startOfSecond_add (r.dvd_offsetAt (·.instant) i) i
  have hoffset := h.offsetAt_yearly hy hg
  have hfold := r.repeats_iff i
  rw [hg] at hfold
  have hbelow := r.isBelowDay_offsetAt (·.instant) i
  generalize r.repeats i = fold at hfold ⊢
  rcases r.governing_cases (·.reading fold) (startOfSecond i + r.offsetAt (·.instant) i) with
    ⟨hg', hsome⟩ | ⟨y', hy', -, hg'⟩
  · obtain ⟨c, hc, hle⟩ := hsome y hy
    rw [← hwall] at hg'
    rw [h.offsetAt_recorded hg', hwall]
    exact h.offsetAt_shortly_behind hy hall hbelow hoffset hfold hc hle
  · obtain rfl : y = y' := Option.some.inj (hy.symm.trans hy')
    rw [← hwall] at hg'
    rw [h.offsetAt_yearly hy hg', hwall]
    by_cases hyear : yearOf (startOfSecond i + r.offsetAt (·.instant) i) = yearOf (startOfSecond i)
    · rw [hyear, hoffset]
      exact offsetAt_congr fun c hc => (h.yearly hy _).1.reading_le_iff hfold hc
    · -- the clock is in another year: both are near the turn between them
      obtain ⟨hnear, hnear'⟩ := near_turn hbelow hyear
      have hsound := (h.2 y hy).1
      rw [hsound.offsetAt_turn (fun c hc => ((h.yearly hy _).1.bounded c hc).reading fold) hnear', hoffset,
        hsound.offsetAt_turn (fun c _ => ?_) hnear]
      simp only [dayLength, second]
      omega

/-- **There and back on the clock of a region.** A reading with its fold has the offset of the instant at which
the clock shows it. -/
theorem offsetAt_reading (h : r.IsSound) (i : Int) :
    r.offsetAt (·.reading (r.repeats i)) (i + r.offsetAt (·.instant) i) = r.offsetAt (·.instant) i := by
  rcases r.governing_cases (·.instant) (startOfSecond i) with ⟨hg, hsome⟩ | ⟨y, hy, hall, hg⟩
  · exact h.offsetAt_reading_recorded hg hsome
  · exact h.offsetAt_reading_yearly hy hall hg

end Region.IsSound

/-! ### Conversions -/

/-- The zones that are known: those with one offset, and the named ones. -/
def Zone.IsKnown : Zone → Prop
  | .fixed .. => True
  | .region r => r ∈ Atlas.regions

/-- There and back on the clock of a known zone. -/
theorem Zone.IsKnown.offsetAtWall {zone : Zone} (h : zone.IsKnown) (i : Int) :
    zone.offsetAtWall (zone.repeats i) (i + zone.offsetAtInstant i) = zone.offsetAtInstant i := by
  cases zone with
  | fixed offset purpose => rfl
  | region r => exact (Atlas.isSound r h).offsetAt_reading i

/-- **A conversion into a known zone keeps the instant**, also where the reading comes twice. -/
theorem Moment.instant?_of_inZone {m moved : Moment} {zone : Zone} (h : zone.IsKnown) {i : Int}
    (hi : m.instant? = some i) (hm : m.inZone zone = .ok moved) : moved.instant? = some i := by
  by_cases hz : zone.isNamed ∧ m.zone = some zone
  · rw [inZone, if_pos hz, Except.ok.injEq] at hm
    exact hm ▸ hi
  · obtain ⟨-, -, rfl⟩ := (inZone_eq_ok_iff hi hz).mp hm
    refine instant?_eq_some_iff.mpr ⟨zone, rfl, ?_⟩
    rw [h.offsetAtWall, add_sub_cancel_right]

end Daylight
