import Daylight.Boundaries
import Mathlib.Tactic.Linarith

/-!
# Instants of moments

What a moment with a zone stands for is its instant, and almost everything that is computed from a
moment depends on the instant alone: its milliseconds, its reading in another zone, its day there.
This module states so, one lemma for each operation, and says when the operation succeeds.

A conversion into another zone looks the instant up in the calendar first. A moment that is in the
named zone already is not looked up, so there the reason has to come from elsewhere: a clock is less
than a day away from universal time, and the days before and after the reading are in the calendar
when `adjacentDays` has found them. `inCalendar_of_adjacentDays` puts both together. It is what keeps
everything that follows an evaluation from failing.
-/

namespace Daylight

/-- A computation of two steps succeeds when both do. -/
theorem bind_eq_ok_iff {ε α β : Type} {x : Except ε α} {f : α → Except ε β} {b : β} :
    x >>= f = .ok b ↔ ∃ a, x = .ok a ∧ f a = .ok b := by
  cases x with
  | error e => simp [bind, Except.bind]
  | ok a => simp [bind, Except.bind]

/-- A computation of two steps fails when one of them does. -/
theorem bind_eq_error_iff {ε α β : Type} {x : Except ε α} {f : α → Except ε β} {e : ε} :
    x >>= f = .error e ↔ x = .error e ∨ ∃ a, x = .ok a ∧ f a = .error e := by
  cases x with
  | error failure => simp [bind, Except.bind]
  | ok a => simp [bind, Except.bind]

theorem ok_bind {ε α β : Type} (a : α) (f : α → Except ε β) : (Except.ok a : Except ε α) >>= f = f a := rfl

theorem error_bind {ε α β : Type} (e : ε) (f : α → Except ε β) :
    (Except.error e : Except ε α) >>= f = .error e := rfl

theorem map_eq_ok_iff {α β : Type} {x : Except Failure α} {f : α → β} {b : β} :
    f <$> x = .ok b ↔ ∃ a, x = .ok a ∧ f a = b := by
  cases x with
  | error e => simp [Functor.map, Except.map]
  | ok a => simp [Functor.map, Except.map]

/-! ### Offsets -/

/-- Whether microseconds are less than a day, on either side. -/
def IsBelowDay (offset : Int) : Prop := -dayLength < offset ∧ offset < dayLength

theorem IsOffset.isBelowDay {seconds : Int} (h : IsOffset seconds) : IsBelowDay (seconds * second) := by
  obtain ⟨h₁, h₂⟩ := h
  constructor <;> simp only [dayLength, second] <;> omega

/-- The offsets before and after a change are less than a day. -/
def Change.IsBounded (c : Change) : Prop := IsBelowDay c.before ∧ IsBelowDay c.after

theorem isBounded_of_mem_chain {recorded : List (Int × Int)} (h : ∀ c ∈ recorded, IsOffset c.2) :
    ∀ {before : Int}, IsOffset before → ∀ c ∈ chain before recorded, c.IsBounded := by
  induction recorded with
  | nil => intro before _ c hc; cases hc
  | cons entry rest ih =>
    intro before hb c hc
    have ha : IsOffset entry.2 := h entry List.mem_cons_self
    rw [chain] at hc
    rcases List.mem_cons.mp hc with rfl | hc
    · exact ⟨hb.isBelowDay, ha.isBelowDay⟩
    · exact ih (fun c hc => h c (List.mem_cons_of_mem _ hc)) ha c hc

theorem Yearly.isBounded_of_mem_changes {y : Yearly} (hs : IsOffset y.standard)
    (hd : IsOffset y.summer) (year : Int) : ∀ c ∈ y.changes year, c.IsBounded := by
  intro c hc
  simp only [Yearly.changes] at hc
  split at hc
  · simp only [List.mem_cons, List.not_mem_nil, or_false] at hc
    rcases hc with rfl | rfl
    · exact ⟨hs.isBelowDay, hd.isBelowDay⟩
    · exact ⟨hd.isBelowDay, hs.isBelowDay⟩
  · simp only [List.mem_cons, List.not_mem_nil, or_false] at hc
    rcases hc with rfl | rfl
    · exact ⟨hd.isBelowDay, hs.isBelowDay⟩
    · exact ⟨hs.isBelowDay, hd.isBelowDay⟩

theorem Region.isBounded_of_mem_governing (r : Region) (key : Change → Int) (time : Int) :
    ∀ c ∈ r.governing key time, c.IsBounded := by
  obtain ⟨hb, hr, hy⟩ := r.isBounded
  have hchain : ∀ c ∈ r.changes, c.IsBounded := isBounded_of_mem_chain hr hb
  intro c hc
  unfold Region.governing at hc
  split at hc
  · rename_i yearly hyearly
    obtain ⟨hs, hd⟩ := hy yearly hyearly
    split at hc
    · exact Yearly.isBounded_of_mem_changes hs hd _ c hc
    · exact hchain c hc
  · exact hchain c hc

/-- The offset that is found among changes is the one before them or one of theirs. -/
theorem isBelowDay_offsetAt (key : Change → Int) (time : Int) {changes : List Change}
    (h : ∀ c ∈ changes, c.IsBounded) :
    ∀ {offset : Int}, IsBelowDay offset → IsBelowDay (offsetAt key time offset changes) := by
  induction changes with
  | nil => intro offset ho; exact ho
  | cons c rest ih =>
    intro offset ho
    rw [offsetAt]
    split
    · exact ih (fun c hc => h c (List.mem_cons_of_mem _ hc)) (h c List.mem_cons_self).2
    · exact ho

/-- **The clock of a region is less than a day away from universal time.** -/
theorem Region.isBelowDay_offsetAt (r : Region) (key : Change → Int) (time : Int) :
    IsBelowDay (r.offsetAt key time) := by
  have h := r.isBounded_of_mem_governing key (startOfSecond time)
  refine Daylight.isBelowDay_offsetAt key _ h ?_
  cases hg : r.governing key (startOfSecond time) with
  | nil => simpa [hg] using r.isBounded.1.isBelowDay
  | cons c rest => simpa [hg] using (h c (by rw [hg]; exact List.mem_cons_self)).1

/-! ### Conversions -/

theorem Day.inCalendar_iff {d : Day} :
    d.inCalendar = true ↔ first.number ≤ d.number ∧ d.number ≤ last.number := by
  simp [inCalendar]

@[simp] theorem Day.plus_zero (d : Day) : d.plus 0 = d := by simp [plus]

theorem Day.plus_plus (d : Day) (m n : Int) : (d.plus m).plus n = d.plus (m + n) := by
  simp only [plus, add_assoc]

/-- The day after the day before. -/
@[simp] theorem Day.plus_back (d : Day) : (d.plus (-1)).plus 1 = d := by simp [plus_plus]

/-- A day between two days of the calendar is one of them. -/
theorem Day.inCalendar_between {d : Day} {l m n : Int} (hl : (d.plus l).inCalendar = true)
    (hn : (d.plus n).inCalendar = true) (h₁ : l ≤ m) (h₂ : m ≤ n) : (d.plus m).inCalendar = true := by
  rw [inCalendar_iff] at hl hn ⊢
  simp only [plus] at hl hn ⊢
  omega

namespace Moment

@[simp] theorem checked_of_inCalendar {wall : Int} (h : inCalendar wall = true) :
    checked wall = .ok wall := by simp [checked, h]

theorem inCalendar_of_checked {wall w : Int} (h : checked wall = .ok w) :
    inCalendar wall = true ∧ w = wall := by
  unfold checked at h
  split at h
  · rename_i hc
    exact ⟨hc, by simpa using h.symm⟩
  · cases h

theorem inCalendar_iff {wall : Int} : inCalendar wall = true ↔ lowest ≤ wall ∧ wall ≤ highest := by
  simp [inCalendar]

theorem instant?_eq_some_iff {m : Moment} {i : Int} :
    m.instant? = some i ↔ ∃ zone, m.zone = some zone ∧ m.wall - zone.offsetAtWall m.fold m.wall = i := by
  cases hz : m.zone with
  | none => simp [instant?, offset?, hz]
  | some zone => simp [instant?, offset?, hz]

theorem offset?_of_instant? {m : Moment} {i : Int} (h : m.instant? = some i) :
    ∃ offset, m.offset? = some offset ∧ m.wall - offset = i := by
  simpa [instant?] using h

@[simp] theorem instant?_ofInstant (i : Int) : (ofInstant i).instant? = some i := by
  simp [instant?, offset?, ofInstant, Zone.utc, Zone.offsetAtWall]

/-- A conversion that takes place, seen from the instant. -/
theorem inZone_of_instant? {m : Moment} {zone : Zone} {i : Int} (hi : m.instant? = some i)
    (hz : ¬ (zone.isNamed ∧ m.zone = some zone)) :
    m.inZone zone = (do
      let instant ← checked i
      let wall ← checked (instant + zone.offsetAtInstant instant)
      return ⟨wall, some zone, zone.repeats instant⟩) := by
  obtain ⟨offset, ho, rfl⟩ := offset?_of_instant? hi
  simp only [inZone, if_neg hz, ho]
  rfl

theorem inZone_eq_ok_iff {m moved : Moment} {zone : Zone} {i : Int} (hi : m.instant? = some i)
    (hz : ¬ (zone.isNamed ∧ m.zone = some zone)) :
    m.inZone zone = .ok moved ↔
      inCalendar i = true ∧ inCalendar (i + zone.offsetAtInstant i) = true ∧
        moved = ⟨i + zone.offsetAtInstant i, some zone, zone.repeats i⟩ := by
  rw [inZone_of_instant? hi hz]
  constructor
  · intro h
    simp only [bind_eq_ok_iff] at h
    obtain ⟨_, hc, _, hw, hm⟩ := h
    obtain ⟨hin, rfl⟩ := inCalendar_of_checked hc
    obtain ⟨hin', rfl⟩ := inCalendar_of_checked hw
    exact ⟨hin, hin', (Except.ok.inj hm).symm⟩
  · rintro ⟨hin, hin', rfl⟩
    simp only [checked_of_inCalendar hin, checked_of_inCalendar hin', bind, Except.bind]
    rfl

/-- In universal time a moment reads its instant. -/
theorem inZone_utc {m : Moment} {i : Int} (hi : m.instant? = some i) (hc : inCalendar i = true) :
    m.inZone .utc = .ok (ofInstant i) := by
  rw [inZone_of_instant? hi (by simp [Zone.utc, Zone.isNamed])]
  simp only [checked_of_inCalendar hc, Zone.utc, Zone.offsetAtInstant, Zone.repeats, ofInstant]
  simp [bind, Except.bind, pure, Except.pure, hc]

theorem toUtc_of_instant? {m : Moment} {i : Int} (hi : m.instant? = some i)
    (hc : inCalendar i = true) : m.toUtc = .ok (ofInstant i) := by
  obtain ⟨zone, hz, -⟩ := instant?_eq_some_iff.mp hi
  simp only [toUtc, hz]
  exact inZone_utc hi hc

/-- A moment with a zone that can be told in universal time has an instant of the calendar. -/
theorem instant?_of_toUtc {m utc : Moment} (hz : m.zone ≠ none) (h : m.toUtc = .ok utc) :
    ∃ i, m.instant? = some i ∧ inCalendar i = true ∧ utc = ofInstant i := by
  obtain ⟨zone, hzone⟩ := Option.ne_none_iff_exists'.mp hz
  have hi : m.instant? = some (m.wall - zone.offsetAtWall m.fold m.wall) :=
    instant?_eq_some_iff.mpr ⟨zone, hzone, rfl⟩
  have hmoved := h
  simp only [toUtc, hzone] at hmoved
  rw [inZone_of_instant? hi (by simp [Zone.utc, Zone.isNamed])] at hmoved
  obtain ⟨_, hc, -⟩ := bind_eq_ok_iff.mp hmoved
  have hin := (inCalendar_of_checked hc).1
  rw [toUtc_of_instant? hi hin] at h
  exact ⟨_, hi, hin, (Except.ok.inj h).symm⟩

/-- A moment of universal time is left as it is. -/
theorem eq_of_toUtc_ofInstant {i : Int} {utc : Moment} (h : (ofInstant i).toUtc = .ok utc) :
    utc = ofInstant i := by
  have hz : (ofInstant i).inZone .utc = .ok utc := h
  rw [inZone_of_instant? (instant?_ofInstant i) (by simp [Zone.utc, Zone.isNamed]),
    bind_eq_ok_iff] at hz
  obtain ⟨_, hc, -⟩ := hz
  rw [toUtc_of_instant? (instant?_ofInstant i) (inCalendar_of_checked hc).1] at h
  exact (Except.ok.inj h).symm

theorem toMillis_of_instant? {m : Moment} {i : Int} (hi : m.instant? = some i)
    (hc : inCalendar i = true) : m.toMillis = .ok (i / 1000) := by
  obtain ⟨zone, hz, -⟩ := instant?_eq_some_iff.mp hi
  simp only [toMillis, hz, inZone_utc hi hc]
  rfl

/-- Milliseconds are those of the instant, which lies in the calendar. -/
theorem instant?_of_toMillis {m : Moment} {millis : Int} (h : m.toMillis = .ok millis) :
    ∃ i, m.instant? = some i ∧ inCalendar i = true ∧ millis = i / 1000 := by
  cases hz : m.zone with
  | none => simp [toMillis, hz] at h
  | some zone =>
    have hi : m.instant? = some (m.wall - zone.offsetAtWall m.fold m.wall) :=
      instant?_eq_some_iff.mpr ⟨zone, hz, rfl⟩
    have hu := h
    simp only [toMillis, hz] at hu
    rw [inZone_of_instant? hi (by simp [Zone.utc, Zone.isNamed])] at hu
    simp only [bind_eq_ok_iff] at hu
    obtain ⟨_, ⟨_, hc, -⟩, -⟩ := hu
    have hin := (inCalendar_of_checked hc).1
    rw [toMillis_of_instant? hi hin] at h
    exact ⟨_, hi, hin, (Except.ok.inj h).symm⟩

/-- An instant that does not lie in the calendar has no milliseconds. -/
theorem toMillis_of_not_inCalendar {m : Moment} {i : Int} (hi : m.instant? = some i)
    (hc : inCalendar i = false) : m.toMillis = .error .outOfRange := by
  obtain ⟨zone, hz, -⟩ := instant?_eq_some_iff.mp hi
  simp only [toMillis, hz]
  rw [inZone_of_instant? hi (by simp [Zone.utc, Zone.isNamed])]
  simp [checked, hc, bind, Except.bind]

/-- A count of milliseconds whose start lies in the calendar is a moment. -/
theorem ofMillis_of_inCalendar {millis : Int} (h : inCalendar (millis * 1000) = true) :
    ofMillis millis = .ok (ofInstant (millis * 1000)) := by
  have hb := inCalendar_iff.mp h
  simp only [lowest, highest, Day.first, Day.last, Day.start, dayLength, second] at hb
  have hw : ¬ (millis / millisOfDay < -2147483648 ∨ 2147483647 < millis / millisOfDay) := by
    simp only [millisOfDay]; omega
  have hd : ¬ (millis / millisOfDay < -999999999 ∨ 999999999 < millis / millisOfDay) := by
    simp only [millisOfDay]; omega
  simp only [ofMillis, if_neg hw, if_neg hd, checked_of_inCalendar h]
  rfl

/-- A count of milliseconds is a moment when its start lies in the calendar, and then one of universal
time. -/
theorem ofMillis_eq_ok_iff {millis : Int} {m : Moment} :
    ofMillis millis = .ok m ↔ inCalendar (millis * 1000) = true ∧ m = ofInstant (millis * 1000) := by
  constructor
  · intro h
    have hin : inCalendar (millis * 1000) = true := by
      simp only [ofMillis] at h
      split at h
      · cases h
      split at h
      · cases h
      obtain ⟨wall, hc, -⟩ := bind_eq_ok_iff.mp h
      exact (inCalendar_of_checked hc).1
    rw [ofMillis_of_inCalendar hin] at h
    exact ⟨hin, (Except.ok.inj h).symm⟩
  · rintro ⟨hin, rfl⟩
    exact ofMillis_of_inCalendar hin

/-- Rounding down to milliseconds does not leave the calendar. -/
theorem inCalendar_floor {i : Int} (h : inCalendar i = true) :
    inCalendar (i / 1000 * 1000) = true := by
  rw [inCalendar_iff] at h ⊢
  simp only [lowest, highest, Day.first, Day.last, Day.start, dayLength, second] at h ⊢
  omega

/-! ### Days -/

/-- A reading of the calendar lies on a day of it. -/
theorem inCalendar_ofWall {wall : Int} (h : inCalendar wall = true) :
    (Day.ofWall wall).inCalendar = true := by
  rw [inCalendar_iff] at h
  rw [Day.inCalendar_iff]
  simp only [lowest, highest, Day.first, Day.last, Day.start, Day.ofWall, dayLength, second] at h ⊢
  omega

/-- What the days around a moment are: those around the day of its reading in the zone. -/
theorem adjacentDays_eq_ok_iff {now : Moment} {zone : Zone} {days : AdjacentDays} :
    now.adjacentDays zone = .ok days ↔
      ∃ moved, now.zone ≠ none ∧ now.inZone zone = .ok moved ∧
        (moved.day.plus (-1)).inCalendar = true ∧ (moved.day.plus 1).inCalendar = true ∧
        days = ⟨moved.day.plus (-1), moved.day, moved.day.plus 1⟩ := by
  cases hz : now.zone with
  | none => simp [adjacentDays, localDay, hz, bind, Except.bind]
  | some z =>
    cases hm : now.inZone zone with
    | error e => simp [adjacentDays, localDay, hz, hm, bind, Except.bind]
    | ok moved =>
      simp only [adjacentDays, localDay, hz, hm, Day.shift, bind, Except.bind, pure, Except.pure]
      by_cases hy : (moved.day.plus (-1)).inCalendar = true
      · by_cases ht : (moved.day.plus 1).inCalendar = true
        · simp only [hy, ht, if_true, Except.ok.injEq]
          constructor
          · rintro rfl
            exact ⟨moved, by simp, rfl, hy, ht, rfl⟩
          · rintro ⟨_, -, rfl, -, -, rfl⟩
            rfl
        · simp [hy, ht]
      · simp [hy]

/-- The day in the middle is the day of the moment. -/
theorem localDay_of_adjacentDays {now : Moment} {zone : Zone} {days : AdjacentDays}
    (h : now.adjacentDays zone = .ok days) : now.localDay zone = .ok days.today := by
  obtain ⟨moved, hne, hm, -, -, rfl⟩ := adjacentDays_eq_ok_iff.mp h
  obtain ⟨z, hz⟩ := Option.ne_none_iff_exists'.mp hne
  simp only [localDay, hz, hm]
  rfl

/-- **A moment whose neighbouring days are in the calendar has an instant of the calendar.** -/
theorem inCalendar_of_adjacentDays {now : Moment} {zone : Zone} {days : AdjacentDays}
    (h : now.adjacentDays zone = .ok days) :
    ∃ i, now.instant? = some i ∧ inCalendar i = true := by
  obtain ⟨moved, hne, hm, hy, ht, -⟩ := adjacentDays_eq_ok_iff.mp h
  obtain ⟨z, hz⟩ := Option.ne_none_iff_exists'.mp hne
  have hi : now.instant? = some (now.wall - z.offsetAtWall now.fold now.wall) :=
    instant?_eq_some_iff.mpr ⟨z, hz, rfl⟩
  refine ⟨_, hi, ?_⟩
  by_cases hnamed : zone.isNamed ∧ now.zone = some zone
  · -- nothing was looked up, but the clock of the region is less than a day away
    rw [inZone, if_pos hnamed, Except.ok.injEq] at hm
    subst hm
    obtain ⟨hn, hzone⟩ := hnamed
    obtain rfl : z = zone := Option.some.inj (hz.symm.trans hzone)
    cases z with
    | fixed offset purpose => simp [Zone.isNamed] at hn
    | region r =>
      obtain ⟨h₁, h₂⟩ := r.isBelowDay_offsetAt (·.reading now.fold) now.wall
      rw [Day.inCalendar_iff] at hy ht
      rw [inCalendar_iff, Zone.offsetAtWall]
      simp only [day, Day.ofWall, Day.plus, lowest, highest, Day.start, dayLength, second, Day.first,
        Day.last] at h₁ h₂ hy ht ⊢
      omega
  · rw [inZone_of_instant? hi hnamed, bind_eq_ok_iff] at hm
    obtain ⟨_, hc, -⟩ := hm
    exact (inCalendar_of_checked hc).1

end Moment

/-- The milliseconds of a moment with an instant of the calendar. -/
theorem Boundaries.millisOf_of_instant? {m : Moment} {i : Int} (hi : m.instant? = some i)
    (hc : Moment.inCalendar i = true) : millisOf m = .ok (i / 1000) := by
  simp only [millisOf, Moment.toUtc_of_instant? hi hc, bind, Except.bind]
  exact Moment.toMillis_of_instant? (Moment.instant?_ofInstant i) hc

/-! ### Zones with one offset -/

/-- A zone whose clocks are always ahead of universal time by the same offset. -/
structure Zone.HasOffset (zone : Zone) (offset : Int) : Prop where
  /-- At every instant. -/
  atInstant : ∀ instant, zone.offsetAtInstant instant = offset
  /-- At every reading. -/
  atWall : ∀ fold wall, zone.offsetAtWall fold wall = offset
  /-- The offset is less than a day. -/
  isBelowDay : IsBelowDay offset

theorem Zone.hasOffset_fixed {offset : Int} (h : IsBelowDay offset) (purpose : Zone.Purpose) :
    (Zone.fixed offset purpose).HasOffset offset :=
  ⟨fun _ => rfl, fun _ _ => rfl, h⟩

theorem Zone.hasOffset_utc : Zone.utc.HasOffset 0 := hasOffset_fixed ⟨by decide, by decide⟩ .offset

namespace Moment

variable {zone : Zone} {offset : Int}

/-- Where the offset does not change, a moment reads its instant and the offset. -/
theorem wall_of_inZone (hz : zone.HasOffset offset) {m moved : Moment} {i : Int}
    (hi : m.instant? = some i) (h : m.inZone zone = .ok moved) : moved.wall = i + offset := by
  by_cases hn : zone.isNamed ∧ m.zone = some zone
  · rw [inZone, if_pos hn, Except.ok.injEq] at h
    obtain ⟨z, hz', hw⟩ := instant?_eq_some_iff.mp hi
    obtain rfl : z = zone := Option.some.inj (hz'.symm.trans hn.2)
    rw [hz.atWall] at hw
    rw [← h]
    omega
  · simp only [inZone_of_instant? hi hn, bind_eq_ok_iff, hz.atInstant] at h
    obtain ⟨instant, hc, wall, hw, h⟩ := h
    obtain ⟨-, rfl⟩ := inCalendar_of_checked hc
    obtain ⟨-, rfl⟩ := inCalendar_of_checked hw
    rw [← Except.ok.inj h]

/-- The days around a moment, from its instant. -/
theorem adjacentDays_of_hasOffset (hz : zone.HasOffset offset) {now : Moment} {days : AdjacentDays}
    {i : Int} (hi : now.instant? = some i) (h : now.adjacentDays zone = .ok days) :
    days.today = Day.ofWall (i + offset) ∧ days.yesterday = days.today.plus (-1) ∧
      days.tomorrow = days.today.plus 1 ∧ days.yesterday.inCalendar = true ∧
      days.tomorrow.inCalendar = true := by
  obtain ⟨moved, -, hm, hy, ht, rfl⟩ := adjacentDays_eq_ok_iff.mp h
  refine ⟨?_, rfl, rfl, hy, ht⟩
  rw [← wall_of_inZone hz hi hm]
  rfl

/-- **The days around a moment can be told where the days next to it are in the calendar.** The clock is
less than a day away from universal time, so the instant is in the calendar then, too. -/
theorem adjacentDays_of_inCalendar (hz : zone.HasOffset offset) {now : Moment} {i : Int}
    (hi : now.instant? = some i) (hy : ((Day.ofWall (i + offset)).plus (-1)).inCalendar = true)
    (ht : ((Day.ofWall (i + offset)).plus 1).inCalendar = true) :
    now.adjacentDays zone = .ok ⟨(Day.ofWall (i + offset)).plus (-1), Day.ofWall (i + offset),
      (Day.ofWall (i + offset)).plus 1⟩ := by
  obtain ⟨z, hz', -⟩ := instant?_eq_some_iff.mp hi
  have hin : inCalendar i = true ∧ inCalendar (i + offset) = true := by
    obtain ⟨h₁, h₂⟩ := hz.isBelowDay
    rw [Day.inCalendar_iff] at hy ht
    rw [inCalendar_iff, inCalendar_iff]
    simp only [Day.ofWall, Day.plus, lowest, highest, Day.start, dayLength, second, Day.first,
      Day.last] at h₁ h₂ hy ht ⊢
    omega
  have hmoved : ∃ moved, now.inZone zone = .ok moved := by
    by_cases hn : zone.isNamed ∧ now.zone = some zone
    · exact ⟨now, by rw [inZone, if_pos hn]⟩
    · rw [inZone_of_instant? hi hn, checked_of_inCalendar hin.1]
      simp only [bind, Except.bind, hz.atInstant, checked_of_inCalendar hin.2]
      exact ⟨_, rfl⟩
  obtain ⟨moved, hmoved⟩ := hmoved
  have hday : moved.day = Day.ofWall (i + offset) := by rw [day, wall_of_inZone hz hi hmoved]
  rw [← hday] at hy ht ⊢
  exact adjacentDays_eq_ok_iff.mpr ⟨moved, by simp [hz'], hmoved, hy, ht, rfl⟩

end Moment

end Daylight
