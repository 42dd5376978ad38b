import Daylight.Proofs.Leaving

/-!
# Moments that are read

Whatever a text is read as, it is a reading of the calendar: its date is one of the calendar, and its time is
one of the day. Only its offset may lead out of the calendar, and then the moment cannot be told in universal
time.

## What is proved

* `Moment.inCalendar_of_readWeek?`, `Moment.inCalendar_of_readCivil?`: the two forms of a date.
* `Moment.inCalendar_of_readDate?`, `Moment.mem_day_of_readClock?`: dates and times that are read.
* `Moment.read?_cases`: a text that is read is a reading of the calendar, without a zone or with an offset.
* `Moment.toUtc_of_read?`: so it can be told in universal time if and only if its reading there is one of the
  calendar.
-/

namespace Daylight

/-! ### Dates -/

namespace Day

/-- A date lies in its year. -/
theorem civil_year_ofCivil {c : Civil} (hm : 1 ≤ c.month ∧ c.month ≤ 12)
    (hd : 1 ≤ c.day ∧ c.day ≤ monthLength c.year c.month) : (ofCivil c).civil.year = c.year := by
  have hlength : c.day ≤ 31 ∧ (c.month = 2 → c.day ≤ 29) := by
    simp only [monthLength] at hd
    split_ifs at hd <;> omega
  have hmarch := newYear_lt_march c.year
  have hbefore := newYear_lt_march (c.year - 1)
  have hyear : newYear c.year = march (c.year - 1) + 306 := rfl
  have hnext : newYear (c.year + 1) = march c.year + 306 := by rw [newYear, add_sub_cancel_right]
  rw [civil_year_eq_iff]
  by_cases h : 2 < c.month
  · rw [number_ofCivil h, hnext, monthStart]
    omega
  · rw [number_ofCivil_of_le (by omega), hnext, monthStart]
    omega

/-- A year of the calendar has days of the calendar. -/
theorem inCalendar_of_civil_year {d : Day} (h : firstYear ≤ d.civil.year ∧ d.civil.year ≤ lastYear) :
    d.inCalendar = true := by
  obtain ⟨hle, hlt⟩ := d.newYear_civil
  have hfirst := newYear_le_of_le (y := 1) (z := d.civil.year) h.1
  have hlast := newYear_le_of_le (y := d.civil.year + 1) (z := 10000) (by simp only [lastYear] at h; omega)
  have hfirstDay : newYear 1 = -719162 := by decide
  have hlastDay : newYear 10000 = 2932897 := by decide
  rw [inCalendar_iff, first, last]
  show -719162 ≤ d.number ∧ d.number ≤ 2932896
  omega

theorem inCalendar_of_ofCivil? {c : Civil} {d : Day} (h : ofCivil? c = some d) : d.inCalendar = true := by
  rw [ofCivil?] at h
  split at h
  case isTrue hvalid =>
    obtain rfl := Option.some.inj h
    simp only [Civil.isValid, Bool.and_eq_true, decide_eq_true_eq] at hvalid
    obtain ⟨⟨⟨⟨⟨hfirst, hlast⟩, hm⟩, hm'⟩, hd⟩, hd'⟩ := hvalid
    apply inCalendar_of_civil_year
    rw [civil_year_ofCivil ⟨hm, hm'⟩ ⟨hd, hd'⟩]
    exact ⟨hfirst, hlast⟩
  case isFalse => cases h

theorem inCalendar_of_ofWeek? {year week day : Int} {d : Day} (h : ofWeek? year week day = some d) :
    d.inCalendar = true := by
  simp only [ofWeek?] at h
  split at h
  · split at h
    case isTrue hin =>
      cases h
      exact hin
    case isFalse => cases h
  · cases h

end Day

namespace Moment

open Text

/-- A week that is read begins, or has its day, in the calendar. -/
theorem inCalendar_of_readWeek? {year : Nat} {hyphens : Bool} {cs : List Char} {d : Day}
    (h : readWeek? year hyphens cs = some d) : d.inCalendar = true := by
  obtain ⟨⟨week, rest⟩, -, h⟩ := Option.bind_eq_some_iff.mp h
  dsimp only at h
  split at h
  case isTrue => exact Day.inCalendar_of_ofWeek? h
  case isFalse =>
    obtain ⟨day, -, h⟩ := Option.bind_eq_some_iff.mp h
    split at h
    case isTrue =>
      obtain ⟨n, -, h⟩ := Option.bind_eq_some_iff.mp h
      exact Day.inCalendar_of_ofWeek? h
    case isFalse => cases h

/-- A month and a day that are read are of the calendar. -/
theorem inCalendar_of_readCivil? {year : Nat} {hyphens : Bool} {cs : List Char} {d : Day}
    (h : readCivil? year hyphens cs = some d) : d.inCalendar = true := by
  obtain ⟨⟨month, rest⟩, -, h⟩ := Option.bind_eq_some_iff.mp h
  obtain ⟨behind, -, h⟩ := Option.bind_eq_some_iff.mp h
  obtain ⟨⟨day, rest⟩, -, h⟩ := Option.bind_eq_some_iff.mp h
  dsimp only at h
  split at h
  case isTrue => exact Day.inCalendar_of_ofCivil? h
  case isFalse => cases h

/-- Whatever is read as a date is a day of the calendar. -/
theorem inCalendar_of_readDate? {cs : List Char} {d : Day} (h : readDate? cs = some d) :
    d.inCalendar = true := by
  rw [readDate?] at h
  dsimp only at h
  split at h
  case isFalse => cases h
  case isTrue =>
    obtain ⟨year, -, h⟩ := Option.bind_eq_some_iff.mp h
    split at h
    · exact inCalendar_of_readWeek? h
    · exact inCalendar_of_readCivil? h

/-! ### Times -/

theorem lt_of_readDigits {start n : Nat} {cs : List Char} (h : readDigits start cs = some n) :
    n < (start + 1) * 10 ^ cs.length := by
  induction cs generalizing start with
  | nil =>
    cases h
    simp
  | cons c cs ih =>
    obtain ⟨digit, hdigit, h⟩ := Option.bind_eq_some_iff.mp h
    have hle : digit ≤ 9 := by
      simp only [asciiDigit?] at hdigit
      split at hdigit
      case isTrue hbetween =>
        cases hdigit
        have hnine : c.toNat ≤ '9'.toNat := hbetween.2
        have : '9'.toNat = '0'.toNat + 9 := rfl
        omega
      case isFalse => cases hdigit
    calc n < (start * 10 + digit + 1) * 10 ^ cs.length := ih h
      _ ≤ ((start + 1) * 10) * 10 ^ cs.length := Nat.mul_le_mul_right _ (by omega)
      _ = (start + 1) * 10 ^ (c :: cs).length := by rw [List.length_cons, Nat.pow_succ', mul_assoc]

/-- The fraction that is read is less than a second. -/
theorem micros_lt_of_readFraction? {cs : List Char} {t : ReadTime} (h : readFraction? cs = some t) :
    t.micros < 1000000 := by
  obtain ⟨value, hvalue, h⟩ := Option.bind_eq_some_iff.mp h
  cases h
  have hlt := lt_of_readDigits hvalue
  have hlength : (cs.take 6).length ≤ 6 := List.length_take_le 6 cs
  calc value * tenTo (6 - (cs.take 6).length)
      < (0 + 1) * 10 ^ (cs.take 6).length * 10 ^ (6 - (cs.take 6).length) :=
        Nat.mul_lt_mul_of_pos_right hlt (Nat.pow_pos (by decide))
    _ = 1000000 := by rw [zero_add, one_mul, ← Nat.pow_add, Nat.add_sub_cancel' hlength]

theorem micros_lt_of_readParts? {colons : Bool} {count : Nat} {cs : List Char} {t : ReadTime}
    (h : readParts? colons count cs = some t) : t.micros < 1000000 := by
  induction count generalizing cs t with
  | zero => exact micros_lt_of_readFraction? h
  | succ count ih =>
    obtain ⟨⟨value, rest⟩, -, h⟩ := Option.bind_eq_some_iff.mp h
    -- The part in front of what follows leaves the fraction as it is.
    have hfront : ∀ {more : ReadTime}, more.micros < 1000000 →
        some { more with parts := value :: more.parts } = some t → t.micros < 1000000 := by
      intro more hmore hdone
      cases hdone
      exact hmore
    simp only [Option.bind_eq_bind] at h
    split at h
    · exact hfront (Nat.zero_lt_succ _) h
    · split at h
      · exact hfront (Nat.zero_lt_succ _) h
      · cases h
    · split at h
      · obtain ⟨more, hmore, h⟩ := Option.bind_eq_some_iff.mp h
        exact hfront (ih hmore) h
      · split at h
        · obtain ⟨more, hmore, h⟩ := Option.bind_eq_some_iff.mp h
          exact hfront (micros_lt_of_readFraction? hmore) h
        · split at h
          · cases h
          · obtain ⟨more, hmore, h⟩ := Option.bind_eq_some_iff.mp h
            exact hfront (ih hmore) h

/-- A time of day that is valid lies within a day. -/
theorem ReadTime.isValid_iff {t : ReadTime} : t.isValid = true ↔
    t.parts.getD 0 0 < 24 ∧ t.parts.getD 1 0 < 60 ∧ t.parts.getD 2 0 < 60 := by
  simp [ReadTime.isValid, and_assoc]

/-- A time that is read lies within a day. -/
theorem mem_day_of_readClock? {cs : List Char} {ofDay : Int} {offset : Option Int}
    (h : readClock? cs = some (ofDay, offset)) : 0 ≤ ofDay ∧ ofDay < dayLength := by
  obtain ⟨t, ht, h⟩ := Option.bind_eq_some_iff.mp h
  have hmicros : t.micros < 1000000 := micros_lt_of_readParts? ht
  have hend : ∀ {offset' : Option Int}, (if t.isValid = true then some ((t.seconds : Int) * second + t.micros,
      offset') else none) = some (ofDay, offset) → 0 ≤ ofDay ∧ ofDay < dayLength := by
    intro offset' hend
    split at hend
    case isFalse => cases hend
    case isTrue hvalid =>
      cases hend
      obtain ⟨hhour, hminute, hsecond⟩ := ReadTime.isValid_iff.mp hvalid
      simp only [ReadTime.seconds, dayLength, second]
      omega
  simp only [Option.bind_eq_bind] at h
  split at h
  · split at h
    · exact hend h
    · cases h
  · split at h
    · exact hend h
    · cases h
  · obtain ⟨_, -, h⟩ := Option.bind_eq_some_iff.mp h
    exact hend h

/-! ### Moments -/

/-- A text that is read is a reading of the calendar, without a zone or with an offset. -/
theorem read?_cases {cs : List Char} {m : Moment} (h : read? cs = some m) :
    inCalendar m.wall = true ∧ m.fold = false ∧
      (m.zone = none ∨ ∃ offset, m.zone = some (.fixed offset .offset)) := by
  rw [read?] at h
  split at h
  case isTrue => cases h
  case isFalse =>
    obtain ⟨length, -, h⟩ := Option.bind_eq_some_iff.mp h
    obtain ⟨day, hday, h⟩ := Option.bind_eq_some_iff.mp h
    have hin := inCalendar_of_readDate? hday
    have hwall : ∀ {ofDay : Int}, 0 ≤ ofDay ∧ ofDay < dayLength → inCalendar (day.start + ofDay) = true := by
      intro ofDay hofDay
      rw [Day.inCalendar_iff] at hin
      rw [inCalendar_iff]
      simp only [lowest, highest, Day.start, dayLength, second] at hofDay ⊢
      omega
    split at h
    · cases h
      exact ⟨add_zero day.start ▸ hwall (by decide : (0 : Int) ≤ 0 ∧ (0 : Int) < dayLength), rfl, .inl rfl⟩
    · cases h
    · obtain ⟨⟨ofDay, offset⟩, hclock, h⟩ := Option.bind_eq_some_iff.mp h
      cases h
      refine ⟨hwall (mem_day_of_readClock? hclock), rfl, ?_⟩
      cases offset with
      | none => exact .inl rfl
      | some offset => exact .inr ⟨offset, rfl⟩

/-- What a moment is in universal time, where one without a zone is taken for one of universal time. -/
def universal (m : Moment) : Int := m.wall - m.offset?.getD 0

/-- **A text that is read is told in universal time** if and only if its reading there is one of the
calendar. -/
theorem toUtc_of_read? {cs : List Char} {m : Moment} (h : read? cs = some m) :
    m.toUtc = if inCalendar m.universal then .ok (ofInstant m.universal) else .error .outOfRange := by
  obtain ⟨hin, hfold, hzone⟩ := read?_cases h
  obtain hnone | ⟨offset, hsome⟩ := hzone
  · have huniversal : m.universal = m.wall := by simp [universal, offset?, hnone]
    rw [huniversal, if_pos hin, toUtc, hnone, ofInstant, ← hfold]
  · have hinstant : m.instant? = some m.universal := by simp [universal, instant?, offset?, hsome]
    split
    case isTrue hcalendar => exact toUtc_of_instant? hinstant hcalendar
    case isFalse hout =>
      simp only [toUtc, hsome]
      rw [inZone_of_instant? hinstant (by simp [Zone.utc, Zone.isNamed]), checked, if_neg hout]
      rfl

end Moment

end Daylight
