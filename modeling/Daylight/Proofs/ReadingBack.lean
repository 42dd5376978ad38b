import Daylight.Cli.Command
import Daylight.Proofs.Calendar

/-!
# What is written is read back

A moment is written with a fixed number of digits for each part of its date and its time, and read by a reader
that knows many more forms and finds out by the way which one it has before it.

## What is proved

* `readDigits_paddedDigits`: digits give back the number that they were written for, if it has no more of them.
* `readDate?_chars`, `readClock?_timeChars`: the two halves of a written moment.
* `read?_chars`: a moment of universal time is read back as it was.
* `report_reads_back`: every text of a report is read back, by the reader of the command line, to the
  milliseconds that stand beside it.
-/

namespace Daylight

/-! ### Digits -/

namespace Text

theorem asciiDigit?_digitChar (n : Nat) : asciiDigit? (digitChar n) = some (n % 10) := by
  have h : ∀ k < 10, asciiDigit? (Char.ofNat ('0'.toNat + k)) = some k := by decide
  exact h (n % 10) (Nat.mod_lt n (by decide))

theorem isDigit_digitChar (n : Nat) : (digitChar n).isDigit = true := by
  have h : ∀ k < 10, (Char.ofNat ('0'.toNat + k)).isDigit = true := by decide
  exact h (n % 10) (Nat.mod_lt n (by decide))

theorem digitChar_ne {c : Char} (hc : c.isDigit = false) (n : Nat) : digitChar n ≠ c := by
  rintro rfl
  rw [isDigit_digitChar] at hc
  cases hc

theorem readDigits_append (start : Nat) (front rest : List Char) :
    readDigits start (front ++ rest) = (readDigits start front).bind (readDigits · rest) := by
  induction front generalizing start with
  | nil => rfl
  | cons c front ih =>
    cases hc : asciiDigit? c with
    | none => simp [readDigits, hc]
    | some d => simp [readDigits, hc, ih]

/-- **Digits give back their number**, behind what was read before. -/
theorem readDigits_paddedDigits (start width : Nat) {n : Nat} (h : n < 10 ^ width) :
    readDigits start (paddedDigits width n) = some (start * 10 ^ width + n) := by
  induction width generalizing n with
  | zero => simp_all [paddedDigits, readDigits]
  | succ width ih =>
    have hfront : n / 10 < 10 ^ width := by
      rw [Nat.pow_succ] at h
      omega
    rw [paddedDigits, readDigits_append, ih hfront]
    simp only [Option.bind_some, readDigits, asciiDigit?_digitChar, Option.bind_eq_bind, Option.some.injEq]
    rw [Nat.pow_succ, ← mul_assoc]
    omega

@[simp] theorem length_paddedDigits (width n : Nat) : (paddedDigits width n).length = width := by
  induction width generalizing n with
  | zero => rfl
  | succ width ih => simp [paddedDigits, ih]

theorem isDigit_of_mem_paddedDigits {width n : Nat} {c : Char} (h : c ∈ paddedDigits width n) :
    c.isDigit = true := by
  induction width generalizing n with
  | zero => cases h
  | succ width ih =>
    rcases List.mem_append.mp h with h | h
    · exact ih h
    · rw [List.mem_singleton.mp h]
      exact isDigit_digitChar n

/-- Two digits, one by one. -/
theorem paddedDigits_two (n : Nat) : paddedDigits 2 n = [digitChar (n / 10), digitChar n] := rfl

end Text

namespace Moment

open Text

theorem twoDigits?_paddedDigits {n : Nat} (h : n < 100) (rest : List Char) :
    twoDigits? (paddedDigits 2 n ++ rest) = some (n, rest) := by
  have hread := readDigits_paddedDigits 0 2 (n := n) h
  rw [paddedDigits_two] at hread ⊢
  simp [twoDigits?, hread]

/-! ### The date -/

/-- A year, a month and a day with hyphens between them. -/
theorem readDate?_of_parts {cs rest : List Char} {year month day : Nat} (hlength : (cs.take 4).length = 4)
    (hy : readDigits 0 (cs.take 4) = some year) (hhyphen : cs[4]? = some '-')
    (hweek : ∀ behind, cs.drop 5 ≠ 'W' :: behind) (hm : twoDigits? (cs.drop 5) = some (month, '-' :: rest))
    (hd : twoDigits? rest = some (day, [])) : readDate? cs = Day.ofCivil? ⟨year, month, day⟩ := by
  generalize hdrop : cs.drop 5 = behind at hweek hm
  simp only [readDate?, readCivil?, setApart?, hlength, hhyphen, hdrop, if_true, hy, decide_true, hm, hd,
    Option.bind_eq_bind, Option.bind_some, List.isEmpty_nil]

/-- The date of a day is read back. -/
theorem readDate?_chars {d : Day} (h : d.inCalendar = true) : readDate? d.chars = some d := by
  obtain ⟨hy₁, hy₂⟩ : 1 ≤ d.civil.year ∧ d.civil.year ≤ 9999 := Day.civil_year_mem h
  obtain ⟨hm₁, hm₂⟩ := d.civil_month_mem
  obtain ⟨hd₁, hd₂⟩ := d.civil_day_mem
  have hd₃ : d.civil.day ≤ 31 := hd₂.trans (by unfold monthLength; split_ifs <;> omega)
  have hyear := readDigits_paddedDigits 0 4 (n := d.civil.year.toNat) (by omega)
  have hday := twoDigits?_paddedDigits (n := d.civil.day.toNat) (by omega) []
  rw [List.append_nil] at hday
  rw [zero_mul, zero_add] at hyear
  have hchars : d.chars = paddedDigits 4 d.civil.year.toNat ++
      ('-' :: (paddedDigits 2 d.civil.month.toNat ++ '-' :: paddedDigits 2 d.civil.day.toNat)) := by
    simp only [Day.chars, List.append_assoc, List.cons_append]
  have htake : d.chars.take 4 = paddedDigits 4 d.civil.year.toNat := by
    rw [hchars, List.take_left' (length_paddedDigits 4 _)]
  have hdrop : d.chars.drop 5 =
      paddedDigits 2 d.civil.month.toNat ++ '-' :: paddedDigits 2 d.civil.day.toNat := by
    rw [hchars]
    rfl
  have hhyphen : d.chars[4]? = some '-' := by
    rw [hchars]
    rfl
  -- no month begins with the letter that begins a week
  have hweek : ∀ behind, d.chars.drop 5 ≠ 'W' :: behind := by
    intro behind hw
    rw [hdrop] at hw
    exact digitChar_ne rfl _ (List.cons.inj hw).1
  have hmonth : twoDigits? (d.chars.drop 5) =
      some (d.civil.month.toNat, '-' :: paddedDigits 2 d.civil.day.toNat) := by
    rw [hdrop]
    exact twoDigits?_paddedDigits (by omega) _
  have hread := readDate?_of_parts (by rw [htake, length_paddedDigits]) (htake ▸ hyear) hhyphen hweek hmonth hday
  rw [Int.toNat_of_nonneg (by omega), Int.toNat_of_nonneg (by omega), Int.toNat_of_nonneg (by omega)] at hread
  exact hread.trans (Day.ofCivil?_civil h)

/-! ### The time of day -/

/-- The time of day of a reading, as it is written. -/
def timeChars (ofDay : Int) : List Char :=
  hourMinute (ofDay / second) ++ ':' :: paddedDigits 2 (ofDay / second % 60).toNat ++
    fractionChars (ofDay % second)

theorem readingChars_eq (wall : Int) :
    readingChars wall = (Day.ofWall wall).chars ++ 'T' :: timeChars (wall % dayLength) := rfl

/-- A part of a time with another one behind it. -/
theorem readParts?_colon (count : Nat) {n : Nat} (hn : n < 100) {behind : List Char} (hb : behind ≠ []) :
    readParts? true (count + 1) (paddedDigits 2 n ++ ':' :: behind) =
      (readParts? true count behind).map fun t => { t with parts := n :: t.parts } := by
  obtain ⟨c, rest, rfl⟩ := List.exists_cons_of_ne_nil hb
  simp only [readParts?, twoDigits?_paddedDigits hn, Option.bind_eq_bind, Option.bind_some, decide_true,
    Bool.and_self, if_true]
  cases readParts? true count (c :: rest) <;> rfl

theorem readFraction?_paddedDigits {n : Nat} (hn : n < 10 ^ 6) :
    readFraction? (paddedDigits 6 n) = some ⟨[], n, []⟩ := by
  have htake : (paddedDigits 6 n).take 6 = paddedDigits 6 n := List.take_of_length_le (by simp)
  have hdrop : (paddedDigits 6 n).drop 6 = [] := List.drop_of_length_le (by simp)
  simp [readFraction?, htake, hdrop, readDigits_paddedDigits 0 6 hn, tenTo]

/-- The last part of a time, with the fraction of a second. -/
theorem readParts?_fraction (count : Nat) {n : Nat} (hn : n < 100) {micros : Int}
    (h : 0 ≤ micros ∧ micros < second) :
    readParts? true (count + 1) (paddedDigits 2 n ++ fractionChars micros) =
      some ⟨[n], micros.toNat, []⟩ := by
  by_cases hzero : micros = 0
  · subst hzero
    simp only [fractionChars, readParts?, twoDigits?_paddedDigits hn, if_true, Option.bind_eq_bind,
      Option.bind_some]
    rfl
  · have hread := readFraction?_paddedDigits (n := micros.toNat) (by simp only [second] at h; omega)
    have hne : paddedDigits 6 micros.toNat ≠ [] := List.ne_nil_of_length_pos (by simp)
    obtain ⟨c, rest, hdigits⟩ := List.exists_cons_of_ne_nil hne
    rw [hdigits] at hread
    simp only [fractionChars, if_neg hzero, hdigits, readParts?, twoDigits?_paddedDigits hn, hread,
      Option.bind_eq_bind, Option.bind_some, true_or, if_true]
    rfl

/-- **The time of day is read back.** -/
theorem readTime?_timeChars {ofDay : Int} (h : 0 ≤ ofDay ∧ ofDay < dayLength) :
    readTime? (timeChars ofDay) =
      some ⟨[(ofDay / second / 3600).toNat, (ofDay / second / 60 % 60).toNat, (ofDay / second % 60).toNat],
        (ofDay % second).toNat, []⟩ := by
  simp only [dayLength, second] at h
  have hhours : (ofDay / second / 3600).toNat < 100 := by simp only [second]; omega
  have hminutes : (ofDay / second / 60 % 60).toNat < 100 := by omega
  have hseconds : (ofDay / second % 60).toNat < 100 := by omega
  have hfraction : 0 ≤ ofDay % second ∧ ofDay % second < second := by
    simp only [second]
    omega
  have hlast := readParts?_fraction 0 hseconds hfraction
  have hcolon : (timeChars ofDay)[2]? = some ':' := rfl
  have hchars : timeChars ofDay = paddedDigits 2 (ofDay / second / 3600).toNat ++ ':' ::
      (paddedDigits 2 (ofDay / second / 60 % 60).toNat ++ ':' ::
        (paddedDigits 2 (ofDay / second % 60).toNat ++ fractionChars (ofDay % second))) := by
    simp only [timeChars, hourMinute, List.append_assoc, List.cons_append]
  rw [readTime?, decide_eq_true hcolon, hchars, readParts?_colon 2 hhours (by simp [paddedDigits]),
    readParts?_colon 1 hminutes (by simp [paddedDigits]), hlast]
  rfl

/-- What stands in a time is not the beginning of an offset. -/
theorem not_mark_of_mem_timeChars {ofDay : Int} {c : Char} (h : c ∈ timeChars ofDay) :
    c ≠ '+' ∧ c ≠ '-' ∧ c ≠ 'Z' := by
  have hchar : c.isDigit = true ∨ c = ':' ∨ c = '.' := by
    have hfraction : ∀ {micros : Int}, c ∈ fractionChars micros → c.isDigit = true ∨ c = '.' := by
      intro micros hc
      unfold fractionChars at hc
      split at hc
      · cases hc
      · rcases List.mem_cons.mp hc with rfl | hc
        · exact .inr rfl
        · exact .inl (isDigit_of_mem_paddedDigits hc)
    simp only [timeChars, hourMinute, List.mem_append, List.mem_cons] at h
    rcases h with ((h | h | h) | h | h) | h
    · exact .inl (isDigit_of_mem_paddedDigits h)
    · exact .inr (.inl h)
    · exact .inl (isDigit_of_mem_paddedDigits h)
    · exact .inr (.inl h)
    · exact .inl (isDigit_of_mem_paddedDigits h)
    · exact (hfraction h).imp_right .inr
  refine ⟨?_, ?_, ?_⟩
  all_goals
    rintro rfl
    revert hchar
    decide

/-- **A time of day with the offset of universal time is read back.** -/
theorem readClock?_timeChars {ofDay : Int} (h : 0 ≤ ofDay ∧ ofDay < dayLength) :
    readClock? (timeChars ofDay ++ offsetChars 0) = some (ofDay, some 0) := by
  have hmark : ∀ c ∈ timeChars ofDay, (!(decide (c = '+') || decide (c = '-') || decide (c = 'Z'))) = true := by
    intro c hc
    obtain ⟨h₁, h₂, h₃⟩ := not_mark_of_mem_timeChars hc
    simp [h₁, h₂, h₃]
  have hoffset : offsetChars 0 = '+' :: "00:00".toList := by decide
  have hread : readOffset? (decide ('+' = '-')) "00:00".toList = some 0 := by decide
  obtain ⟨t, ht⟩ : ∃ t : ReadTime, t = ⟨[(ofDay / second / 3600).toNat, (ofDay / second / 60 % 60).toNat,
    (ofDay / second % 60).toNat], (ofDay % second).toNat, []⟩ := ⟨_, rfl⟩
  have hvalid : t.isValid = true := by
    simp only [dayLength, second] at h
    simp only [ht, ReadTime.isValid, List.getD_cons_zero, List.getD_cons_succ, second, Bool.and_eq_true,
      decide_eq_true_eq]
    omega
  have hsize : (t.seconds : Int) * second + t.micros = ofDay := by
    simp only [dayLength, second] at h
    simp only [ht, ReadTime.seconds, List.getD_cons_zero, List.getD_cons_succ, second]
    omega
  have htime : (timeChars ofDay ++ offsetChars 0).takeWhile
      (fun c => !(decide (c = '+') || decide (c = '-') || decide (c = 'Z'))) = timeChars ofDay := by
    rw [List.takeWhile_append_of_pos hmark, hoffset, List.takeWhile_cons_of_neg (by decide), List.append_nil]
  have hrest : (timeChars ofDay ++ offsetChars 0).dropWhile
      (fun c => !(decide (c = '+') || decide (c = '-') || decide (c = 'Z'))) = '+' :: "00:00".toList := by
    rw [List.dropWhile_append_of_pos hmark, hoffset, List.dropWhile_cons_of_neg (by decide)]
  simp only [readClock?, htime, hrest, readTime?_timeChars h, ← ht, Option.bind_eq_bind, Option.bind_some,
    hvalid, if_true, hsize]
  change (Option.map some (readOffset? (decide ('+' = '-')) "00:00".toList)).bind _ = _
  rw [hread]
  rfl

/-! ### The whole -/

/-- A date and a time with one character between them. -/
theorem read?_of_parts {date clock : List Char} {day : Day} {ofDay : Int} {offset : Option Int}
    (hlength : date.length = 10) (hhyphen : date[4]? = some '-') (hweek : date[5]? ≠ some 'W')
    (hd : readDate? date = some day) (hc : readClock? clock = some (ofDay, offset)) (hne : clock ≠ []) :
    read? (date ++ 'T' :: clock) = some ⟨day.start + ofDay, offset.map (.fixed · .offset), false⟩ := by
  obtain ⟨c, rest, rfl⟩ := List.exists_cons_of_ne_nil hne
  have htotal : (date ++ 'T' :: c :: rest).length = rest.length + 12 := by
    simp only [List.length_append, List.length_cons, hlength]
    omega
  have hfound : dateLength? (date ++ 'T' :: c :: rest) = some 10 := by
    rw [dateLength?, if_neg (by omega), List.getElem?_append_left (by omega), if_pos hhyphen,
      List.getElem?_append_left (by omega), if_neg hweek]
  rw [read?, if_neg (by omega), hfound]
  simp only [Option.bind_eq_bind, Option.bind_some, List.take_left' hlength, List.drop_left' hlength, hd, hc]
  rfl

/-- **A moment of universal time is read back as it was written.** -/
theorem read?_chars {i : Int} (h : inCalendar i = true) : read? (ofInstant i).chars = some (ofInstant i) := by
  have hday : (Day.ofWall i).inCalendar = true := inCalendar_ofWall h
  have hclock : 0 ≤ i % dayLength ∧ i % dayLength < dayLength := by
    simp only [dayLength, second]
    omega
  have hlength : (Day.ofWall i).chars.length = 10 := by simp [Day.chars]
  have hweek : (Day.ofWall i).chars[5]? ≠ some 'W' :=
    fun hw => digitChar_ne rfl _ (Option.some.inj hw)
  have hread := read?_of_parts hlength rfl hweek (readDate?_chars hday) (readClock?_timeChars hclock)
    (List.append_ne_nil_of_right_ne_nil _ (by decide))
  have hchars : (ofInstant i).chars =
      (Day.ofWall i).chars ++ 'T' :: (timeChars (i % dayLength) ++ offsetChars 0) := by
    rw [chars, ofInstant, readingChars_eq, List.append_assoc]
    rfl
  have hwall : (Day.ofWall i).start + i % dayLength = i := by
    simp only [Day.start, Day.ofWall]
    exact Int.ediv_mul_add_emod i dayLength
  rw [hchars, hread, hwall]
  rfl

end Moment

namespace Boundaries

/-! ### Reports -/

/-- The command line reads a text as a moment at a count of milliseconds. -/
def ReadsAs (text : String) (millis : Int) : Prop :=
  ∀ form flag, ∃ m, Cli.Options.readMoment form flag text = .ok m ∧ m.toMillis = .ok millis

/-- The four boundaries, each with the name of its milliseconds and that of its text in a report. -/
def entries (b : Boundaries) : List (String × String × Int) :=
  [("sunrise_millis", "sunrise_utc", b.sunrise), ("sunset_millis", "sunset_utc", b.sunset),
    ("previous_sunset_millis", "previous_sunset_utc", b.previousSunset),
    ("next_sunrise_millis", "next_sunrise_utc", b.nextSunrise)]

/-- The boundaries that can come next. -/
def transitions (b : Boundaries) : List Int := [b.sunrise, b.sunset, b.nextSunrise]

/-- What comes next at a millisecond: the least transition after it, or the last one if none is. -/
def ComesNext (b : Boundaries) (n next : Int) : Prop :=
  (next ∈ b.transitions ∧ n < next ∧ ∀ t ∈ b.transitions, n < t → next ≤ t) ∨
    ((∀ t ∈ b.transitions, t ≤ n) ∧ next = b.nextSunrise)

/-- A millisecond of the calendar is read back from the text of its moment. -/
theorem readsAs_text {millis : Int} (h : Moment.inCalendar (millis * 1000) = true) :
    ReadsAs (Moment.text (.ofInstant (millis * 1000))) millis := by
  intro form flag
  have hinstant := Moment.instant?_ofInstant (millis * 1000)
  refine ⟨.ofInstant (millis * 1000), ?_, ?_⟩
  · rw [Cli.Options.readMoment, Moment.text, String.toList_ofList, Moment.read?_chars h]
    simp only [Moment.toUtc_of_instant? hinstant h]
    rfl
  · rw [Moment.toMillis_of_instant? hinstant h, Int.mul_ediv_cancel _ (by decide)]

theorem comesNext_transitionAfter (b : Boundaries) (n : Int) : b.ComesNext n (b.transitionAfter n) := by
  obtain ⟨-, h₁, h₂⟩ := b.ordered
  unfold ComesNext transitionAfter
  simp only [transitions, List.mem_cons, List.not_mem_nil, or_false, forall_eq_or_imp, forall_eq]
  split_ifs <;> omega

/-- The four boundaries lie in the calendar. -/
def IsInCalendar (b : Boundaries) : Prop :=
  ∀ entry ∈ b.entries, Moment.inCalendar (entry.2.2 * 1000) = true

/-- What a report is made of. -/
theorem exists_of_report {b : Boundaries} {now : Option Moment} {r : Report} (h : b.report now = .ok r) :
    ∃ outlook, r = ⟨b, .ofInstant (b.sunrise * 1000), .ofInstant (b.sunset * 1000),
        .ofInstant (b.previousSunset * 1000), .ofInstant (b.nextSunrise * 1000), outlook⟩ ∧
      ∀ moment, now = some moment → ∃ told, b.outlook moment = .ok told ∧ outlook = some told := by
  simp only [report, bind_eq_ok_iff, Moment.ofMillis_eq_ok_iff] at h
  obtain ⟨_, ⟨-, rfl⟩, _, ⟨-, rfl⟩, _, ⟨-, rfl⟩, _, ⟨-, rfl⟩, h⟩ := h
  cases now with
  | none => exact ⟨_, (Except.ok.inj h).symm, fun _ hnone => by cases hnone⟩
  | some moment =>
    simp only [bind_eq_ok_iff] at h
    obtain ⟨told, htold, h⟩ := h
    refine ⟨_, (Except.ok.inj h).symm, fun _ hsome => ?_⟩
    obtain rfl := Option.some.inj hsome
    exact ⟨told, htold, rfl⟩

/-- Boundaries in the calendar have a report. -/
theorem exists_report {b : Boundaries} (h : b.IsInCalendar) : ∃ r, b.report none = .ok r := by
  simp only [IsInCalendar, entries, List.mem_cons, List.not_mem_nil, or_false, forall_eq_or_imp,
    forall_eq] at h
  obtain ⟨hr, hs, hp, hx⟩ := h
  simp only [report, bind_eq_ok_iff, Moment.ofMillis_eq_ok_iff]
  exact ⟨_, _, ⟨hr, rfl⟩, _, ⟨hs, rfl⟩, _, ⟨hp, rfl⟩, _, ⟨hx, rfl⟩, rfl⟩

/-- What is named as the next transition at a moment. -/
theorem exists_of_outlook {b : Boundaries} {now : Moment} {told : Outlook} (h : b.outlook now = .ok told) :
    ∃ n, millisOf now = .ok n ∧ Moment.inCalendar (b.transitionAfter n * 1000) = true ∧
      told.nextTransition = .ofInstant (b.transitionAfter n * 1000) := by
  simp only [outlook, bind_eq_ok_iff] at h
  obtain ⟨flag, -, next, hnext, h⟩ := h
  obtain rfl := Except.ok.inj h
  simp only [nextTransition, bind_eq_ok_iff, Moment.ofMillis_eq_ok_iff] at hnext
  obtain ⟨n, hn, hin, rfl⟩ := hnext
  exact ⟨n, hn, hin, rfl⟩

/-- **The texts of a report are read back.** Boundaries in the calendar have a report. In every report of
them, with what they mean at a moment or without, each of the four texts is read by the command line as a
moment at the milliseconds that stand beside it. And the text of the next transition is read as the least of
sunrise, sunset and sunrise after that is greater than the milliseconds of the moment, or as the sunrise after
if none is. -/
theorem report_reads_back {b : Boundaries} (hb : b.IsInCalendar) :
    (∃ r, b.report none = .ok r) ∧
      ∀ now r, b.report now = .ok r →
        (∀ entry ∈ b.entries, ∃ text,
          (r.fields Moment.text).lookup entry.1 = some (.integer entry.2.2) ∧
          (r.fields Moment.text).lookup entry.2.1 = some (.text text) ∧ ReadsAs text entry.2.2) ∧
        ∀ moment, now = some moment → ∃ n next text, millisOf moment = .ok n ∧
          (r.fields Moment.text).lookup "next_transition_utc" = some (.text text) ∧
          ReadsAs text next ∧ b.ComesNext n next := by
  refine ⟨exists_report hb, fun now r h => ?_⟩
  obtain ⟨outlook, rfl, houtlook⟩ := exists_of_report h
  constructor
  · intro entry hentry
    have hreads := readsAs_text (hb entry hentry)
    refine ⟨_, ?_, ?_, hreads⟩
    all_goals
      simp only [entries, List.mem_cons, List.not_mem_nil, or_false] at hentry
      rcases hentry with rfl | rfl | rfl | rfl <;> rfl
  · intro moment hmoment
    obtain ⟨told, htold, rfl⟩ := houtlook moment hmoment
    obtain ⟨n, hn, hin, hnext⟩ := exists_of_outlook htold
    refine ⟨n, _, _, hn, ?_, readsAs_text hin, comesNext_transitionAfter b n⟩
    rw [← hnext]
    rfl

/-- From the first millisecond of the calendar to the last one, by way of the last one before 1970 and of a
leap day. -/
def wideBoundaries : Boundaries := ⟨-62135596800000, -1, 951782400000, 253402300799999, by decide⟩

/-- Their texts are read back, and at the last millisecond of all the sunrise after is named. -/
theorem reads_back_wide :
    wideBoundaries.IsInCalendar ∧
      ∃ r, wideBoundaries.report (some (.ofInstant 253402300799999999)) = .ok r ∧
        (r.fields Moment.text).lookup "previous_sunset_utc" = some (.text "0001-01-01T00:00:00+00:00") ∧
        (r.fields Moment.text).lookup "sunrise_utc" = some (.text "1969-12-31T23:59:59.999000+00:00") ∧
        ReadsAs "0001-01-01T00:00:00+00:00" (-62135596800000) ∧
        ReadsAs "1969-12-31T23:59:59.999000+00:00" (-1) ∧
        ∃ text, (r.fields Moment.text).lookup "next_transition_utc" = some (.text text) ∧
          ReadsAs text 253402300799999 := by
  have hin : wideBoundaries.IsInCalendar := by
    unfold IsInCalendar
    decide
  have hreport : wideBoundaries.report (some (.ofInstant 253402300799999999)) =
      .ok ⟨wideBoundaries, .ofInstant (-1000), .ofInstant 951782400000000, .ofInstant (-62135596800000000),
        .ofInstant 253402300799999000, some ⟨true, .ofInstant 253402300799999000⟩⟩ := rfl
  obtain ⟨-, hall⟩ := report_reads_back hin
  obtain ⟨hentries, hnext⟩ := hall _ _ hreport
  obtain ⟨first, -, hfirst, hreadFirst⟩ :=
    hentries ("previous_sunset_millis", "previous_sunset_utc", -62135596800000) (by decide)
  obtain ⟨second, -, hsecond, hreadSecond⟩ := hentries ("sunrise_millis", "sunrise_utc", -1) (by decide)
  have hwritten : Moment.text (.ofInstant (-62135596800000000)) = "0001-01-01T00:00:00+00:00" ∧
      Moment.text (.ofInstant (-1000)) = "1969-12-31T23:59:59.999000+00:00" := by decide +kernel
  obtain rfl := (Json.text.inj (Option.some.inj hfirst)).symm.trans hwritten.1
  obtain rfl := (Json.text.inj (Option.some.inj hsecond)).symm.trans hwritten.2
  obtain ⟨n, next, text, hn, hlookup, hreads, hcomes⟩ := hnext _ rfl
  obtain rfl : 253402300799999 = n := Except.ok.inj hn
  obtain rfl : 253402300799999 = next := by
    rcases hcomes with ⟨hmem, hlt, -⟩ | ⟨-, hlast⟩
    · simp only [transitions, wideBoundaries, List.mem_cons, List.not_mem_nil, or_false] at hmem
      omega
    · exact hlast.symm
  exact ⟨hin, _, hreport, hfirst, hsecond, hreadFirst, hreadSecond, text, hlookup, hreads⟩

end Boundaries

end Daylight
