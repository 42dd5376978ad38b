import Daylight.Time.Moment

/-!
# Written moments

A moment is written as its date, the letter T, its time to the second, the microseconds in six
digits when there are any, and the offset when it has a zone: hours and minutes, and seconds and
microseconds only when there are any. In an answer over HTTP the offset zero is written `Z`.

`read?` takes more than this form. The date may be without hyphens, or a week with an optional day
of the week; behind it any one character stands before the time. The parts of the time are separated
by colons or by nothing, and may end early; a fraction of a second is cut at six digits. The offset
is `Z` or a sign and a time. Before the offset one stray character may stand. What is left over
behind a time counts as nothing when it begins with the character zero.
-/

namespace Daylight

open Text

namespace Moment

/-- Hours and minutes of a duration below a hundred hours. -/
def hourMinute (seconds : Int) : List Char :=
  paddedDigits 2 (seconds / 3600).toNat ++ ':' :: paddedDigits 2 (seconds / 60 % 60).toNat

/-- Microseconds behind a point, when there are any. -/
def fractionChars (micros : Int) : List Char :=
  if micros = 0 then [] else '.' :: paddedDigits 6 micros.toNat

/-- An offset. -/
def offsetChars (offset : Int) : List Char :=
  let size := (offset.natAbs : Int)
  let seconds := size / second
  let micros := size % second
  let small :=
    if seconds % 60 = 0 ∧ micros = 0 then [] else ':' :: paddedDigits 2 (seconds % 60).toNat
  (if offset < 0 then '-' else '+') :: (hourMinute seconds ++ small ++ fractionChars micros)

/-- The date and time of a reading. -/
def readingChars (wall : Int) : List Char :=
  let ofDay := wall % dayLength
  let seconds := ofDay / second
  let minutes := hourMinute seconds ++ ':' :: paddedDigits 2 (seconds % 60).toNat
  (Day.ofWall wall).chars ++ 'T' :: (minutes ++ fractionChars (ofDay % second))

/-- The written form of a moment. -/
def chars (m : Moment) : List Char :=
  readingChars m.wall ++ (m.offset?.map offsetChars).getD []

/-- The written form of a moment as text. -/
def text (m : Moment) : String := String.ofList m.chars

/-- The written form with `Z` for the offset zero. -/
def zuluText (m : Moment) : String :=
  if m.offset? = some 0 then String.ofList (readingChars m.wall ++ ['Z']) else m.text

/-- A duration with its parts listed: days, and the seconds and microseconds of the day. -/
def durationListing (micros : Int) : String :=
  let part := fun (name : String) (n : Int) => if n = 0 then [] else [name ++ "=" ++ toString n]
  let parts := part "days" (micros / dayLength) ++ part "seconds" (micros % dayLength / second) ++
    part "microseconds" (micros % second)
  "datetime.timedelta(" ++ (if parts.isEmpty then "0" else ", ".intercalate parts) ++ ")"

/-- A zone, as a listing shows it. -/
def zoneListing : Zone → String
  | .fixed offset .offset =>
    if offset = 0 then "datetime.timezone.utc"
    else "datetime.timezone(" ++ durationListing offset ++ ")"
  | .fixed offset .system => "datetime.timezone(" ++ durationListing offset ++ ", 'UTC')"
  | .fixed offset .request => "TzInfo(" ++ toString (offset / second) ++ ")"
  | .region r => "zoneinfo.ZoneInfo(key=" ++ quote r.name ++ ")"

/-- A moment with its parts listed, as messages show it. Seconds and microseconds that are zero are
left out at the end. -/
def listing (m : Moment) : String :=
  let c := m.day.civil
  let ofDay := m.wall % dayLength
  let seconds := ofDay / second % 60
  let micros := ofDay % second
  let small := if micros ≠ 0 then [seconds, micros] else if seconds ≠ 0 then [seconds] else []
  let numbers := [c.year, c.month, c.day, ofDay / second / 3600, ofDay / second / 60 % 60] ++ small
  let zone := (m.zone.map fun z => "tzinfo=" ++ zoneListing z).toList
  let fold := if m.fold then ["fold=1"] else []
  "datetime.datetime(" ++ ", ".intercalate (numbers.map toString ++ fold ++ zone) ++ ")"

/-! ### Reading -/

/-- The place at which the date ends. Four digits and a hyphen begin `YYYY-MM-DD`, or a week with a
hyphen; four digits and a `W` begin a week without one. Behind a week without a hyphen an even
number of digits leaves one of them for the day of the week; behind a week with one a hyphen and two
digits are taken for a time. -/
def dateLength? (cs : List Char) : Option Nat :=
  if cs.length = 7 then some 7
  else if cs[4]? = some '-' then
    if cs[5]? = some 'W' then
      if cs[8]? = some '-' then
        if cs.length = 9 then none
        else if (cs[10]?.map Char.isDigit).getD false then some 8
        else some 10
      else some 8
    else some 10
  else if cs[4]? = some 'W' then
    let stop := 7 + ((cs.drop 7).takeWhile Char.isDigit).length
    if stop < 9 then some stop else if stop % 2 = 0 then some 7 else some 8
  else some 8

/-- Two digits at the front, and what follows them. -/
def twoDigits? : List Char → Option (Nat × List Char)
  | a :: b :: rest => do return (← readDigits 0 [a, b], rest)
  | _ => none

/-- What follows the hyphen, where hyphens set the parts of a date apart; else there is none to follow. -/
def setApart? (hyphens : Bool) (cs : List Char) : Option (List Char) :=
  if hyphens then
    match cs with
    | '-' :: rest => some rest
    | _ => none
  else some cs

/-- A week of a year, with or without a day of the week. -/
def readWeek? (year : Nat) (hyphens : Bool) (cs : List Char) : Option Day := do
  let (week, rest) ← twoDigits? cs
  if rest.isEmpty then Day.ofWeek? year week 1
  else
    let day ← setApart? hyphens rest
    if day.length = 1 then Day.ofWeek? year week (← readDigits 0 day) else none

/-- A month and a day of a year. -/
def readCivil? (year : Nat) (hyphens : Bool) (cs : List Char) : Option Day := do
  let (month, rest) ← twoDigits? cs
  let rest ← setApart? hyphens rest
  let (day, rest) ← twoDigits? rest
  if rest.isEmpty then Day.ofCivil? ⟨year, month, day⟩ else none

/-- A date in one of its forms. -/
def readDate? (cs : List Char) : Option Day := do
  let year ← if (cs.take 4).length = 4 then readDigits 0 (cs.take 4) else none
  let hyphens : Bool := cs[4]? = some '-'
  let rest := if hyphens then cs.drop 5 else cs.drop 4
  match rest with
  | 'W' :: rest => readWeek? year hyphens rest
  | rest => readCivil? year hyphens rest

/-- The time of day as it was read, with the characters that were left over. -/
structure ReadTime where
  /-- Hours, minutes and seconds, as far as they were given. -/
  parts : List Nat
  /-- The fraction of a second. -/
  micros : Nat
  /-- What was left over. -/
  rest : List Char

/-- Whether nothing is left over. What begins with the character zero is nothing. -/
def isSpent (rest : List Char) : Bool := (rest.head?.map Char.toNat).getD 0 = 0

/-- The fraction of a second: all that is left, or six digits, any more digits and the rest. -/
def readFraction? (cs : List Char) : Option ReadTime := do
  let taken := cs.take 6
  let value ← readDigits 0 taken
  return ⟨[], value * tenTo (6 - taken.length), (cs.drop 6).dropWhile Char.isDigit⟩

/-- Reads up to `count` parts of two digits and a fraction. One character more than the parts is
left over. -/
def readParts? (colons : Bool) : Nat → List Char → Option ReadTime
  | 0, cs => readFraction? cs
  | count + 1, cs => do
    let (value, rest) ← twoDigits? cs
    let more ← match rest with
      | [] => some ⟨[], 0, []⟩
      | [c] => if c.toNat < 128 then some ⟨[], 0, [c]⟩ else none
      | c :: behind =>
        if colons && c = ':' then readParts? colons count behind
        else if c = '.' ∨ c = ',' then readFraction? behind
        else if colons then none
        else readParts? colons count rest
    return { more with parts := value :: more.parts }

/-- A time of day, or an offset without its sign. -/
def readTime? (cs : List Char) : Option ReadTime := readParts? (cs[2]? = some ':') 3 cs

/-- The hours, minutes and seconds of a time that was read, in seconds. -/
def ReadTime.seconds (t : ReadTime) : Nat :=
  t.parts.getD 0 0 * 3600 + t.parts.getD 1 0 * 60 + t.parts.getD 2 0

/-- Whether a time that was read is one of a day. -/
def ReadTime.isValid (t : ReadTime) : Bool :=
  t.parts.getD 0 0 < 24 && t.parts.getD 1 0 < 60 && t.parts.getD 2 0 < 60

/-- The offset behind a sign. The offset zero has no microseconds, and every offset is below one
day. -/
def readOffset? (negative : Bool) (cs : List Char) : Option Int := do
  let t ← readTime? cs
  if !isSpent t.rest then none
  else if t.seconds = 0 then some 0
  else
    let size := (t.seconds : Int) * second + t.micros
    if size < dayLength then some (if negative then -size else size) else none

/-- A time of day with its optional offset: the microseconds of the day, and the offset. -/
def readClock? (cs : List Char) : Option (Int × Option Int) := do
  let isMark := fun c => c = '+' || c = '-' || c = 'Z'
  let t ← readTime? (cs.takeWhile fun c => !isMark c)
  let offset ← match cs.dropWhile fun c => !isMark c with
    | [] => if isSpent t.rest then some none else none
    | 'Z' :: rest => if isSpent rest then some (some 0) else none
    | sign :: rest => (readOffset? (sign = '-') rest).map some
  if t.isValid then some ((t.seconds : Int) * second + t.micros, offset) else none

/-- Reads a moment. -/
def read? (cs : List Char) : Option Moment :=
  if cs.length < 7 then none
  else do
    let length ← dateLength? cs
    let day ← readDate? (cs.take length)
    match cs.drop length with
    | [] => some ⟨day.start, none, false⟩
    | [_] => none
    | _ :: clock =>
      let (ofDay, offset) ← readClock? clock
      return ⟨day.start + ofDay, offset.map (.fixed · .offset), false⟩

end Moment

end Daylight
