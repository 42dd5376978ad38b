import Daylight.Decimal.Reader
import Daylight.Time.Moment
import Daylight.Web.Complaint

/-!
# Timestamps in requests

A timestamp is a text or a number. A text is a date and a time with an optional offset, or a number,
or a date alone, tried in this order. A number counts seconds from 1970-01-01T00:00 of universal
time, or milliseconds when it lies beyond the watershed on either side; it is rounded to the
microsecond. A text that counts further than the years 0 to 9999 is no number.

A date has four digits for its year, two each for month and day, and hyphens between them. Behind it
come one of `T`, `t`, a blank and an underscore, and a time: two digits each for hours, minutes and,
if there are any, seconds, with colons between them; seconds may have a fraction, which is cut at
six digits. The offset is `Z` or `z`, or a sign with hours and minutes below one day. A date or time
without an offset, and a date alone, is a reading without a zone. The year zero can be written and
counted, but no moment lies in it.
-/

namespace Daylight.Web

open Daylight.Text
open Decimal (wholeBelow nearestWhole floatOfInt)

/-! ### Written dates and times -/

/-- The date at the front, which has to be one of the year zero or of the calendar, and the rest. -/
def readDate? (cs : List Char) : Option (Civil × List Char) := do
  match cs with
  | a :: b :: c :: d :: '-' :: e :: f :: '-' :: g :: h :: rest =>
    let date : Civil :=
      ⟨← readDigits 0 [a, b, c, d], ← readDigits 0 [e, f], ← readDigits 0 [g, h]⟩
    if 1 ≤ date.month ∧ date.month ≤ 12 ∧ 1 ≤ date.day ∧
        date.day ≤ monthLength date.year date.month then
      return (date, rest)
    else none
  | _ => none

/-- Two digits at the front that write a number below a bound, and the rest. -/
def readPair? (bound : Nat) : List Char → Option (Nat × List Char)
  | a :: b :: rest => do
    let value ← readDigits 0 [a, b]
    if value < bound then return (value, rest) else none
  | _ => none

/-- The microseconds of a fraction at the front, and the rest. Digits behind the sixth do not
count. -/
def readFraction? (cs : List Char) : Option (Nat × List Char) := do
  let digits := cs.takeWhile Char.isDigit
  if digits.isEmpty then none
  else
    let value ← readDigits 0 (digits.take 6)
    return (value * tenTo (6 - digits.length), cs.drop digits.length)

/-- The seconds and microseconds at the front, when a colon stands there, and the rest. -/
def readSeconds? : List Char → Option (Int × List Char)
  | ':' :: cs => do
    let (seconds, rest) ← readPair? 60 cs
    let (micros, rest) ← match rest with
      | c :: digits => if c = '.' ∨ c = ',' then readFraction? digits else some (0, rest)
      | [] => some (0, [])
    return (seconds * second + micros, rest)
  | rest => some (0, rest)

/-- The time of day at the front, in microseconds, and the rest. -/
def readTime? (cs : List Char) : Option (Int × List Char) := do
  let (hours, rest) ← readPair? 24 cs
  match rest with
  | ':' :: rest =>
    let (minutes, rest) ← readPair? 60 rest
    let (behind, rest) ← readSeconds? rest
    return ((hours * 3600 + minutes * 60) * second + behind, rest)
  | _ => none

/-- The sign of an offset: plus, hyphen or minus. -/
def offsetSign? (c : Char) : Option Int :=
  if c = '+' then some 1 else if c = '-' ∨ c.toNat = 0x2212 then some (-1) else none

/-- An offset that takes the whole text; no text at all is no offset. -/
def readOffset? : List Char → Option (Option Int)
  | [] => some none
  | ['Z'] => some (some 0)
  | ['z'] => some (some 0)
  | c :: cs => do
    let sign ← offsetSign? c
    let (hours, rest) ← readPair? 24 cs
    let rest := match rest with
      | ':' :: rest => rest
      | rest => rest
    let (minutes, rest) ← readPair? 60 rest
    if rest.isEmpty then return some (sign * (hours * 3600 + minutes * 60) * second) else none

/-- Whether a character may stand between a date and a time. -/
def isDivider (c : Char) : Bool := c = 'T' || c = 't' || c = ' ' || c = '_'

/-- A date as it was written, a time of day, and the offset. -/
structure Written where
  /-- The date. -/
  date : Civil
  /-- The microseconds from midnight. -/
  time : Int
  /-- The offset, if there is one. -/
  offset : Option Int

/-- A text with a date and a time. -/
def readWritten? (cs : List Char) : Option Written := do
  let (date, rest) ← readDate? cs
  match rest with
  | divider :: rest =>
    if isDivider divider then
      let (time, rest) ← readTime? rest
      return ⟨date, time, ← readOffset? rest⟩
    else none
  | [] => none

/-- A text with a date alone. -/
def readDateAlone? (cs : List Char) : Option Written := do
  let (date, rest) ← readDate? cs
  if rest.isEmpty then return ⟨date, 0, none⟩ else none

/-- The moment of a written date and time. -/
def Written.moment (w : Written) : Except Complaint Moment :=
  match Day.ofCivil? w.date with
  | some day => .ok ⟨day.start + w.time, w.offset.map (.fixed · .request), false⟩
  | none => .error .unreachableMoment

/-! ### Counted time -/

/-- The size up to which a number counts seconds. -/
def watershed : Int := 20000000000

/-- The microseconds that a whole number counts. -/
def instantOfInteger (n : Int) : Int :=
  if (n.natAbs : Int) ≤ watershed then n * second else n * 1000

/-- The microseconds that a number counts. Its fraction counts forward from the whole number below
it. -/
def instantOfReal (x : Float) : Int :=
  let below := wholeBelow x
  let behind := x - floatOfInt below
  if x.abs ≤ floatOfInt watershed then below * second + nearestWhole (behind * 1000000.0)
  else below * 1000 + nearestWhole (behind * 1000.0)

/-- The moment at an instant. -/
def momentAt (instant : Int) : Except Complaint Moment :=
  if Moment.inCalendar instant then .ok ⟨instant, some (.fixed 0 .request), false⟩
  else .error .unreachableMoment

/-- The first second that a text can count, 0000-01-01T00:00:00. -/
def firstCounted : Int := -62167219200

/-- The last second that a text can count, 9999-12-31T23:59:59. -/
def lastCounted : Int := 253402300799

/-- Whether a text can count to an instant. -/
def isCounted (instant : Int) : Bool :=
  firstCounted ≤ instant / second && instant / second ≤ lastCounted

/-- The microseconds that a text counts: a sign or none, and digits, or else a numeral with a
point. -/
def readCount? (cs : List Char) : Option Int := do
  let (negative, unsigned) := Decimal.takeSign cs
  let whole := unsigned.takeWhile Char.isDigit
  let instant ← match unsigned.drop whole.length with
    | [] =>
      if whole.isEmpty then none
      else
        let size : Int := ← readDigits 0 whole
        some (instantOfInteger (if negative then -size else size))
    | '.' :: _ => (Decimal.readUnsigned negative unsigned).map fun n => instantOfReal n.toFloat
    | _ => none
  if isCounted instant then some instant else none

/-! ### Timestamps -/

/-- The moment of a text. -/
def momentOfText (s : String) : Except Complaint Moment :=
  let cs := s.toList
  match readWritten? cs, readCount? cs, readDateAlone? cs with
  | some written, _, _ => written.moment
  | none, some instant, _ => momentAt instant
  | none, none, some date => date.moment
  | none, none, none => .error .unreadableMoment

/-- The moment of a value. A whole number that is larger than all doubles is no number here. -/
def readMoment : Json → Except Complaint Moment
  | .text s => momentOfText s
  | .integer n => if (floatOfInt n).isInf then .error .notMoment else momentAt (instantOfInteger n)
  | .real x => if x.isNaN then .error .unreachableMoment else momentAt (instantOfReal x)
  | _ => .error .notMoment

end Daylight.Web
