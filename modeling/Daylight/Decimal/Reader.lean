import Daylight.Decimal.Binary
import Daylight.Text.Digit
import Daylight.Text.Blank

/-!
# Reading decimals

A numeral is an optional sign before either a word (`inf`, `infinity`, `nan`, in any case) or digits
with an optional point and an optional power of ten. At least one digit stands before or behind the
point. `readNumeral` takes exactly this; `readGrouped` also takes the digits of every script, blanks
around the numeral, and single underscores between two digits.
-/

namespace Daylight.Decimal

open Daylight.Text

/-- The number `digits * 10 ^ scale`, with its sign. -/
structure Numeral where
  /-- Whether a minus stands in front. -/
  negative : Bool
  /-- All digits, without the point. -/
  digits : Nat
  /-- The power of ten. -/
  scale : Int
  deriving Repr, DecidableEq

/-- A double with the sign that was written in front of it. -/
def signed (negative : Bool) (x : Float) : Float := if negative then -x else x

/-- The double nearest to a numeral. Above all doubles it is an infinity, next to zero it is zero;
the powers of ten in between are small enough to be computed. -/
def Numeral.toFloat (n : Numeral) : Float :=
  let top := (digitCount n.digits : Int) + n.scale
  let size :=
    if n.digits = 0 ∨ top < -330 then 0.0
    else if 310 < top then 1.0 / 0.0
    else Float.ofScientific n.digits (n.scale < 0) n.scale.natAbs
  signed n.negative size

/-- The double nearest to a whole number. -/
def floatOfInt (n : Int) : Float := (Numeral.mk (n < 0) n.natAbs 0).toFloat

/-- Takes a sign off the front. -/
def takeSign : List Char → Bool × List Char
  | '-' :: rest => (true, rest)
  | '+' :: rest => (false, rest)
  | rest => (false, rest)

/-- Splits the leading ASCII digits off. -/
def takeDigits (cs : List Char) : List Char × List Char :=
  (cs.takeWhile Char.isDigit, cs.dropWhile Char.isDigit)

/-- The power of ten at the end of a numeral; nothing at all is the power zero. -/
def readPower : List Char → Option Int
  | [] => some 0
  | c :: rest =>
    if c = 'e' ∨ c = 'E' then
      let (negative, digits) := takeSign rest
      if digits.isEmpty then none
      else (readDigits 0 digits).map fun n => if negative then -(n : Int) else n
    else none

/-- Digits with an optional point and an optional power of ten. -/
def readUnsigned (negative : Bool) (cs : List Char) : Option Numeral :=
  let (whole, rest) := takeDigits cs
  let (behind, rest) := match rest with
    | '.' :: rest => takeDigits rest
    | rest => ([], rest)
  if whole.isEmpty && behind.isEmpty then none
  else do
    let digits ← readDigits 0 (whole ++ behind)
    let power ← readPower rest
    return ⟨negative, digits, power - behind.length⟩

/-- A numeral or one of the words. -/
def readNumeral (cs : List Char) : Option Float :=
  let (negative, rest) := takeSign cs
  let word := String.ofList (rest.map Char.toLower)
  if word = "inf" ∨ word = "infinity" then some (signed negative (1.0 / 0.0))
  else if word = "nan" then some (0.0 / 0.0)
  else (readUnsigned negative rest).map Numeral.toFloat

/-- The text without its underscores, if each stands between two digits. -/
def joinGroups : List Char → Option (List Char)
  | [] => some []
  | c :: '_' :: d :: rest =>
    if c.isDigit && d.isDigit then (joinGroups (d :: rest)).map (c :: ·) else none
  | c :: rest => if c = '_' then none else (joinGroups rest).map (c :: ·)

/-- A numeral with blanks around it, in the digits of any script, in groups. -/
def readGrouped (s : String) : Option Float := do
  let ascii := s.toList.map fun c => ((digitValue? c).map digitChar).getD c
  readNumeral (← joinGroups (trimWhere isMargin ascii))

end Daylight.Decimal
