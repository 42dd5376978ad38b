import Daylight.Decimal.Binary

/-!
# Shortest decimals

The fewest digits that read back as the same double, and of those the nearest to it. The reals that
round to a double form an interval, whose ends belong to it exactly when the significand is even.
For each count of digits the decimal grid of that count has two points next to the double; the first
grid with a point in the interval gives the answer.

`floatText` writes these digits in positional notation from `1e-4` up to below `1e16`, always with a
digit behind the point, and else with an exponent of at least two digits.
-/

namespace Daylight.Decimal

open Daylight.Text

/-- The place of the leading digit: the `k` for which the fraction is at least `10 ^ (k - 1)` and
below `10 ^ k`. -/
def magnitude (numerator denominator : Nat) : Int :=
  if denominator ≤ numerator then digitCount (numerator / denominator)
  else
    let zeros := (List.range 400).find? fun j => denominator ≤ numerator * tenTo (j + 1)
    Int.negOfNat (zeros.getD 400)

/-- Whether the decimal `digits * 10 ^ scale` rounds to the double `significand * 2 ^ exponent`. All
values are multiplied by four, so that the ends of the interval are whole. -/
def readsBack (significand : Nat) (exponent : Int) (digits : Nat) (scale : Int) : Bool :=
  let low := if significand = twoTo 52 ∧ exponent ≠ -1074 then 4 * significand - 1
    else 4 * significand - 2
  let high := 4 * significand + 2
  let side := digits * 4 * tenTo scale.toNat * twoTo (-exponent).toNat
  let unit := tenTo (-scale).toNat * twoTo exponent.toNat
  if significand % 2 = 0 then low * unit ≤ side && side ≤ high * unit
  else low * unit < side && side < high * unit

/-- The digits of the first of `counts` whose grid meets the interval, with their scale. -/
def shortestIn (significand : Nat) (exponent : Int) (place : Int) : List Nat → Option (Nat × Int)
  | [] => none
  | count :: counts =>
    let scale := place - count
    let (numerator, denominator) := fraction significand exponent
    let numerator := numerator * tenTo (-scale).toNat
    let denominator := denominator * tenTo scale.toNat
    let below := numerator / denominator
    let nearest := roundedQuotient numerator denominator
    let other := if nearest = below then below + 1 else below
    if readsBack significand exponent nearest scale then some (nearest, scale)
    else if readsBack significand exponent other scale then some (other, scale)
    else shortestIn significand exponent place counts

/-- The shortest digits of `significand * 2 ^ exponent` and their scale. -/
def shortest (significand : Nat) (exponent : Int) : Nat × Int :=
  if significand = 0 then (0, 0)
  else
    let (numerator, denominator) := fraction significand exponent
    let counts := (List.range 17).map (· + 1)
    (shortestIn significand exponent (magnitude numerator denominator) counts).getD (0, 0)

/-- The digits without the zeros at their end, and how many there were. -/
def dropZeros (digits : List Char) : List Char × Nat :=
  let kept := (digits.reverse.dropWhile (· = '0')).reverse
  (kept, digits.length - kept.length)

/-- Digits with the point in its place, `point` digits from the left. -/
def positional (digits : List Char) (point : Int) : List Char :=
  if point ≤ 0 then '0' :: '.' :: (List.replicate (-point).toNat '0' ++ digits)
  else
    let whole := digits.take point.toNat ++ List.replicate (point.toNat - digits.length) '0'
    let behind := digits.drop point.toNat
    whole ++ '.' :: (if behind.isEmpty then ['0'] else behind)

/-- Digits with a power of ten, the point behind the first digit. -/
def scientific (digits : List Char) (point : Int) : List Char :=
  let power := point - 1
  let behind := digits.drop 1
  let magnitude := (toString power.natAbs).toList
  digits.take 1 ++ (if behind.isEmpty then [] else '.' :: behind) ++
    ['e', if power < 0 then '-' else '+'] ++ List.replicate (2 - magnitude.length) '0' ++ magnitude

/-- A double in the fewest digits. -/
def floatText (x : Float) : String :=
  match Binary.ofFloat x with
  | .notANumber => "nan"
  | .infinite negative => if negative then "-inf" else "inf"
  | .finite negative significand exponent =>
    let (digits, scale) := shortest significand exponent
    let sign := if negative then "-" else ""
    if digits = 0 then sign ++ "0.0"
    else
      let (kept, dropped) := dropZeros (toString digits).toList
      let point : Int := kept.length + dropped + scale
      let body := if -4 < point ∧ point ≤ 16 then positional kept point else scientific kept point
      sign ++ String.ofList body

end Daylight.Decimal
