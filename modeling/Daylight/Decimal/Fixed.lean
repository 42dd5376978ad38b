import Daylight.Decimal.Binary

/-!
# Fixed places

A double with a fixed number of places after the point: the exact value rounded once, a half to the
even neighbour. The sign of zero is kept.
-/

namespace Daylight.Decimal

/-- The whole number `n`, read with the last `places` digits behind the point. -/
def placePoint (n places : Nat) : String :=
  let digits := toString n
  let digits := String.ofList (List.replicate (places + 1 - digits.length) '0') ++ digits
  let whole := String.ofList (digits.toList.take (digits.length - places))
  let behind := String.ofList (digits.toList.drop (digits.length - places))
  if places = 0 then whole else whole ++ "." ++ behind

/-- A double with `places` digits behind the point. -/
def fixedText (places : Nat) (x : Float) : String :=
  match Binary.ofFloat x with
  | .notANumber => "nan"
  | .infinite negative => if negative then "-inf" else "inf"
  | .finite negative significand exponent =>
    let (numerator, denominator) := fraction significand exponent
    let rounded := roundedQuotient (numerator * Text.tenTo places) denominator
    (if negative then "-" else "") ++ placePoint rounded places

end Daylight.Decimal
