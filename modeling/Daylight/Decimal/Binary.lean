import Daylight.Text.Digit

/-!
# The exact value of a double

A finite double is a whole number times a power of two. The decimal writers work on that pair and
on exact natural numbers, so their results do not depend on floating-point arithmetic.
-/

namespace Daylight.Decimal

/-- A power of two. -/
def twoTo (n : Nat) : Nat := Nat.pow 2 n

/-- What a double holds. -/
inductive Binary where
  /-- The value `significand * 2 ^ exponent`, with its sign (zero has one too). -/
  | finite (negative : Bool) (significand : Nat) (exponent : Int)
  /-- An infinity. -/
  | infinite (negative : Bool)
  /-- Not a number. -/
  | notANumber
  deriving Repr, DecidableEq

/-- The value of sixty-four bits. -/
def Binary.ofBits (bits : Nat) : Binary :=
  let negative : Bool := bits / twoTo 63 % 2 = 1
  let exponentField : Nat := bits / twoTo 52 % twoTo 11
  let fraction : Nat := bits % twoTo 52
  if exponentField = 2047 then
    if fraction = 0 then .infinite negative else .notANumber
  else if exponentField = 0 then .finite negative fraction (-1074)
  else .finite negative (twoTo 52 + fraction) ((exponentField : Int) - 1075)

/-- The value of a double. -/
def Binary.ofFloat (x : Float) : Binary := .ofBits x.toBits.toNat

/-- A double is known by its bits. -/
theorem eq_of_toBits_eq {x y : Float} (h : x.toBits = y.toBits) : x = y := by
  rcases x with ⟨⟨x, _⟩⟩
  rcases y with ⟨⟨y, _⟩⟩
  change x = y at h
  subst h
  rfl

/-- Doubles are compared by their bits: the two zeros differ. -/
instance decidableEqFloat : DecidableEq Float := fun x y =>
  decidable_of_decidable_of_iff (p := x.toBits = y.toBits)
    ⟨eq_of_toBits_eq, fun h => h ▸ rfl⟩

/-- The quotient of two natural numbers rounded to the nearest whole number, a half to the even
neighbour. -/
def roundedQuotient (numerator denominator : Nat) : Nat :=
  let quotient := numerator / denominator
  let rest := 2 * (numerator % denominator)
  if rest < denominator then quotient
  else if denominator < rest then quotient + 1
  else quotient + quotient % 2

/-- The nonnegative value `significand * 2 ^ exponent` as a fraction. -/
def fraction (significand : Nat) (exponent : Int) : Nat × Nat :=
  (significand * twoTo exponent.toNat, twoTo (-exponent).toNat)

/-- A whole number with a sign. -/
def signedWhole (negative : Bool) (n : Nat) : Int := if negative then -n else n

/-- The whole number that a way of rounding fractions finds for a double. For what is not finite it
is a bound of sixty-four bits, or zero. -/
def wholeBy (rounded : Bool → Nat → Nat → Nat) (x : Float) : Int :=
  match Binary.ofFloat x with
  | .finite negative significand exponent =>
    let (numerator, denominator) := fraction significand exponent
    signedWhole negative (rounded negative numerator denominator)
  | .infinite negative => if negative then -(twoTo 63) else twoTo 63 - 1
  | .notANumber => 0

/-- The whole part of a double, toward zero. -/
def wholePart : Float → Int := wholeBy fun _ numerator denominator => numerator / denominator

/-- The largest whole number that is not above a double. -/
def wholeBelow : Float → Int :=
  wholeBy fun negative numerator denominator =>
    if negative then (numerator + denominator - 1) / denominator else numerator / denominator

/-- The nearest whole number to a double, a half away from zero. -/
def nearestWhole : Float → Int :=
  wholeBy fun _ numerator denominator => (2 * numerator + denominator) / (2 * denominator)

/-- The number of decimal digits of a natural number. -/
def digitCount (n : Nat) : Nat := (toString n).length

end Daylight.Decimal
