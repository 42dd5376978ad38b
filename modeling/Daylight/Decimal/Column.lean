import Daylight.Decimal.Shortest

/-!
# Numbers in text columns

A table column of text type stores a number in at most fifteen digits. They are not those of the
exact value: the number is brought between one and ten, half a unit of its fifteenth digit is added,
and then one digit after the other is taken off the front, and every step is rounded to a
significand of sixty-four bits. So a number that lies in the middle between two texts can become
either.
-/

namespace Daylight.Decimal

open Daylight.Text

/-- A number `significand * 2 ^ exponent` that is not negative. Its significand has sixty-four bits,
one more when rounding has carried to a power of two, or is zero. -/
structure Extended where
  /-- The significand. -/
  significand : Nat
  /-- The power of two. -/
  exponent : Int
  deriving DecidableEq, Repr

namespace Extended

/-- The number as a fraction. -/
def fraction (x : Extended) : Nat × Nat := Decimal.fraction x.significand x.exponent

/-- The nearest number to a fraction, a half to the even neighbour. -/
def round (numerator denominator : Nat) : Extended :=
  if numerator = 0 then ⟨0, 0⟩
  else
    let guess : Int := (numerator.log2 : Int) - denominator.log2 - 63
    let scaled := fun (exponent : Int) =>
      (numerator * twoTo (-exponent).toNat, denominator * twoTo exponent.toNat)
    let (upper, lower) := scaled guess
    let exponent := if upper / lower < twoTo 63 then guess - 1 else guess
    let (upper, lower) := scaled exponent
    ⟨roundedQuotient upper lower, exponent⟩

/-- A whole number. -/
def ofNat (n : Nat) : Extended := round n 1

/-- The size of a double that is finite. -/
def ofFloat (x : Float) : Extended :=
  match Binary.ofFloat x with
  | .finite _ significand exponent =>
    let (numerator, denominator) := Decimal.fraction significand exponent
    round numerator denominator
  | _ => ⟨0, 0⟩

/-- The product. -/
def mul (x y : Extended) : Extended :=
  round (x.fraction.1 * y.fraction.1) (x.fraction.2 * y.fraction.2)

/-- The quotient. -/
def div (x y : Extended) : Extended :=
  round (x.fraction.1 * y.fraction.2) (x.fraction.2 * y.fraction.1)

/-- The sum. -/
def add (x y : Extended) : Extended :=
  round (x.fraction.1 * y.fraction.2 + y.fraction.1 * x.fraction.2) (x.fraction.2 * y.fraction.2)

/-- Whether one number is at most another one. -/
def atMost (x y : Extended) : Bool := x.fraction.1 * y.fraction.2 ≤ y.fraction.1 * x.fraction.2

/-- The whole part. -/
def whole (x : Extended) : Nat := x.fraction.1 / x.fraction.2

/-- Ten times what lies behind the point. -/
def shiftOut (x : Extended) : Extended :=
  round (x.fraction.1 % x.fraction.2 * 10) x.fraction.2

/-- The first digits of a number below ten. -/
def digits : Nat → Extended → List Char
  | 0, _ => []
  | count + 1, x => digitChar x.whole :: digits count x.shiftOut

end Extended

/-- A number in the making: the value, and the power of ten that it stands for one of. -/
structure Scaled where
  /-- The value. -/
  value : Extended
  /-- The power of ten. -/
  power : Int

/-- A scale raised by a step, as long as the number reaches it. -/
def raise (x step : Extended) (power : Nat) : Nat → Scaled → Scaled
  | 0, scale => scale
  | count + 1, scale =>
    if (step.mul scale.value).atMost x then
      raise x step power count ⟨scale.value.mul step, scale.power + power⟩
    else scale

/-- A number raised by a step, as long as it lies below a bound. -/
def lift (bound step : Extended) (power : Nat) : Nat → Scaled → Scaled
  | 0, x => x
  | count + 1, x =>
    if bound.atMost x.value then x
    else lift bound step power count ⟨x.value.mul step, x.power - power⟩

/-- A number brought between one and ten. -/
def normalize (x : Extended) : Scaled :=
  let scale := raise x (.ofFloat 1e100) 100 4 ⟨.ofNat 1, 0⟩
  let scale := raise x (.ofFloat 1e10) 10 10 scale
  let scale := raise x (.ofNat 10) 1 10 scale
  let small := lift (.ofFloat 1e-8) (.ofFloat 1e8) 8 50 ⟨x.div scale.value, scale.power⟩
  lift (.ofNat 1) (.ofNat 10) 1 10 small

/-- Half a unit of the fifteenth digit of a number between one and ten, as a double. -/
def halfUnit : Extended := .ofFloat (5e-5 * 1e-10)

/-- The fifteen digits of a number, and its power of ten. -/
def columnDigits (x : Extended) : List Char × Int :=
  let start := normalize x
  let raised := start.value.add halfUnit
  if (Extended.ofNat 10).atMost raised then
    (Extended.digits 15 (raised.mul (.ofFloat 0.1)), start.power + 1)
  else (Extended.digits 15 raised, start.power)

/-- A double as a text column stores it. Zero has no sign. -/
def columnText (x : Float) : String :=
  match Binary.ofFloat x with
  | .notANumber => ""
  | .infinite negative => if negative then "-Inf" else "Inf"
  | .finite negative significand _ =>
    if significand = 0 then "0.0"
    else
      let (digits, power) := columnDigits (.ofFloat x)
      let (kept, _) := dropZeros digits
      let point := power + 1
      let body :=
        if -4 < point ∧ point ≤ 15 then positional kept point
        else scientific (if kept.length = 1 then kept ++ ['0'] else kept) point
      (if negative then "-" else "") ++ String.ofList body

end Daylight.Decimal
