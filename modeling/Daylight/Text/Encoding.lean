/-!
# Encodings

A text arrives as octets, in one of five encodings: UTF-8, or UTF-16 or UTF-32 with the octets of a
unit in either order. A text whose first characters are ASCII shows its encoding by the zeros among
its first four octets, or among its two when it has no more.

A unit of UTF-16 is a character of the basic plane or half of a pair, a high half in front of a low
one. A half that stands alone becomes the replacement character.
-/

namespace Daylight.Text

/-! ### Units of UTF-16 -/

/-- Whether a unit is the first half of a pair. -/
def isHighHalf (unit : Nat) : Bool := 0xD800 ≤ unit && unit < 0xDC00

/-- Whether a unit is the second half of a pair. -/
def isLowHalf (unit : Nat) : Bool := 0xDC00 ≤ unit && unit < 0xE000

/-- The character of a unit that stands alone. -/
def unitChar (unit : Nat) : Char :=
  if isHighHalf unit || isLowHalf unit then Char.ofNat 0xFFFD else Char.ofNat unit

/-- The character of a pair. -/
def pairChar (high low : Nat) : Char :=
  Char.ofNat (0x10000 + (high - 0xD800) * 0x400 + (low - 0xDC00))

/-- The characters of units. -/
def unitChars : List Nat → List Char
  | [] => []
  | [unit] => [unitChar unit]
  | high :: low :: rest =>
    if isHighHalf high && isLowHalf low then pairChar high low :: unitChars rest
    else unitChar high :: unitChars (low :: rest)

/-! ### Octets -/

/-- The octets of a character in UTF-8. -/
def octetsOf (c : Char) : List Nat :=
  let n := c.toNat
  let tail := fun (shifted : Nat) => 0x80 + shifted % 0x40
  if n < 0x80 then [n]
  else if n < 0x800 then [0xC0 + n / 0x40, tail n]
  else if n < 0x10000 then [0xE0 + n / 0x1000, tail (n / 0x40), tail n]
  else [0xF0 + n / 0x40000, tail (n / 0x1000), tail (n / 0x40), tail n]

/-- The encodings. -/
inductive Encoding where
  /-- One to four octets for each character. -/
  | utf8
  /-- Units of two octets. -/
  | utf16 (highFirst : Bool)
  /-- Units of four octets. -/
  | utf32 (highFirst : Bool)
  deriving DecidableEq, Repr

namespace Encoding

/-- The encoding that octets show. -/
def ofOctets : List Nat → Encoding
  | [a, b] => if a = 0 then utf16 true else if b = 0 then utf16 false else utf8
  | a :: b :: c :: d :: _ =>
    if a = 0 then (if b = 0 then utf32 true else utf16 true)
    else if b = 0 then (if c = 0 ∧ d = 0 then utf32 false else utf16 false)
    else utf8
  | _ => utf8

/-- The unit of some octets. -/
def unitOf (highFirst : Bool) (octets : List Nat) : Nat :=
  (if highFirst then octets else octets.reverse).foldl (fun unit octet => unit * 256 + octet) 0

/-- The units of two octets each. -/
def shortUnits? (highFirst : Bool) : List Nat → Option (List Nat)
  | [] => some []
  | a :: b :: rest => (shortUnits? highFirst rest).map (unitOf highFirst [a, b] :: ·)
  | _ => none

/-- The units of four octets each, none of them beyond the last character. -/
def longUnits? (highFirst : Bool) : List Nat → Option (List Nat)
  | [] => some []
  | a :: b :: c :: d :: rest =>
    let unit := unitOf highFirst [a, b, c, d]
    if unit < 0x110000 then (longUnits? highFirst rest).map (unit :: ·) else none
  | _ => none

/-- The characters of a text that was read as UTF-8, when its octets are taken in the encoding that
they show. A byte order mark in front of UTF-8 does not count. -/
def reread? (cs : List Char) : Option (List Char) :=
  let octets := cs.flatMap octetsOf
  match ofOctets octets with
  | utf8 =>
    match cs with
    | c :: rest => some (if c.toNat = 0xFEFF then rest else cs)
    | [] => some []
  | utf16 highFirst => (shortUnits? highFirst octets).map unitChars
  | utf32 highFirst => (longUnits? highFirst octets).map (·.map unitChar)

end Encoding

end Daylight.Text
