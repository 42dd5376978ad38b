import Daylight.Json.Value
import Daylight.Decimal.Reader
import Daylight.Text.Encoding

/-!
# Reading JSON

The reader goes through the text once and stops at the first position where no value can go on; that
position, counted in characters, is all that is told about a text that is not JSON. Besides the
numbers of the standard it takes the words `NaN`, `Infinity` and `-Infinity`. Half of a surrogate
pair becomes the replacement character.

Two bounds keep the work small: lists and objects nest only so deeply, and a whole number has only
so many digits. A text beyond them is given up where it crosses them.

Values nest, so reading a value, the items of a list and the fields of an object are one recursion.
Each call takes at least one character off the text or is followed by one that does, so a bound of
twice the length is never reached.
-/

namespace Daylight.Json

open Text Decimal

/-- Why a text has no value. -/
inductive Fault where
  /-- It stops being JSON at a position. -/
  | malformed (position : Nat)
  /-- It crosses one of the bounds. -/
  | outOfBounds
  deriving DecidableEq, Repr

/-- How many lists and objects may be open at once. -/
def deepest : Nat := 960

/-- How many digits a whole number may have. -/
def longest : Nat := 4300

/-- The rest of a text with the position where it starts. -/
structure Cursor where
  /-- What is still to be read. -/
  rest : List Char
  /-- The number of characters read. -/
  position : Nat

/-- The cursor behind the next `n` characters. -/
def Cursor.advance (c : Cursor) (n : Nat) : Cursor := ⟨c.rest.drop n, c.position + n⟩

/-- Whether a character may stand between the parts of a value. -/
def isSpace (c : Char) : Bool := c = ' ' || c = '\t' || c = '\n' || c = '\r'

/-- The cursor behind the white space. -/
def Cursor.skipSpace (c : Cursor) : Cursor := c.advance (c.rest.takeWhile isSpace).length

/-- The UTF-16 unit that four hexadecimal digits at the front write. -/
def unit? : List Char → Option Nat
  | a :: b :: c :: d :: _ => do
    return (((← hexValue? a) * 16 + (← hexValue? b)) * 16 + (← hexValue? c)) * 16 + (← hexValue? d)
  | _ => none

/-- The character of an escape with a unit, and the number of characters behind the backslash that
it takes: a high unit takes a low one that follows it and does not end the text. -/
def unitEscape (unit : Nat) (behind : List Char) : Char × Nat :=
  match behind with
  | '\\' :: 'u' :: rest =>
    match unit? rest with
    | some low =>
      if isHighHalf unit && isLowHalf low && 4 < rest.length then (pairChar unit low, 11)
      else (unitChar unit, 5)
    | none => (unitChar unit, 5)
  | _ => (unitChar unit, 5)

/-- The character of an escape with a letter. -/
def letterEscape? (c : Char) : Option Char :=
  if c = '"' ∨ c = '\\' ∨ c = '/' then some c
  else if c = 'b' then some (Char.ofNat 8)
  else if c = 'f' then some (Char.ofNat 12)
  else if c = 'n' then some '\n'
  else if c = 'r' then some '\r'
  else if c = 't' then some '\t'
  else none

/-- The rest of a text whose opening quote stands at `opening`. A text without an end fails at its
opening quote, a control character where it stands, a bad escape at its backslash, and bad digits of
a unit at the letter before them. -/
def readText (opening : Nat) : Nat → Cursor → List Char → Except Fault (String × Cursor)
  | 0, _, _ => .error (.malformed opening)
  | fuel + 1, cursor, done =>
    match cursor.rest with
    | [] => .error (.malformed opening)
    | c :: rest =>
      if c = '"' then .ok (String.ofList done.reverse, cursor.advance 1)
      else if c = '\\' then
        match rest with
        | [] => .error (.malformed opening)
        | 'u' :: digits =>
          if digits.length ≤ 4 then .error (.malformed (cursor.position + 1))
          else match unit? digits with
            | none => .error (.malformed (cursor.position + 1))
            | some unit =>
              let (decoded, taken) := unitEscape unit (digits.drop 4)
              readText opening fuel (cursor.advance (taken + 1)) (decoded :: done)
        | letter :: _ =>
          match letterEscape? letter with
          | some decoded => readText opening fuel (cursor.advance 2) (decoded :: done)
          | none => .error (.malformed cursor.position)
      else if c.toNat < 0x20 then .error (.malformed cursor.position)
      else readText opening fuel (cursor.advance 1) (c :: done)

/-- The number at the front, with its length. A leading zero stands alone; a point or a power of ten
counts only with a digit behind it. -/
def number? (cs : List Char) : Option (Except Fault Json × Nat) :=
  let (negative, unsigned) := match cs with
    | '-' :: rest => (true, rest)
    | rest => (false, rest)
  let whole := match unsigned with
    | '0' :: _ => ['0']
    | rest => rest.takeWhile Char.isDigit
  if whole.isEmpty then none
  else
    let rest := unsigned.drop whole.length
    let (behind, rest) := match rest with
      | '.' :: digits =>
        let behind := digits.takeWhile Char.isDigit
        if behind.isEmpty then ([], rest) else ('.' :: behind, digits.drop behind.length)
      | _ => ([], rest)
    let power := match rest with
      | c :: after =>
        if c = 'e' ∨ c = 'E' then
          let (sign, digits) := match after with
            | '-' :: digits => (['-'], digits)
            | '+' :: digits => (['+'], digits)
            | digits => ([], digits)
          let digits := digits.takeWhile Char.isDigit
          if digits.isEmpty then [] else c :: (sign ++ digits)
        else []
      | [] => []
    let taken := (if negative then 1 else 0) + whole.length + behind.length + power.length
    if behind.isEmpty && power.isEmpty then
      if longest < whole.length then some (.error .outOfBounds, taken)
      else
        let size : Int := (readDigits 0 whole).getD 0
        some (.ok (integer (if negative then -size else size)), taken)
    else
      let value := (readUnsigned negative (whole ++ behind ++ power)).map Numeral.toFloat
      some (.ok (real (value.getD 0.0)), taken)

/-- The words, with the values that they name. -/
def words : List (List Char × Json) :=
  [("null".toList, null), ("true".toList, bool true), ("false".toList, bool false),
    ("NaN".toList, real (0.0 / 0.0)), ("Infinity".toList, real (1.0 / 0.0)),
    ("-Infinity".toList, real (-1.0 / 0.0))]

/-- A word or a number. -/
def readPlain (cursor : Cursor) : Except Fault (Json × Cursor) :=
  match words.find? fun word => word.1.isPrefixOf cursor.rest with
  | some (word, value) => .ok (value, cursor.advance word.length)
  | none =>
    match number? cursor.rest with
    | some (value, taken) => (·, cursor.advance taken) <$> value
    | none => .error (.malformed cursor.position)

mutual

/-- One value, with no white space before it, in which `depth` lists and objects may be open at
once. -/
def readValue : Nat → Nat → Cursor → Except Fault (Json × Cursor)
  | 0, _, cursor => .error (.malformed cursor.position)
  | fuel + 1, depth, cursor =>
    match cursor.rest with
    | '"' :: _ => do
      let (s, cursor) ← readText cursor.position (cursor.rest.length + 1) (cursor.advance 1) []
      return (text s, cursor)
    | '\x7b' :: _ =>
      if depth = 0 then .error .outOfBounds
      else
        let inside := (cursor.advance 1).skipSpace
        match inside.rest with
        | '\x7d' :: _ => .ok (object [], inside.advance 1)
        | _ => do
          let (fields, cursor) ← readFields fuel (depth - 1) inside
          return (object fields, cursor)
    | '[' :: _ =>
      if depth = 0 then .error .outOfBounds
      else
        let inside := (cursor.advance 1).skipSpace
        match inside.rest with
        | ']' :: _ => .ok (array [], inside.advance 1)
        | _ => do
          let (items, cursor) ← readItems fuel (depth - 1) inside
          return (array items, cursor)
    | _ => readPlain cursor

/-- The items of a list from the first one on, with the closing bracket. -/
def readItems : Nat → Nat → Cursor → Except Fault (List Json × Cursor)
  | 0, _, cursor => .error (.malformed cursor.position)
  | fuel + 1, depth, cursor => do
    let (item, cursor) ← readValue fuel depth cursor
    let cursor := cursor.skipSpace
    match cursor.rest with
    | ']' :: _ => return ([item], cursor.advance 1)
    | ',' :: _ =>
      let (items, cursor) ← readItems fuel depth (cursor.advance 1).skipSpace
      return (item :: items, cursor)
    | _ => .error (.malformed cursor.position)

/-- The fields of an object from the first one on, with the closing brace. -/
def readFields : Nat → Nat → Cursor → Except Fault (List (String × Json) × Cursor)
  | 0, _, cursor => .error (.malformed cursor.position)
  | fuel + 1, depth, cursor =>
    match cursor.rest with
    | '"' :: _ => do
      let (key, cursor) ← readText cursor.position (cursor.rest.length + 1) (cursor.advance 1) []
      let cursor := cursor.skipSpace
      match cursor.rest with
      | ':' :: _ =>
        let (value, cursor) ← readValue fuel depth (cursor.advance 1).skipSpace
        let cursor := cursor.skipSpace
        match cursor.rest with
        | '\x7d' :: _ => return ([(key, value)], cursor.advance 1)
        | ',' :: _ =>
          let (fields, cursor) ← readFields fuel depth (cursor.advance 1).skipSpace
          return ((key, value) :: fields, cursor)
        | _ => .error (.malformed cursor.position)
      | _ => .error (.malformed cursor.position)
    | _ => .error (.malformed cursor.position)

end

/-- The value of a whole text. -/
def read (cs : List Char) : Except Fault Json := do
  let (value, cursor) ← readValue (2 * cs.length + 2) deepest (Cursor.mk cs 0).skipSpace
  let cursor := cursor.skipSpace
  if cursor.rest.isEmpty then return value else .error (.malformed cursor.position)

end Daylight.Json
