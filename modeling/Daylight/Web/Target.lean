import Daylight.Text.Digit

/-!
# Request targets

A request names its target by a path, or by a whole address with a scheme and an authority. What
stands behind a question mark or a number sign does not belong to the path. A path need not begin
with a slash, its segments `.` and `..` are resolved, and its percent-encoded characters are decoded
twice, once by the sender and once by the receiver. Characters outside ASCII lead nowhere, so
encoded octets outside ASCII become the replacement character.
-/

namespace Daylight.Web.Target

open Daylight.Text

/-- Whether a character may stand in a scheme behind its first letter. -/
def isSchemeChar (c : Char) : Bool := c.isAlphanum || c = '+' || c = '.' || c = '-'

/-- What stands in front of a colon and what stands behind it, when a scheme, or nothing at all,
stands in front of one. -/
def takeScheme (cs : List Char) : List Char × List Char :=
  let scheme := cs.takeWhile isSchemeChar
  match cs.drop scheme.length with
  | ':' :: rest => if scheme.head?.all Char.isAlpha then (scheme, rest) else ([], cs)
  | _ => ([], cs)

/-- What stands behind two slashes, and what follows it. -/
def takeAuthority : List Char → List Char × List Char
  | '/' :: '/' :: rest =>
    let authority := rest.takeWhile fun c => c ≠ '/' && c ≠ '?' && c ≠ '#'
    (authority, rest.drop authority.length)
  | cs => ([], cs)

/-- The host of an authority, between a user and a port. -/
def hostOf (authority : List Char) : List Char :=
  let behindUser := (authority.reverse.takeWhile (· ≠ '@')).reverse
  behindUser.takeWhile (· ≠ ':')

/-- The path as it is written. A target without a host has its path below the root. -/
def writtenPath (cs : List Char) : List Char :=
  let (scheme, rest) := takeScheme cs
  let (authority, rest) := takeAuthority rest
  let path := rest.takeWhile fun c => c ≠ '?' && c ≠ '#'
  if scheme.isEmpty || (hostOf authority).isEmpty then '/' :: path.dropWhile (· = '/')
  else if path.isEmpty then ['/']
  else path

/-- The segments of a path, between its slashes. -/
def segments : List Char → List (List Char)
  | [] => [[]]
  | '/' :: rest => [] :: segments rest
  | c :: rest =>
    match segments rest with
    | segment :: others => (c :: segment) :: others
    | [] => [[c]]

/-- One segment more, with the last one first: `.` adds nothing, and `..` takes one away, except the
empty one in front of the root. -/
def resolveSegment (done : List (List Char)) (segment : List Char) : List (List Char) :=
  if segment = ['.'] then done
  else if segment = ['.', '.'] then (if done = [[]] then done else done.drop 1)
  else segment :: done

/-- A path with its dots resolved. -/
def resolve (path : List Char) : List Char :=
  ['/'].intercalate ((segments path).foldl resolveSegment []).reverse

/-- The character of an encoded octet. -/
def octetChar (octet : Nat) : Char := Char.ofNat (if octet < 0x80 then octet else 0xFFFD)

/-- A text with its percent-encoded characters decoded. A percent sign without two digits stands for
itself. -/
def decode : List Char → List Char
  | '%' :: a :: b :: rest =>
    match hexValue? a, hexValue? b with
    | some high, some low => octetChar (high * 16 + low) :: decode rest
    | _, _ => '%' :: decode (a :: b :: rest)
  | c :: rest => c :: decode rest
  | [] => []

/-- The path that a target leads to. -/
def path (target : String) : List Char := decode (decode (resolve (writtenPath target.toList)))

end Daylight.Web.Target
