import Daylight.Cli.Misuse
import Daylight.Text.Digit

/-!
# The words of the command line

Before anything is done, a form tells what every argument looks like. An argument with a dash in
front looks like an option, unless it is a single dash, or it is none of the form's options and
writes a negative number or holds a blank. An option may be given by any beginning of its long
spelling that no other option shares, and its value may be attached with an equals sign. Behind the
first argument that consists of two dashes every argument is a value.
-/

namespace Daylight.Cli

/-- What an argument looks like. -/
inductive Word where
  /-- It is a value or a command. -/
  | value
  /-- It is the first one of two dashes alone. -/
  | divider
  /-- It is an option of the form. -/
  | flag (flag : Flag) (attached : Option String)
  /-- It looks like an option and is none of the form's. -/
  | stranger
  deriving DecidableEq, Repr

/-- An option that an argument can stand for, by its spelling. -/
structure Candidate where
  /-- The spelling. -/
  spelling : String
  /-- The option. -/
  flag : Flag
  /-- The value that is attached to it. -/
  attached : Option String
  deriving DecidableEq, Repr

/-- The argument that divides options from values. -/
def dividerText : String := "--"

/-- The part of an argument before its first equals sign, and the part behind it, if there is an
equals sign. -/
def splitAttached (arg : String) : String × Option String :=
  let cs := arg.toList
  match cs.dropWhile (· ≠ '=') with
  | [] => (arg, none)
  | _ :: behind => (String.ofList (cs.takeWhile (· ≠ '=')), some (String.ofList behind))

/-- Whether a text writes a negative number: a minus, digits of any script, and a point with digits
or none. A line break at the end does not count. -/
def isNegativeNumber (arg : String) : Bool :=
  match arg.toList with
  | '-' :: rest =>
    let rest := if rest.getLast? = some '\n' then rest.dropLast else rest
    match rest.dropWhile Text.isDecimalDigit with
    | [] => !rest.isEmpty
    | '.' :: behind => !behind.isEmpty && behind.all Text.isDecimalDigit
    | _ => false
  | _ => false

/-- Whether one text begins with another one. -/
def beginsWith (whole start : String) : Bool := start.toList.isPrefixOf whole.toList

/-- The options that an argument can stand for without being spelled out. Behind two dashes, those
whose spelling it begins; behind one, a short one with its value attached. -/
def candidates (form : Form) (arg : String) : List Candidate :=
  if beginsWith arg dividerText then
    let (start, attached) := splitAttached arg
    (form.spellings.filter fun entry => beginsWith entry.1 start).map
      fun (spelling, flag) => ⟨spelling, flag, attached⟩
  else
    let short := String.ofList (arg.toList.take 2)
    let behind := String.ofList (arg.toList.drop 2)
    form.spellings.filterMap fun (spelling, flag) =>
      if spelling = short then some ⟨spelling, flag, some behind⟩
      else if beginsWith spelling arg then some ⟨spelling, flag, none⟩
      else none

/-- What an argument looks like that begins with a dash and is not spelled like an option. -/
def unspelled (form : Form) (arg : String) : Except Misuse Word :=
  match candidates form arg with
  | [candidate] => .ok (.flag candidate.flag candidate.attached)
  | [] =>
    if isNegativeNumber arg || arg.toList.contains ' ' then .ok .value else .ok .stranger
  | several => .error (.ambiguous arg (several.map (·.spelling)))

/-- What an argument looks like. -/
def wordOf (form : Form) (arg : String) : Except Misuse Word :=
  match arg.toList with
  | [] => .ok .value
  | ['-'] => .ok .value
  | '-' :: _ =>
    match form.spellings.lookup arg with
    | some flag => .ok (.flag flag none)
    | none =>
      match splitAttached arg with
      | (spelling, some attached) =>
        match form.spellings.lookup spelling with
        | some flag => .ok (.flag flag (some attached))
        | none => unspelled form arg
      | (_, none) => unspelled form arg
  | _ => .ok .value

/-- The arguments with what they look like. -/
def wordsOf (form : Form) : List String → Except Misuse (List (String × Word))
  | [] => .ok []
  | arg :: args =>
    if arg = dividerText then .ok ((arg, .divider) :: args.map fun value => (value, .value))
    else do
      let word ← wordOf form arg
      let words ← wordsOf form args
      return (arg, word) :: words

end Daylight.Cli
