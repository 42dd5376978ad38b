import Daylight.Cli.Flag

/-!
# Misuse of the command line

Everything that can be wrong with the arguments of the program, and what it says then. The name of
the program with the command stands in front; arguments that nobody takes are the program's own
complaint, not the command's.
-/

namespace Daylight.Cli

/-- What is wrong with the arguments. -/
inductive Misuse where
  /-- An argument begins several options. -/
  | ambiguous (given : String) (candidates : List String)
  /-- An option is left with no value. -/
  | noValue (flag : Flag)
  /-- An option that takes no value is given one. -/
  | spareValue (flag : Flag) (text : String)
  /-- The value of an option is not a number. -/
  | notNumber (flag : Flag) (text : String)
  /-- The value of an option is not a moment. -/
  | notMoment (flag : Flag) (text : String)
  /-- The value of an option is none of its choices. -/
  | notChoice (flag : Flag) (text : String) (choices : List String)
  /-- No command has this name. -/
  | notCommand (text : String)
  /-- Options that have to be given are not. -/
  | missing (flags : List Flag)
  /-- Nobody takes these arguments. -/
  | unrecognized (texts : List String)
  deriving DecidableEq, Repr

namespace Misuse

/-- Texts with commas between them. -/
def commaList (texts : List String) : String := ", ".intercalate texts

/-- A complaint about the value of an argument. -/
def about (title text : String) : String := "argument " ++ title ++ ": " ++ text

/-- A value that is none of its choices. -/
def choiceText (text : String) (choices : List String) : String :=
  "invalid choice: " ++ Text.quote text ++
    " (choose from " ++ commaList (choices.map Text.quote) ++ ")"

/-- What is said about misuse. -/
def text : Misuse → String
  | ambiguous given candidates =>
    "ambiguous option: " ++ given ++ " could match " ++ commaList candidates
  | noValue flag => about flag.title "expected one argument"
  | spareValue flag value => about flag.title ("ignored explicit argument " ++ Text.quote value)
  | notNumber flag value => about flag.title ("invalid float value: " ++ Text.quote value)
  | notMoment flag value => about flag.title (Failure.message (.invalidMoment value))
  | notChoice flag value choices => about flag.title (choiceText value choices)
  | notCommand value => about "command" (choiceText value (Form.commands.map Form.word))
  | missing flags => "the following arguments are required: " ++ commaList (flags.map Flag.title)
  | unrecognized texts => "unrecognized arguments: " ++ " ".intercalate texts

/-- The complaint of a form. -/
def complaint (m : Misuse) (form : Form) : String := form.program ++ ": error: " ++ m.text

end Misuse

end Daylight.Cli
