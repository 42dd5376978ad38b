import Daylight.Failure

/-!
# The options of the command line

The command line has three forms: the general one, up to the name of a command, and one for each
command. A form says which options it knows. Every option has one or more spellings and takes either
one value or none.
-/

namespace Daylight.Cli

/-- The options. -/
inductive Flag where
  /-- Show what can be given. -/
  | help
  /-- Show the version. -/
  | version
  /-- What the log shows. -/
  | logLevel
  /-- The latitude. -/
  | latitude
  /-- The longitude. -/
  | longitude
  /-- The moment to evaluate at. -/
  | instant
  /-- The time zone. -/
  | zone
  deriving DecidableEq, Repr

namespace Flag

/-- How an option is spelled, the short spelling first. -/
def spellings : Flag → List String
  | help => ["-h", "--help"]
  | version => ["--version"]
  | logLevel => ["--log-level"]
  | latitude => ["--lat"]
  | longitude => ["--lon"]
  | instant => ["--at"]
  | zone => ["--timezone"]

/-- All spellings of an option in one word. -/
def title (f : Flag) : String := "/".intercalate f.spellings

/-- Whether an option takes a value. -/
def takesValue : Flag → Bool
  | help | version => false
  | _ => true

/-- What stands for the value of an option. -/
def valueName : Flag → String
  | logLevel => "\x7bDEBUG,INFO,WARNING,ERROR\x7d"
  | latitude => "LAT"
  | longitude => "LON"
  | instant => "AT"
  | zone => "TIMEZONE"
  | _ => ""

end Flag

/-- The forms of the command line. -/
inductive Form where
  /-- The general form, in front of a command. -/
  | general
  /-- One evaluation. -/
  | evaluate
  /-- Watching for changes. -/
  | watch
  deriving DecidableEq, Repr

namespace Form

/-- The forms of the commands. -/
def commands : List Form := [evaluate, watch]

/-- The word that stands for a command. -/
def word : Form → String
  | general => ""
  | evaluate => "evaluate"
  | watch => "watch"

/-- The name of the program. -/
def programName : String := "twilight_tracker"

/-- The version of the program. -/
def versionText : String := programName ++ " 0.1.0"

/-- The program, with the command if there is one. -/
def program : Form → String
  | general => programName
  | form => programName ++ " " ++ form.word

/-- The form of a command. -/
def ofWord? (word : String) : Option Form := commands.find? fun form => form.word = word

/-- The options of a form. -/
def flags : Form → List Flag
  | general => [.help, .version, .logLevel]
  | evaluate => [.help, .latitude, .longitude, .instant, .zone]
  | watch => [.help, .latitude, .longitude, .zone]

/-- The options that have to be given. -/
def required : Form → List Flag
  | general => []
  | _ => [.latitude, .longitude]

/-- Whether a command may stand in a form. -/
def takesCommand : Form → Bool
  | general => true
  | _ => false

/-- All spellings of a form with their options. -/
def spellings (form : Form) : List (String × Flag) :=
  form.flags.flatMap fun flag => flag.spellings.map fun spelling => (spelling, flag)

/-- One option of a usage line. -/
def usagePart (form : Form) (flag : Flag) : String :=
  let spelling := flag.spellings.headD ""
  let written := if flag.takesValue then spelling ++ " " ++ flag.valueName else spelling
  if flag ∈ form.required then written else "[" ++ written ++ "]"

/-- The usage line of a form. -/
def usage (form : Form) : String :=
  let commands := if form.takesCommand then ["\x7bevaluate,watch\x7d ..."] else []
  " ".intercalate ("usage:" :: form.program :: form.flags.map form.usagePart ++ commands)

end Form

end Daylight.Cli
