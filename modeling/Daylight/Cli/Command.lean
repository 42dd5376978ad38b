import Daylight.Cli.Word
import Daylight.Decimal.Reader
import Daylight.Time.Notation

/-!
# Commands

A command is what the arguments of the program ask for. The general form is read first, up to the
command; the command has all arguments that follow, and reads them by its own form. A value is read
when its option is met, so of two mistakes the first one is told; the last of several values counts.
Arguments that nobody takes are told last, those of the general form in front.
-/

namespace Daylight.Cli

/-- Why the program does not get as far as a command. -/
inductive Stop where
  /-- The arguments are wrong, by a form. -/
  | misuse (form : Form) (cause : Misuse)
  /-- The version was asked for. -/
  | version
  /-- It was asked what can be given to a form. -/
  | help (form : Form)
  /-- A value is out of reach. -/
  | failure (e : Failure)
  deriving DecidableEq

/-- The values of the options, as far as they were given. -/
structure Options where
  /-- What the log shows. -/
  logLevel : String
  /-- The latitude. -/
  latitude : Option Float
  /-- The longitude. -/
  longitude : Option Float
  /-- The moment to evaluate at, in universal time. -/
  instant : Option Moment
  /-- The name of the time zone. -/
  zone : Option String
  deriving DecidableEq

namespace Options

/-- The choices for what the log shows. -/
def logLevels : List String := ["DEBUG", "INFO", "WARNING", "ERROR"]

/-- No option. -/
def none : Options := ⟨"WARNING", .none, .none, .none, .none⟩

/-- The number that is the value of an option. -/
def readNumber (form : Form) (flag : Flag) (text : String) : Except Stop Float :=
  match Decimal.readGrouped text with
  | some x => .ok x
  | .none => .error (.misuse form (.notNumber flag text))

/-- The moment that is the value of an option. -/
def readMoment (form : Form) (flag : Flag) (text : String) : Except Stop Moment :=
  match Moment.read? text.toList with
  | some moment => moment.toUtc.mapError .failure
  | .none => .error (.misuse form (.notMoment flag text))

/-- Takes the value of an option. -/
def take (o : Options) (form : Form) (flag : Flag) (text : String) : Except Stop Options :=
  match flag with
  | .latitude => do return { o with latitude := some (← readNumber form flag text) }
  | .longitude => do return { o with longitude := some (← readNumber form flag text) }
  | .instant => do return { o with instant := some (← readMoment form flag text) }
  | .zone => .ok { o with zone := some text }
  | .logLevel =>
    if text ∈ logLevels then .ok { o with logLevel := text }
    else .error (.misuse form (.notChoice flag text logLevels))
  | .help | .version => .ok o

/-- Whether an option was given. -/
def has (o : Options) : Flag → Bool
  | .latitude => o.latitude.isSome
  | .longitude => o.longitude.isSome
  | _ => true

end Options

/-- Arguments as a form has read them. -/
structure Reading where
  /-- The options. -/
  options : Options
  /-- The arguments that it does not take. -/
  extras : List String
  /-- The command with all that follows it. -/
  command : List String

/-- Whatever is spare in what is attached to a short option without a value: such options can be
written in one word, so the letter of a known one may come next. Something has to come. -/
def spareBehind : List Char → Option (List Char)
  | ['h'] => none
  | 'h' :: rest => spareBehind rest
  | rest => some rest

/-- What an option without a value leads to. -/
def stopOf (form : Form) (arg : String) (flag : Flag) (attached : Option String) : Stop :=
  let plain := if flag = .version then .version else .help form
  match attached with
  | none => plain
  | some value =>
    let spare := if beginsWith arg dividerText then some value.toList
      else spareBehind value.toList
    match spare with
    | some rest => .misuse form (.spareValue flag (String.ofList rest))
    | none => plain

/-- Reads words by a form. -/
def consume (form : Form) (r : Reading) : List (String × Word) → Except Stop Reading
  | [] => .ok r
  | (arg, .stranger) :: words => consume form { r with extras := r.extras ++ [arg] } words
  | (arg, .flag flag (some value)) :: words =>
    if flag.takesValue then do
      let options ← r.options.take form flag value
      consume form { r with options := options } words
    else .error (stopOf form arg flag (some value))
  | (arg, .flag flag none) :: (value, .value) :: words =>
    if flag.takesValue then do
      let options ← r.options.take form flag value
      consume form { r with options := options } words
    else .error (stopOf form arg flag none)
  | (arg, .flag flag none) :: _ =>
    .error (if flag.takesValue then .misuse form (.noValue flag) else stopOf form arg flag none)
  | (arg, .divider) :: words =>
    if form.takesCommand ∧ words ≠ [] then .ok { r with command := arg :: words.map (·.1) }
    else consume form { r with extras := r.extras ++ [arg] } words
  | (arg, .value) :: words =>
    if form.takesCommand then .ok { r with command := arg :: words.map (·.1) }
    else consume form { r with extras := r.extras ++ [arg] } words

/-- Reads arguments by a form. -/
def readForm (form : Form) (args : List String) : Except Stop Reading := do
  let words ← (wordsOf form args).mapError (.misuse form)
  let r ← consume form ⟨.none, [], []⟩ words
  match form.required.filter fun flag => !r.options.has flag with
  | [] => return r
  | flags => throw (.misuse form (.missing flags))

/-- What the program is asked to do. -/
inductive Command where
  /-- Nothing. -/
  | nothing
  /-- To evaluate once, now if no moment is given. -/
  | evaluate (latitude longitude : Float) (instant : Option Moment) (zone : Option String)
  /-- To watch for changes. -/
  | watch (latitude longitude : Float) (zone : Option String)
  deriving DecidableEq

/-- The command of a form with its options. -/
def Options.command (o : Options) (form : Form) : Command :=
  match form, o.latitude, o.longitude with
  | .evaluate, some latitude, some longitude => .evaluate latitude longitude o.instant o.zone
  | .watch, some latitude, some longitude => .watch latitude longitude o.zone
  | _, _, _ => .nothing

/-- A command, and what the log shows meanwhile. -/
structure Call where
  /-- The command. -/
  command : Command
  /-- What the log shows. -/
  logLevel : String
  deriving DecidableEq

/-- The call that arguments make, if nobody is left with any of them. -/
def callOf (extras : List String) (call : Call) : Except Stop Call :=
  if extras.isEmpty then .ok call else .error (.misuse .general (.unrecognized extras))

/-- The call that the arguments of the program make. -/
def Call.ofArguments (args : List String) : Except Stop Call := do
  let general ← readForm .general args
  let logLevel := general.options.logLevel
  match general.command with
  | [] => callOf general.extras ⟨.nothing, logLevel⟩
  | word :: args =>
    match Form.ofWord? word with
    | none => throw (.misuse .general (.notCommand word))
    | some form =>
      let own ← readForm form args
      callOf (general.extras ++ own.extras) ⟨own.options.command form, logLevel⟩

end Daylight.Cli
