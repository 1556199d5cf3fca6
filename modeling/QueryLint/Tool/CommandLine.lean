import QueryLint.Check.Settings
import QueryLint.Report.Render

/-!
The command line: two commands, `check` and `rules`, with options and flags. Arguments are taken
from left to right. An option waits for its value, and a value that waits is looked at when the
next argument is taken or the line ends; so a later unknown argument is reported before it.
-/

namespace QueryLint

structure CheckOptions where
  input : Text := ['-']
  dialect : Option Dialect := none
  format : Format := .text
  noSuggest : Bool := false
  rawErrors : Bool := false
  disable : List Text := []
  noColour : Bool := false
  deriving DecidableEq, Repr

inductive Request
  | check (verbose : Bool) (options : CheckOptions)
  | rules (verbose : Bool) (format : Format)
  deriving DecidableEq, Repr

inductive UsageError
  | helpWanted
  | versionWanted
  | nothingGiven
  | commandMissing
  | unknownCommand
  | unknownArgument
  | invalidValue
  | repeatedArgument
  | needlessValue
  deriving DecidableEq, Repr

def UsageError.exitCode : UsageError → Nat
  | helpWanted => 0
  | versionWanted => 0
  | _ => 2

def UsageError.message : UsageError → Text
  | helpWanted => "help was asked for"
  | versionWanted => "the version was asked for"
  | nothingGiven => "a command is needed"
  | commandMissing => "a command is needed"
  | unknownCommand => "there is no such command"
  | unknownArgument => "unexpected argument"
  | invalidValue => "an option has no value, or one that it does not take"
  | repeatedArgument => "an argument is given twice"
  | needlessValue => "a flag takes no value"

namespace CommandLine

inductive Flag
  | verbose
  | help
  | version
  | noSuggest
  | rawErrors
  | noColour
  deriving DecidableEq, Repr

inductive Valued
  | dialect
  | format
  | disable
  deriving DecidableEq, Repr

inductive Switch
  | flag (flag : Flag)
  | valued (valued : Valued)
  deriving DecidableEq, Repr

/-- The levels of a command line: before a command, and after it. -/
inductive Scope
  | top
  | check
  | rules
  deriving DecidableEq, Repr

def longSwitch? (scope : Scope) (name : Text) : Option Switch :=
  let common : List (String × Switch) := [("verbose", .flag .verbose), ("help", .flag .help)]
  let own : List (String × Switch) := match scope with
    | .top => [("version", .flag .version)]
    | .check => [("dialect", .valued .dialect), ("output-format", .valued .format),
        ("no-suggest", .flag .noSuggest), ("raw-errors", .flag .rawErrors),
        ("disable", .valued .disable), ("no-color", .flag .noColour)]
    | .rules => [("output-format", .valued .format)]
  ((common ++ own).find? fun switch => switch.1.toList = name).map (·.2)

def shortSwitch? (scope : Scope) (letter : Char) : Option Switch :=
  match letter, scope with
  | 'v', _ => some (.flag .verbose)
  | 'h', _ => some (.flag .help)
  | 'V', .top => some (.flag .version)
  | 'f', .check => some (.valued .format)
  | 'f', .rules => some (.valued .format)
  | _, _ => none

/-- What waits for its value, or for its value to be looked at. -/
inductive Waiting
  | nothing
  | value (valued : Valued) (given : Option Text)
  | input (path : Text)
  deriving DecidableEq, Repr

/-- What the arguments of one level have said so far. -/
structure Progress where
  scope : Scope
  waiting : Waiting := .nothing
  /-- The flags that were given. -/
  flags : List Flag := []
  input : Option Text := none
  dialect : Option Dialect := none
  format : Option Format := none
  disable : List Text := []
  /-- Whether only positional arguments follow. -/
  onlyPositional : Bool := false
  deriving DecidableEq, Repr

namespace Progress

def setValue (progress : Progress) (valued : Valued) (value : Text) : Except UsageError Progress :=
  match valued with
  | .dialect =>
    if progress.dialect.isSome then .error .repeatedArgument
    else match Dialect.all.find? fun dialect => dialect.name = value with
      | some dialect => .ok { progress with dialect := some dialect }
      | none => .error .invalidValue
  | .format =>
    if progress.format.isSome then .error .repeatedArgument
    else match Format.all.find? fun format => format.name = value with
      | some format => .ok { progress with format := some format }
      | none => .error .invalidValue
  | .disable => .ok { progress with disable := progress.disable ++ [value] }

def settle (progress : Progress) : Except UsageError Progress :=
  let settled := { progress with waiting := .nothing }
  match progress.waiting with
  | .nothing => .ok settled
  | .value _ none => .error .invalidValue
  | .value valued (some value) => settled.setValue valued value
  | .input path => if path.isEmpty then .error .invalidValue else .ok { settled with input := some path }

def takeFlag (progress : Progress) (flag : Flag) : Except UsageError Progress := do
  let progress ← progress.settle
  match flag with
  | .help => .error .helpWanted
  | .version => .error .versionWanted
  | _ =>
    if progress.flags.contains flag then .error .repeatedArgument
    else .ok { progress with flags := flag :: progress.flags }

def takeValued (progress : Progress) (valued : Valued) (attached : Option Text) :
    Except UsageError Progress := do
  let progress ← progress.settle
  match attached with
  | some value => progress.setValue valued value
  | none => .ok { progress with waiting := .value valued none }

def takeLong (progress : Progress) (argument : Text) : Except UsageError Progress :=
  let name := argument.takeWhile (· ≠ '=')
  let attached :=
    if name.length < argument.length then some (argument.drop (name.length + 1)) else none
  match longSwitch? progress.scope name, attached with
  | none, _ => .error .unknownArgument
  | some (.flag _), some _ => .error .needlessValue
  | some (.flag flag), none => progress.takeFlag flag
  | some (.valued valued), attached => progress.takeValued valued attached

/-- Takes single letters after a hyphen. What follows the letter of an option is its value, which
an equals sign can precede. -/
def takeShort (progress : Progress) : Text → Except UsageError Progress
  | [] => .ok progress
  | letter :: rest =>
    match shortSwitch? progress.scope letter with
    | none => .error .unknownArgument
    | some (.flag flag) => do
      let progress ← progress.takeFlag flag
      takeShort progress rest
    | some (.valued valued) =>
      progress.takeValued valued <|
        match rest with
        | [] => none
        | '=' :: value => some value
        | value => some value

/-- Takes a positional argument: the input of a check, which is at most one. -/
def takePositional (progress : Progress) (argument : Text) : Except UsageError Progress :=
  let hasInput := progress.input.isSome || match progress.waiting with
    | .input _ => true
    | _ => false
  if progress.scope ≠ .check || hasInput then .error .unknownArgument
  else do
    let progress ← progress.settle
    .ok { progress with waiting := .input argument }

def take (progress : Progress) (argument : Text) : Except UsageError Progress :=
  if progress.onlyPositional then progress.takePositional argument
  else match argument with
    | ['-', '-'] => .ok { progress with onlyPositional := true }
    | '-' :: '-' :: rest => progress.takeLong rest
    | '-' :: c :: rest => progress.takeShort (c :: rest)
    | _ =>
      match progress.waiting with
      | .value valued none => .ok { progress with waiting := .value valued (some argument) }
      | _ => progress.takePositional argument

def takeAll (progress : Progress) : List Text → Except UsageError Progress
  | [] => progress.settle
  | argument :: arguments => do
    let progress ← progress.take argument
    takeAll progress arguments

end Progress

/-- The commands that help can be asked about. -/
def helpTopics : List Text := ["check", "rules", "help"]

/-- What `help` and the words after it give: help on a command, if there is one of that name. -/
def helpOn : List Text → UsageError
  | [] => .helpWanted
  | [topic] => if helpTopics.contains topic then .helpWanted else .unknownCommand
  | _ => .unknownCommand

def checkRequest (verbose : Bool) (progress : Progress) : Request :=
  .check (verbose || progress.flags.contains .verbose)
    { input := progress.input.getD ['-']
      dialect := progress.dialect
      format := progress.format.getD .text
      noSuggest := progress.flags.contains .noSuggest
      rawErrors := progress.flags.contains .rawErrors
      disable := progress.disable
      noColour := progress.flags.contains .noColour }

def rulesRequest (verbose : Bool) (progress : Progress) : Request :=
  .rules (verbose || progress.flags.contains .verbose) (progress.format.getD .text)

/-- Takes arguments up to the command, and then those of the command. -/
def parseFrom (progress : Progress) : List Text → Except UsageError Request
  | [] => .error (if progress.flags.isEmpty then .nothingGiven else .commandMissing)
  | argument :: arguments =>
    let verbose := progress.flags.contains .verbose
    if progress.onlyPositional then
      .error (if helpTopics.contains argument then .unknownArgument else .unknownCommand)
    else if argument = "check" then
      (Progress.takeAll { scope := .check } arguments).map (checkRequest verbose)
    else if argument = "rules" then
      (Progress.takeAll { scope := .rules } arguments).map (rulesRequest verbose)
    else if argument = "help" then .error (helpOn arguments)
    else match argument with
      | '-' :: _ :: _ => do
        let progress ← progress.take argument
        parseFrom progress arguments
      | _ => .error .unknownCommand

def parse (arguments : List Text) : Except UsageError Request :=
  parseFrom { scope := .top } arguments

end CommandLine

end QueryLint
