import QueryLint.Check.Checker
import QueryLint.Tool.CommandLine
import QueryLint.Tool.Configuration

/-!
The program: what it prints and how it ends, given its arguments, what it finds around it, and the
grammar of every dialect.
-/

namespace QueryLint

structure CommandResult where
  exitCode : Nat
  output : Text
  deriving DecidableEq, Repr

namespace CheckOptions

def override (options : CheckOptions) (settings : Settings) : Settings where
  dialect := options.dialect.getD settings.dialect
  suggestFixes := settings.suggestFixes && !options.noSuggest
  wording := if options.rawErrors then .raw else settings.wording
  disabled := settings.disabled ++ options.disable

def checker (options : CheckOptions) (configuration : Configuration) (grammar : Dialect → Grammar) :
    Except ToolError Checker :=
  match configuration.settings with
  | .error error => .error (.ofSetting error)
  | .ok settings =>
    let settings := options.override settings
    match Checker.ofSettings settings (grammar settings.dialect) with
    | .error error => .error (.ofSetting error)
    | .ok checker => .ok checker

def inputName (options : CheckOptions) : Text :=
  if options.input = ['-'] then "stdin" else options.input

/-- Checks a script, which was read as the options say. Colours need a terminal. -/
def run (options : CheckOptions) (configuration : Configuration) (grammar : Dialect → Grammar)
    (script : Except ReadError Text) (terminal : Bool) : Except ToolError CommandResult := do
  let checker ← options.checker configuration grammar
  match script with
  | .error error => .error (.unreadable options.inputName error.message)
  | .ok script =>
    let report := checker.checkScript script
    .ok ⟨report.exitCode, report.render options.format (!options.noColour && terminal)⟩

end CheckOptions

def runRules (format : Format) (terminal : Bool) : CommandResult :=
  ⟨0, Rule.renderList format terminal Rule.all⟩

namespace Program

def versionLine : Text := "sql-checker 0.1.0"

def helpText : Text :=
  "Find syntax errors and common mistakes in SQL statements\n\n"
    ++ "Usage: sql-checker [-v] check [INPUT] [--dialect DIALECT] [-f FORMAT] [--no-suggest]\n"
    ++ "                   [--raw-errors] [--disable RULE_ID]... [--no-color]\n"
    ++ "       sql-checker [-v] rules [-f FORMAT]"

/-- What the program finds around it: the sources of its configuration, what an input path leads
to, and whether it writes to a terminal. -/
structure Surroundings where
  sources : Configuration.Sources
  read : Text → Except ReadError Text
  terminal : Bool

inductive Failure
  | usage (error : UsageError)
  | tool (error : ToolError)
  deriving DecidableEq, Repr

def Failure.line : Failure → Text
  | usage error => "error: " ++ error.message
  | tool error => "Error: " ++ error.summary

/-- How a run of the program ends: its exit code, what it writes, and the failure that it
reports. -/
structure Ending where
  exitCode : Nat
  output : Text
  failure : Option Failure
  deriving DecidableEq, Repr

def answer (grammar : Dialect → Grammar) (surroundings : Surroundings) :
    Request → Except ToolError CommandResult
  | .check _ options => do
    let configuration ← Configuration.load surroundings.sources
    options.run configuration grammar (surroundings.read options.input) surroundings.terminal
  | .rules _ format => .ok (runRules format surroundings.terminal)

def run (grammar : Dialect → Grammar) (arguments : List Text) (surroundings : Surroundings) :
    Ending :=
  match CommandLine.parse arguments with
  | .error .versionWanted => ⟨0, versionLine ++ ['\n'], none⟩
  | .error .helpWanted => ⟨0, helpText ++ ['\n'], none⟩
  | .error error => ⟨error.exitCode, [], some (.usage error)⟩
  | .ok request =>
    match answer grammar surroundings request with
    | .ok result => ⟨result.exitCode, result.output ++ ['\n'], none⟩
    | .error error => ⟨2, [], some (.tool error)⟩

end Program

end QueryLint
