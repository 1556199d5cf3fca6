import QueryLint.Check.Settings
import QueryLint.Rejection.Remedy
import QueryLint.Rejection.Wording

/-!
Checking one statement. A grammar judges the statement first; a rejection is worded and may come
with a suggestion, and an accepted statement is searched for common mistakes. A blank statement
reaches neither, and a grammar that breaks down is reported as an internal failure.
-/

namespace QueryLint

open Text

inductive Verdict
  | accepted
  | rejected (rejection : Rejection)
  | brokeDown
  deriving DecidableEq, Repr, Inhabited

abbrev Grammar := Text → Verdict

inductive Outcome
  | clean
  | emptyInput
  | syntaxError
  | structuralMistake
  | internalFailure
  deriving DecidableEq, Repr

namespace Outcome

def name : Outcome → Text
  | clean => "clean"
  | emptyInput => "empty input"
  | syntaxError => "syntax error"
  | structuralMistake => "structural mistake"
  | internalFailure => "internal failure"

/-- The outcome as a single word for other programs. -/
def key : Outcome → Text
  | clean => "clean"
  | emptyInput => "empty_input"
  | syntaxError => "syntax_error"
  | structuralMistake => "structural_mistake"
  | internalFailure => "internal_failure"

def all : List Outcome := [clean, emptyInput, syntaxError, structuralMistake, internalFailure]

end Outcome

structure CheckResult where
  isValid : Bool
  outcome : Outcome
  errors : List Text
  suggestions : List Text
  deriving DecidableEq, Repr

namespace CheckResult

def clean : CheckResult := ⟨true, .clean, [], []⟩

/-- The result of a statement with problems. A statement is valid when there is none. -/
def invalid (outcome : Outcome) (errors suggestions : List Text) : CheckResult :=
  ⟨errors.isEmpty, outcome, errors, suggestions⟩

section Invalid

variable (outcome : Outcome) (errors suggestions : List Text)

@[simp] theorem invalid_outcome : (invalid outcome errors suggestions).outcome = outcome := rfl

@[simp] theorem invalid_errors : (invalid outcome errors suggestions).errors = errors := rfl

@[simp] theorem invalid_suggestions :
    (invalid outcome errors suggestions).suggestions = suggestions := rfl

end Invalid

def emptyInput : CheckResult :=
  invalid .emptyInput ["SQL statement is empty"] ["Enter a valid SQL statement"]

def internalFailure : CheckResult :=
  invalid .internalFailure ["internal error while analyzing query"] []

def ofFindings (findings : List Finding) : CheckResult :=
  if findings.isEmpty then clean
  else invalid .structuralMistake (findings.map (·.error)) (findings.map (·.suggestion))

def ofRejection (settings : Settings) (rejection : Rejection) (sql : Text) : CheckResult :=
  let error := match settings.wording with
    | .friendly => rejection.friendlyWording sql
    | .raw => rejection.rawWording
  let suggestions := if settings.suggestFixes then (rejection.remedy? sql).toList else []
  invalid .syntaxError [error] suggestions

end CheckResult

/-- Settings that were found valid, with a grammar to judge statements. -/
structure Checker where
  settings : Settings
  grammar : Grammar

namespace Checker

def ofSettings (settings : Settings) (grammar : Grammar) : Except SettingError Checker :=
  settings.validate.map fun _ => ⟨settings, grammar⟩

def rules (checker : Checker) : List Rule := Rule.enabled checker.settings.disabled

def check (checker : Checker) (sql : Text) : CheckResult :=
  if allBlank sql then .emptyInput
  else match checker.grammar sql with
    | .brokeDown => .internalFailure
    | .rejected rejection => .ofRejection checker.settings rejection sql
    | .accepted => .ofFindings (Rule.detect checker.rules .lexical sql)

end Checker

end QueryLint
