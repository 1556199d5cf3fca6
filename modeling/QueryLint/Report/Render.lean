import QueryLint.Report.Basic
import QueryLint.Report.Yaml

/-!
Reports and rule lists as text for people, as JSON and as YAML. Only the text for people can have
colours.
-/

namespace QueryLint

open Text

inductive Format
  | text
  | json
  | yaml
  deriving DecidableEq, Repr

namespace Format

def all : List Format := [text, json, yaml]

def name : Format → Text
  | text => "text"
  | json => "json"
  | yaml => "yaml"

end Format

inductive Colour
  | cyanBold
  | redBold
  | yellowBold
  | green
  | red
  deriving DecidableEq, Repr

def Colour.code : Colour → Text
  | cyanBold => "1;36"
  | redBold => "1;31"
  | yellowBold => "1;33"
  | green => "32"
  | red => "31"

/-- A text between the terminal sequences that switch a colour on and off, if colours are wanted. -/
def Colour.paint (colour : Colour) (coloured : Bool) (text : Text) : Text :=
  if coloured then "\x1b[" ++ colour.code ++ "m" ++ text ++ "\x1b[0m" else text

namespace Report

/-- Every line of a text with an indent before it and a newline after it. -/
def indented (indent : Nat) (text : Text) : Text :=
  (lines text).flatMap fun line => Document.pad indent ++ line ++ ['\n']

/-- A message after a bullet, its further lines under the first. -/
def bullet (message : Text) : Text :=
  match lines message with
  | [] => []
  | first :: more =>
    "    - " ++ first ++ '\n' :: more.flatMap fun line => "      " ++ line ++ ['\n']

def bullets (colour : Colour) (coloured : Bool) (label : Text) (messages : List Text) : Text :=
  "  " ++ colour.paint coloured label ++ '\n' :: messages.flatMap bullet

def renderResult (coloured : Bool) (result : CheckResult) : Text :=
  if result.isValid then "  " ++ Colour.green.paint coloured "OK" ++ "\n"
  else bullets .redBold coloured "Errors:" result.errors
    ++ (if result.suggestions.isEmpty then []
      else bullets .yellowBold coloured "Suggestions:" result.suggestions)

def renderStatement (coloured : Bool) (statement : StatementReport) : Text :=
  let header := "Statement #" ++ ofNat statement.index ++ " (line " ++ ofNat statement.line ++ "):"
  Colour.cyanBold.paint coloured header ++ '\n' :: indented 2 statement.sql
    ++ renderResult coloured statement.result ++ "\n"

def summary (report : Report) : Text :=
  "Checked " ++ ofNat report.statements.length ++ " statement(s): " ++ ofNat report.invalidCount
    ++ " invalid"

def renderText (coloured : Bool) (report : Report) : Text :=
  let colour := if report.allValid then Colour.green else Colour.red
  report.statements.flatMap (renderStatement coloured) ++ colour.paint coloured report.summary

def render (format : Format) (coloured : Bool) (report : Report) : Text :=
  match format with
  | .text => report.renderText coloured
  | .json => report.document.json 0
  | .yaml => report.document.yaml 0

end Report

namespace Rule

def renderText (coloured : Bool) (rule : Rule) : Text :=
  Colour.cyanBold.paint coloured rule.id ++ "  " ++ rule.name ++ "\n    " ++ rule.description ++ "\n"

def renderList (format : Format) (coloured : Bool) (rules : List Rule) : Text :=
  match format with
  | .text => rules.flatMap (renderText coloured)
  | .json => (Document.list (rules.map Rule.document)).json 0
  | .yaml => (Document.list (rules.map Rule.document)).yaml 0

end Rule

end QueryLint
