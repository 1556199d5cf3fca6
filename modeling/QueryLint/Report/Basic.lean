import QueryLint.Check.Checker
import QueryLint.Script
import QueryLint.Report.Document

/-!
Reports: the results of checking the statements of a script.
-/

namespace QueryLint

/-- The result of one statement of a script, with its number and the line on which it starts,
both counted from one. -/
structure StatementReport where
  index : Nat
  line : Nat
  sql : Text
  result : CheckResult
  deriving DecidableEq, Repr

structure Report where
  statements : List StatementReport
  deriving DecidableEq, Repr

namespace Report

def invalidCount (report : Report) : Nat :=
  report.statements.countP fun statement => !statement.result.isValid

def allValid (report : Report) : Bool := report.invalidCount = 0

def exitCode (report : Report) : Nat := if report.allValid then 0 else 1

def numbered (checker : Checker) (index : Nat) : List Statement → List StatementReport
  | [] => []
  | statement :: statements =>
    ⟨index, statement.line, statement.sql, checker.check statement.sql⟩ ::
      numbered checker (index + 1) statements

end Report

/-- Checks every statement of a script. A script without any is checked as one empty
statement. -/
def Checker.checkScript (checker : Checker) (script : Text) : Report :=
  match Script.statements script with
  | [] => ⟨[⟨1, 1, [], checker.check []⟩]⟩
  | statements => ⟨Report.numbered checker 1 statements⟩

def Document.ofMessage (message : Text) : Document := .record [("message", .text message)]

def StatementReport.document (statement : StatementReport) : Document :=
  .record [
    ("index", .number statement.index),
    ("line", .number statement.line),
    ("sql", .text statement.sql),
    ("is_valid", .flag statement.result.isValid),
    ("outcome", .text statement.result.outcome.key),
    ("errors", .list (statement.result.errors.map Document.ofMessage)),
    ("suggestions", .list (statement.result.suggestions.map Document.ofMessage))]

def Report.document (report : Report) : Document :=
  .record [("statements", .list (report.statements.map StatementReport.document))]

def Rule.document (rule : Rule) : Document :=
  .record [("id", .text rule.id), ("name", .text rule.name),
    ("description", .text rule.description)]

end QueryLint
