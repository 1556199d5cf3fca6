import QueryLint.Rejection.Complaint
import QueryLint.Vocabulary

/-!
What the author of a rejected statement can do about it. The rules are tried in order and the
first that applies gives the one suggestion; the last applies always.
-/

namespace QueryLint.Remedy

open Text

def missingFrom (rejection : Rejection) (_ : Text) : Option Text :=
  if Complaint.isMissingFrom rejection.message then
    some "Add a FROM clause naming the table, e.g. 'FROM table_name'".toList
  else none

def misspelledKeyword (_ : Rejection) (text : Text) : Option Text :=
  (Misspelling.find? text).map fun found =>
    "'" ++ found.word ++ "' may be a misspelling of '" ++ found.keyword ++ "'"

def parentheses (count : Nat) : Text := if count = 1 then "parenthesis" else "parentheses"

/-- Counts the parentheses that are missing or too many, if the message is about them. -/
def unbalancedParentheses (rejection : Rejection) (text : Text) : Option Text :=
  let opened := text.count '('
  let closed := text.count ')'
  if !Complaint.mentionsBrackets rejection.message || opened = closed then none
  else if closed < opened then
    some ("SQL statement is missing " ++ ofNat (opened - closed) ++ " closing "
      ++ parentheses (opened - closed) ++ " ')'")
  else
    some ("SQL statement has " ++ ofNat (closed - opened) ++ " extra closing "
      ++ parentheses (closed - opened) ++ " ')'")

def expectedKeyword (rejection : Rejection) (_ : Text) : Option Text :=
  (Complaint.expected rejection.message).map fun expected =>
    "Keyword '" ++ expected ++ "' is required at this position"

def unknownColumn (rejection : Rejection) (_ : Text) : Option Text :=
  (Complaint.noSuchColumn rejection.message).map fun column =>
    "Check that column '" ++ column ++ "' is spelled correctly or needs a table qualifier"

def unknownTable (rejection : Rejection) (_ : Text) : Option Text :=
  (Complaint.noSuchTable rejection.message).map fun table =>
    "Check that table '" ++ table ++ "' is spelled correctly or exists in the schema"

def generic (_ : Rejection) (_ : Text) : Option Text :=
  some "Check SQL syntax: verify keyword spelling and clause completeness".toList

def rules : List (Rejection → Text → Option Text) :=
  [missingFrom, misspelledKeyword, unbalancedParentheses, expectedKeyword, unknownColumn,
    unknownTable, generic]

end QueryLint.Remedy

namespace QueryLint

def Rejection.remedy? (rejection : Rejection) (text : Text) : Option Text :=
  Remedy.rules.findSome? fun rule => rule rejection text

end QueryLint
