import QueryLint.Rejection.Complaint

/-!
How a rejection is told to the author of the statement. The families of messages are tried in
order; a message of no family is shown with the part of the statement around its position.
-/

namespace QueryLint

/-- The number of characters that a snippet shows before the offending one, and at most from it
on. -/
def snippetRadius : Nat := 10

/-- The part of a statement around a position, and below it a caret under the character at the
position. Line breaks and tabs are shown as spaces. -/
def snippet? (text : Text) (position : Nat) : Option Text :=
  if text.length ≤ position then none
  else
    let start := position - snippetRadius
    let stop := min (position + snippetRadius) text.length
    let window := ((Span.mk start stop).slice text).map fun c =>
      if c = '\n' || c = '\r' || c = '\t' then ' ' else c
    some (window ++ '\n' :: (List.replicate (position - start) ' ' ++ ['^']))

namespace Rejection

def rawWording (rejection : Rejection) : Text := "Syntax error: " ++ rejection.message

/-- The message in plain words, if it is of one of the families. -/
def familyWording? (rejection : Rejection) : Option Text :=
  let message := rejection.message
  match Complaint.expectedFound message with
  | some (expected, found) =>
    some ("Syntax error: expected '" ++ expected ++ "' but found '" ++ found ++ "'")
  | none =>
  match Complaint.unexpectedToken message with
  | some token => some ("Syntax error: unexpected token '" ++ token ++ "'")
  | none =>
  if Complaint.isMissingFrom message then
    some "Syntax error: SELECT statement is missing a FROM clause".toList
  else match Complaint.noSuchColumn message with
  | some column => some ("Error: column '" ++ column ++ "' does not exist")
  | none =>
    (Complaint.noSuchTable message).map fun table => "Error: table '" ++ table ++ "' does not exist"

/-- The message in plain words, or the part of the statement that it is about. -/
def friendlyWording (rejection : Rejection) (text : Text) : Text :=
  match rejection.familyWording? with
  | some wording => wording
  | none =>
  match rejection.position.bind (snippet? text) with
  | some snippet => "Syntax error near:\n" ++ snippet
  | none => rejection.rawWording

end Rejection

end QueryLint
