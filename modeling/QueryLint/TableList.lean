import QueryLint.Keyword
import QueryLint.ItemList

/-!
The tables that a FROM clause names: a comma list, or a chain of joins whose conditions are
left out.
-/

namespace QueryLint

def isNameQuote (c : Char) : Bool := c = '"' || c = '`' || c = '[' || c = ']'

/-- The bare name in a reference to a table or column: without its alias, the parentheses around
it, its qualifier and its quotes. -/
def bareName (reference : Text) : Text :=
  let reference := Text.trim reference
  let head := match Text.find? " AS " (reference.map Text.asciiUpperChar) with
    | some position => reference.take position
    | none => (Text.fields reference).headD []
  let head := Text.dropWhileEnd (· = ')') ((Text.trim head).dropWhile (· = '('))
  let name := match Text.findLast? '.' head with
    | some position => head.drop (position + 1)
    | none => head
  Text.dropWhileEnd isNameQuote (name.dropWhile isNameQuote)

namespace TableList

def isJoin (word : Text) : Bool := Text.sameLetters word "JOIN"

def joinModifiers : List Text := ["LEFT", "RIGHT", "INNER", "OUTER", "CROSS", "FULL", "NATURAL"]

/-- Where a join that has begun at `start` begins with its modifiers, given the words before it
from the last to the first. -/
def joinStart (text : Text) (start : Nat) : List Span → Nat
  | [] => start
  | word :: words =>
    if blankBetween text word.stop start
        && joinModifiers.any (Text.sameLetters (word.slice text)) then
      joinStart text word.start words
    else start

/-- The parts of a join chain: from `start` to the first join, and then between the joins.
`before` holds the words already passed, from the last to the first. -/
def joinSegments (text : Text) (start : Nat) (before : List Span) : List Span → List Span
  | [] => [⟨start, text.length⟩]
  | word :: words =>
    if isJoin (word.slice text) then
      ⟨start, joinStart text word.start before⟩ ::
        joinSegments text word.stop (word :: before) words
    else joinSegments text start (word :: before) words

def conditionStart (text : Text) : Nat :=
  let words := wordSpans text
  let starts := [("ON" : Text), "USING"].filterMap fun keyword =>
    (findKeyword? text words keyword).map (·.start)
  starts.min?.getD text.length

def ofCommaList (text : Text) : List Text :=
  ((splitItems text).map bareName).filter fun name => !name.isEmpty

end TableList

open TableList in
/-- The names of the tables in the body of a FROM clause, in order. -/
def tableNames (text : Text) : List Text :=
  let words := wordSpans text
  if words.any fun word => isJoin (word.slice text) then
    (joinSegments text 0 [] words).flatMap fun segment =>
      let part := segment.slice text
      ofCommaList (part.take (conditionStart part))
  else ofCommaList text

end QueryLint
