import QueryLint.Keyword

/-!
The clauses of a SELECT statement, found by their keywords alone. A clause runs from its opening
keyword to the earliest keyword that can follow it. Parentheses are not tracked, so the keywords
of a subquery can end a clause of the outer query.
-/

namespace QueryLint

inductive Clause
  | selection
  | source
  | condition
  | grouping
  | ordering
  deriving DecidableEq, Repr

namespace Clause

def opening : Clause → Text
  | selection => "SELECT"
  | source => "FROM"
  | condition => "WHERE"
  | grouping => "GROUP BY"
  | ordering => "ORDER BY"

def boundaries : Clause → List Text
  | selection => ["FROM"]
  | source => ["WHERE", "GROUP BY", "HAVING", "ORDER BY", "LIMIT", "UNION", "INTERSECT", "EXCEPT",
      "WINDOW"]
  | condition => ["GROUP BY", "HAVING", "ORDER BY", "LIMIT", "UNION", "INTERSECT", "EXCEPT"]
  | grouping => ["HAVING", "ORDER BY", "LIMIT", "UNION", "INTERSECT", "EXCEPT"]
  | ordering => ["LIMIT", "OFFSET", "FETCH"]

end Clause

/-- The span from the first occurrence of `opening` to the earliest boundary after it. -/
def clauseSpan? (text opening : Text) (boundaries : List Text) : Option Span :=
  let words := wordSpans text
  (findKeyword? text words opening).map fun found =>
    let later := words.dropWhile (·.start < found.stop)
    let stops := boundaries.filterMap fun boundary =>
      (findKeyword? text later boundary).map (·.start)
    ⟨found.stop, stops.min?.getD text.length⟩

/-- A clause body without the white space and comments around it, then without the semicolons
that end it and the white space before them. -/
def trimClause (body : Text) : Text :=
  Text.trimEnd (Text.dropWhileEnd (· = ';') (trimCode body))

/-- The body of the clause that `opening` opens and the `boundaries` end. -/
def extractClause (text opening : Text) (boundaries : List Text) : Option Text :=
  (clauseSpan? text opening boundaries).map fun span => trimClause (span.slice text)

def dropQuantifier (selection : Text) : Text :=
  let head := selection.takeWhile fun c => !Text.isBlank c
  let rest := selection.dropWhile fun c => !Text.isBlank c
  if !rest.isEmpty && (Text.sameLetters head "DISTINCT" || Text.sameLetters head "ALL") then
    Text.trimStart rest
  else selection

/-- A way of finding clauses and keywords. Where nothing else is said, a clause is what is
extracted between its opening keyword and the earliest of its boundaries, and the statement has a
keyword when something is extracted after it. -/
structure ClauseReader where
  /-- The text between an opening keyword and the earliest of several boundaries, if the statement
  has the opening keyword. -/
  extract : Text → Text → List Text → Option Text
  /-- The body of a clause of the statement. -/
  clause : Text → Clause → Option Text :=
    fun text clause => extract text clause.opening clause.boundaries
  /-- Whether the statement has a keyword. -/
  hasKeyword : Text → Text → Bool := fun text keyword => (extract text keyword []).isSome

namespace ClauseReader

def lexical : ClauseReader := { extract := extractClause }

/-- Finds no clause that one of the given keywords opens, and the others by their keywords. -/
def without (openings : List Text) : ClauseReader where
  extract text opening boundaries :=
    if openings.contains opening then none else extractClause text opening boundaries

/-- The list after SELECT, without the word DISTINCT or ALL at its front. -/
def projection (reader : ClauseReader) (text : Text) : Option Text :=
  (reader.clause text .selection).map dropQuantifier

end ClauseReader

end QueryLint
