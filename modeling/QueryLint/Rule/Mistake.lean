import QueryLint.Rule.Selection

/-!
Common mistakes in statements that a grammar accepts. Every rule looks for one pattern in the
clauses of a statement and reports the first place where it finds it.
-/

namespace QueryLint

open Text

/-- The rules, in the order in which they report. -/
inductive Rule
  | commaInWhere
  | implicitJoin
  | ungroupedColumn
  | danglingOrderBy
  deriving DecidableEq, Repr

/-- A mistake that a rule found, with what to do about it. -/
structure Finding where
  rule : Rule
  error : Text
  suggestion : Text
  deriving DecidableEq, Repr

namespace Finding

def commaInWhere : Finding :=
  ⟨.commaInWhere, "comma usage in WHERE clause may be incorrect",
    "conditions in WHERE should be joined with AND or OR, not commas"⟩

def implicitJoin : Finding :=
  ⟨.implicitJoin, "implicit join syntax used",
    "prefer explicit JOIN syntax over comma-separated tables"⟩

def ungroupedColumn (item : Text) : Finding :=
  ⟨.ungroupedColumn, "'" ++ item ++ "' may need to be included in the GROUP BY clause",
    "non-aggregated columns should appear in GROUP BY"⟩

def danglingOrderBy (column : Text) : Finding :=
  ⟨.danglingOrderBy, "'" ++ column ++ "' in ORDER BY may not be in the SELECT list",
    "ensure ORDER BY columns are present in SELECT or use positional index"⟩

end Finding

namespace Rule

def all : List Rule := [commaInWhere, implicitJoin, ungroupedColumn, danglingOrderBy]

/-- The identifier by which settings refer to the rule. -/
def id : Rule → Text
  | commaInWhere => "MISTAKE001"
  | implicitJoin => "MISTAKE002"
  | ungroupedColumn => "MISTAKE003"
  | danglingOrderBy => "MISTAKE004"

def name : Rule → Text
  | commaInWhere => "Comma in WHERE"
  | implicitJoin => "Implicit join"
  | ungroupedColumn => "Ungrouped column"
  | danglingOrderBy => "Dangling ORDER BY"

def description : Rule → Text
  | commaInWhere => "WHERE conditions separated by commas instead of AND/OR"
  | implicitJoin => "Tables listed with commas in FROM instead of explicit JOIN"
  | ungroupedColumn => "Non-aggregated SELECT item that does not appear in GROUP BY"
  | danglingOrderBy => "ORDER BY column that does not appear in the SELECT list"

def checkConditions (reader : ClauseReader) (text : Text) : Option Finding := do
  let body ← reader.clause text .condition
  if hasTopLevelComma body then some .commaInWhere else none

/-- Several tables after FROM without any JOIN in the statement. -/
def checkTables (reader : ClauseReader) (text : Text) : Option Finding := do
  let body ← reader.clause text .source
  if reader.hasKeyword text "JOIN" || (tableNames body).length < 2 then none
  else some .implicitJoin

/-- Whether a selected item must be named after GROUP BY, whose body is given in lower case, and
is not. -/
def isUngrouped (grouping item : Text) : Bool :=
  let name := bareName item
  !Selection.isAggregate item && !Selection.isWildcard item && !Selection.isLiteral item
    && !name.isEmpty && !Text.contains grouping (lower name)

/-- A selected item that is no aggregate, no wildcard and no literal and does not occur after
GROUP BY. -/
def checkGrouping (reader : ClauseReader) (text : Text) : Option Finding := do
  let grouping ← reader.clause text .grouping
  let projection ← reader.projection text
  let item ← (splitItems projection).find? (isUngrouped (lower grouping))
  some (.ungroupedColumn item)

/-- Whether a sort column is no position and neither it nor its bare name occurs in the SELECT
list, given in lower case. -/
def isDangling (selection column : Text) : Bool :=
  let bare := lower (bareName column)
  !column.isEmpty && !column.all Char.isDigit && !Text.contains selection (lower column)
    && (bare.isEmpty || !Text.contains selection bare)

def checkOrdering (reader : ClauseReader) (text : Text) : Option Finding := do
  let ordering ← reader.clause text .ordering
  let projection ← reader.projection text
  if Selection.isWildcard projection then none
  else
    let columns := (splitItems ordering).map Selection.sortColumn
    let column ← columns.find? (isDangling (lower projection))
    some (.danglingOrderBy column)

def check : Rule → ClauseReader → Text → Option Finding
  | commaInWhere => checkConditions
  | implicitJoin => checkTables
  | ungroupedColumn => checkGrouping
  | danglingOrderBy => checkOrdering

def isDisabled (disabled : List Text) (rule : Rule) : Bool := disabled.any (sameLetters rule.id)

def enabled (disabled : List Text) : List Rule := all.filter fun rule => !isDisabled disabled rule

/-- What the rules find in a statement, in their order. -/
def detect (rules : List Rule) (reader : ClauseReader) (text : Text) : List Finding :=
  rules.filterMap fun rule => rule.check reader text

end Rule

end QueryLint
