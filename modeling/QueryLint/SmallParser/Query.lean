import QueryLint.SmallParser.Expression

/-!
Parsing queries and the tables they read.
-/

namespace QueryLint.SmallParser.QueryText

open TokenParser

/-- The words that are no alias of a selected item without AS. -/
def reservedAfterItem : List Text :=
  List.map String.toList ["WITH", "EXPLAIN", "ANALYZE", "SELECT", "WHERE", "GROUP", "SORT",
    "HAVING", "ORDER", "TOP", "LATERAL", "VIEW", "LIMIT", "OFFSET", "FETCH", "UNION", "EXCEPT",
    "EXCLUDE", "INTERSECT", "MINUS", "CLUSTER", "DISTRIBUTE", "RETURNING", "VALUES", "FROM", "INTO",
    "END"]

def reservedAfterTable : List Text :=
  List.map String.toList ["WITH", "EXPLAIN", "ANALYZE", "SELECT", "WHERE", "GROUP", "SORT",
    "HAVING", "ORDER", "PIVOT", "UNPIVOT", "TOP", "LATERAL", "VIEW", "LIMIT", "OFFSET", "FETCH",
    "UNION", "EXCEPT", "INTERSECT", "MINUS", "ON", "JOIN", "INNER", "CROSS", "FULL", "LEFT",
    "RIGHT", "NATURAL", "USING", "CLUSTER", "DISTRIBUTE", "GLOBAL", "ANTI", "SEMI", "RETURNING",
    "OUTPUT", "ASOF", "MATCH_CONDITION", "OUTER", "SET", "QUALIFY", "WINDOW", "END", "FOR",
    "PARTITION", "PREWHERE", "SETTINGS", "FORMAT", "START", "CONNECT", "MATCH_RECOGNIZE", "SAMPLE",
    "TABLESAMPLE", "FROM", "OPEN"]

def tableAlias : TokenParser Unit := do
  if (← aliasOutside reservedAfterTable).isSome then
    if ← atSymbol "(" then
      discard <| parenthesized <| commaSeparated do
        discard name
        match ← peek with
        | some (.word _ _) => discard Expression.typeName
        | _ => pure ()

/-! ## Tables -/

def derivedTable (level : Level) : TokenParser Node := do
  discard <| parenthesized level.query
  tableAlias
  pure .table

/-- Joined tables in parentheses. A table alone cannot stand there. -/
def nestedJoin (level : Level) : TokenParser Node := do
  expectSymbol "("
  match ← level.source with
  | .joinedTables =>
    expectSymbol ")"
    tableAlias
    pure .joinedTables
  | _ => expected "joined table"

def namedTable (level : Level) : TokenParser Node := do
  discard qualifiedName
  if ← acceptSymbol "(" then
    unless ← acceptSymbol ")" do
      discard <| commaSeparated (Expression.exprOrStar level)
      expectSymbol ")"
  tableAlias
  if (← atKeyword "WITH") && (← peekSecond) = some (.symbol ['(']) then
    advance
    discard <| parenthesized level.exprs
  pure .table

/-- A single table, or anything in parentheses that can stand for one. -/
def tableFactor (level : Level) : TokenParser Node := do
  discard <| accept "LATERAL"
  if ← atSymbol "(" then
    match ← attempt (derivedTable level) with
    | some source => pure source
    | none => nestedJoin level
  else namedTable level

/-- The kinds of join: whether one is in front, and whether it is NATURAL or CROSS and so has no
condition. -/
inductive JoinKind
  | conditional
  | unconditional

def joinWords : TokenParser (Option JoinKind) := do
  discard <| accept "GLOBAL"
  if ← accept "CROSS" then
    if (← acceptOneOf ["JOIN", "APPLY"]).isSome then pure (some .unconditional)
    else expected "JOIN or APPLY after CROSS"
  else if ← accept "OUTER" then
    expectKeyword "APPLY"
    pure (some .unconditional)
  else if ← accept "ASOF" then
    expectKeyword "JOIN"
    pure (some .conditional)
  else
    let natural ← accept "NATURAL"
    let kind := if natural then JoinKind.unconditional else .conditional
    if ← atOneOf ["INNER", "JOIN"] then
      discard <| accept "INNER"
      expectKeyword "JOIN"
      pure (some kind)
    else if let some side ← acceptOneOf ["LEFT", "RIGHT"] then
      match ← acceptOneOf ["OUTER", "SEMI", "ANTI", "JOIN"] with
      | some word =>
        unless word = "JOIN" do expectKeyword "JOIN"
        pure (some kind)
      | none => throw (.missingJoinKind side)
    else if (← acceptOneOf ["ANTI", "SEMI"]).isSome then
      expectKeyword "JOIN"
      pure (some kind)
    else if ← accept "FULL" then
      discard <| accept "OUTER"
      expectKeyword "JOIN"
      pure (some kind)
    else if ← atKeyword "OUTER" then expected "LEFT, RIGHT, or FULL"
    else if natural then expected "a join type after NATURAL"
    else pure none

def joinCondition (level : Level) : TokenParser Unit := do
  if ← accept "ON" then discard level.wholeExpr
  else if ← accept "USING" then discard requiredNames

def source (level : Level) : TokenParser Node := do
  let first ← tableFactor level
  repeatFrom first fun _ => do
    match ← joinWords with
    | none => pure none
    | some kind =>
      discard <| tableFactor level
      match kind with
      | .conditional => joinCondition level
      | .unconditional => pure ()
      pure (some .joinedTables)

/-! ## Queries -/

/-- An item of a SELECT list. The word FROM is none. -/
def selectItem (level : Level) : TokenParser SelectItem := do
  let front ← peek
  match ← Expression.exprOrStar level with
  | none => pure (.other (.word "*"))
  | some expr =>
    match front, expr with
    | some (.word text none), .identifier _ =>
      if Text.upper text = "FROM" then throw (.missingItem text (← get).head?)
    | _, _ => pure ()
    match ← aliasOutside reservedAfterItem with
    | some label => pure (.named expr (.word label))
    | none => pure (.unnamed expr)

def selectWords (level : Level) : TokenParser Unit := do
  let start := (← get).head?
  let all ← accept "ALL"
  let distinct ← accept "DISTINCT"
  if all && distinct then throw (.conflictingQuantifiers start)
  if distinct then
    if ← accept "ON" then
      discard <| parenthesized do
        unless ← atSymbol ")" do discard level.exprs
  if ← accept "TOP" then
    if ← atSymbol "(" then discard <| parenthesized level.wholeExpr
    else match ← peek with
      | some (.number _) => advance
      | _ => expected "literal int"
    discard <| accept "PERCENT"
    discard <| acceptAll ["WITH", "TIES"]

def exprAfter (level : Level) (keyword : Text) : TokenParser Unit := do
  if ← accept keyword then discard level.wholeExpr

/-- A SELECT, whose keyword is in front. -/
def select (level : Level) : TokenParser QueryBody := do
  expectKeyword "SELECT"
  selectWords level
  let items ← commaSeparated (selectItem level)
  if ← accept "INTO" then
    discard <| acceptOneOf ["TEMPORARY", "TEMP"]
    discard <| accept "TABLE"
    discard qualifiedName
  let sources ← if ← accept "FROM" then commaSeparated level.source else pure []
  exprAfter level "WHERE"
  if ← acceptAll ["GROUP", "BY"] then
    unless ← accept "ALL" do discard level.exprs
  exprAfter level "HAVING"
  if ← accept "WINDOW" then
    discard <| commaSeparated do
      discard name
      expectKeyword "AS"
      if ← acceptSymbol "(" then discard <| Expression.window level else discard name
  exprAfter level "QUALIFY"
  pure (.select items sources)

def rows (level : Level) : TokenParser QueryBody := do
  discard <| commaSeparated do
    discard <| accept "ROW"
    parenthesized level.exprs
  pure (.other (.word "VALUES"))

def bodyPart (level : Level) : TokenParser QueryBody := do
  if ← atKeyword "SELECT" then select level
  else if ← acceptSymbol "(" then
    let query ← level.query
    expectSymbol ")"
    pure (.nested query)
  else if ← accept "VALUES" then rows level
  else expected "SELECT, VALUES, or a subquery in the query body"

def setQuantifier : TokenParser Unit := do
  discard <| acceptOneOf ["ALL", "DISTINCT"]
  discard <| acceptAll ["BY", "NAME"]

def intersections (level : Level) : TokenParser QueryBody := do
  let first ← bodyPart level
  repeatFrom first fun left => do
    if ← accept "INTERSECT" then
      setQuantifier
      let right ← bodyPart level
      pure (some (.combine (.word "INTERSECT") left right))
    else pure none

/-- A query body: intersections with weaker set operators between them. -/
def body (level : Level) : TokenParser QueryBody := do
  let first ← intersections level
  repeatFrom first fun left => do
    match ← acceptOneOf ["UNION", "EXCEPT", "MINUS"] with
    | some operator =>
      setQuantifier
      let right ← intersections level
      pure (some (.combine (.word operator) left right))
    | none => pure none

def commonTable (level : Level) : TokenParser Unit := do
  discard name
  unless ← accept "AS" do
    discard optionalNames
    expectKeyword "AS"
  discard <| parenthesized level.query
  if ← accept "FROM" then discard name

def offset (level : Level) : TokenParser Bool := do
  if ← accept "OFFSET" then
    discard level.wholeExpr
    discard <| acceptOneOf ["ROWS", "ROW"]
    pure true
  else pure false

def limits (level : Level) : TokenParser Unit := do
  let early ← offset level
  if ← accept "LIMIT" then
    unless ← accept "ALL" do
      discard level.wholeExpr
      if !early && (← acceptSymbol ",") then discard level.wholeExpr
  unless early do discard <| offset level
  if ← accept "FETCH" then
    unless (← acceptOneOf ["FIRST", "NEXT"]).isSome do expected "one of FIRST or NEXT"
    unless ← atOneOf ["ROW", "ROWS"] do
      discard <| Expression.literal
      discard <| accept "PERCENT"
    unless (← acceptOneOf ["ROW", "ROWS"]).isSome do expected "one of ROW or ROWS"
    unless ← accept "ONLY" do
      unless ← acceptAll ["WITH", "TIES"] do expected "one of ONLY or WITH TIES"

def query (level : Level) : TokenParser QueryBody := do
  if ← accept "WITH" then
    discard <| accept "RECURSIVE"
    discard <| commaSeparated (commonTable level)
  let body ← body level
  discard <| Expression.ordering level
  limits level
  pure body

end QueryLint.SmallParser.QueryText

namespace QueryLint.SmallParser

/-- The parsers of a level whose parts belong to the level inside it. -/
def Level.around (inner : Level) : Level :=
  ⟨Expression.expr inner, QueryText.query inner, QueryText.source inner⟩

def Level.ofDepth : Nat → Level
  | 0 => bottom
  | depth + 1 => (ofDepth depth).around

end QueryLint.SmallParser
