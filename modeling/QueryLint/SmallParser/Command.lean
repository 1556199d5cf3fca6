import QueryLint.SmallParser.Lexer
import QueryLint.SmallParser.Query

/-!
Parsing statements, and whole texts of statements with semicolons between them.
-/

namespace QueryLint.SmallParser.CommandText

open TokenParser

def conflictAction : TokenParser Unit := do
  if (← atKeyword "OR")
      && (← peekSecond).any (·.isOneOf ["REPLACE", "ROLLBACK", "ABORT", "FAIL", "IGNORE"]) then
    advance
    advance

def assignment (level : Level) : TokenParser Expr := do
  if ← atSymbol "(" then discard <| parenthesized <| commaSeparated qualifiedName
  else discard qualifiedName
  expectSymbol "="
  level.wholeExpr

def returning (level : Level) : TokenParser Unit := do
  if ← accept "RETURNING" then discard <| commaSeparated (QueryText.selectItem level)

def onConflict (level : Level) : TokenParser Unit := do
  if ← accept "ON" then
    expectKeyword "CONFLICT"
    discard optionalNames
    expectKeyword "DO"
    unless ← accept "NOTHING" do
      expectKeyword "UPDATE"
      expectKeyword "SET"
      discard <| commaSeparated (assignment level)
      QueryText.exprAfter level "WHERE"

def insert (level : Level) : TokenParser Command := do
  conflictAction
  discard <| accept "INTO"
  discard <| accept "TABLE"
  discard qualifiedName
  unless ← acceptAll ["DEFAULT", "VALUES"] do
    unless (← atSymbol "(") && (← peekSecond).any (·.isKeyword "SELECT") do
      discard optionalNames
    discard level.query
  onConflict level
  returning level
  pure (.other (.word "INSERT"))

def update (level : Level) : TokenParser Command := do
  conflictAction
  discard level.source
  expectKeyword "SET"
  discard <| commaSeparated (assignment level)
  if ← accept "FROM" then discard <| commaSeparated level.source
  QueryText.exprAfter level "WHERE"
  returning level
  QueryText.exprAfter level "LIMIT"
  pure (.other (.word "UPDATE"))

def delete (level : Level) : TokenParser Command := do
  unless ← accept "FROM" do
    discard <| commaSeparated qualifiedName
    expectKeyword "FROM"
  discard <| commaSeparated level.source
  if ← accept "USING" then discard <| commaSeparated level.source
  QueryText.exprAfter level "WHERE"
  returning level
  discard <| Expression.ordering level
  QueryText.limits level
  pure (.other (.word "DELETE"))

def referentialAction : TokenParser (Option Unit) := do
  if ← accept "ON" then
    unless (← acceptOneOf ["DELETE", "UPDATE"]).isSome do expected "one of DELETE or UPDATE"
    let known ← do
      if (← acceptOneOf ["RESTRICT", "CASCADE"]).isSome then pure true
      else if ← acceptAll ["SET", "NULL"] then pure true
      else if ← acceptAll ["SET", "DEFAULT"] then pure true
      else acceptAll ["NO", "ACTION"]
    if known then pure (some ())
    else expected "one of RESTRICT, CASCADE, SET NULL, NO ACTION or SET DEFAULT"
  else pure none

def reference : TokenParser Unit := do
  discard qualifiedName
  discard optionalNames
  repeatFrom () fun _ => referentialAction

def columnOption (level : Level) : TokenParser Bool := do
  if ← acceptAll ["NOT", "NULL"] then pure true
  else if ← accept "NULL" then pure true
  else if ← acceptAll ["PRIMARY", "KEY"] then
    discard <| acceptOneOf ["ASC", "DESC"]
    discard <| accept "AUTOINCREMENT"
    pure true
  else if ← accept "UNIQUE" then
    discard <| accept "KEY"
    pure true
  else if ← accept "DEFAULT" then
    discard <| level.expr 17
    pure true
  else if ← accept "REFERENCES" then
    reference
    pure true
  else if ← accept "CHECK" then
    discard <| parenthesized level.wholeExpr
    pure true
  else if ← accept "COLLATE" then
    discard name
    pure true
  else if ← accept "AUTOINCREMENT" then pure true
  else pure false

def columnDefinition (level : Level) : TokenParser Unit := do
  discard name
  match ← peek with
  | some (.word text quote) =>
    unless (Token.word text quote).isOneOf ["CONSTRAINT", "PRIMARY", "NOT", "UNIQUE", "CHECK",
        "DEFAULT", "COLLATE", "REFERENCES", "GENERATED", "AS"] do
      discard Expression.typeName
  | _ => pure ()
  repeatFrom () fun _ => do
    if ← accept "CONSTRAINT" then
      discard name
      if ← columnOption level then pure (some ())
      else expected "constraint details after CONSTRAINT <name>"
    else if ← columnOption level then pure (some ())
    else pure none

def tableConstraint (level : Level) : TokenParser Bool := do
  let named ← accept "CONSTRAINT"
  if named then discard name
  if ← acceptAll ["PRIMARY", "KEY"] then
    discard requiredNames
    pure true
  else if ← acceptAll ["FOREIGN", "KEY"] then
    discard requiredNames
    expectKeyword "REFERENCES"
    reference
    pure true
  else if ← accept "UNIQUE" then
    discard <| accept "KEY"
    discard requiredNames
    pure true
  else if ← accept "CHECK" then
    discard <| parenthesized level.wholeExpr
    pure true
  else if named then expected "PRIMARY, UNIQUE, FOREIGN, or CHECK"
  else pure false

/-- The columns and constraints of a table up to the closing parenthesis. -/
def tableElements (level : Level) : TokenParser Unit := do
  repeatFrom () fun _ => do
    unless ← tableConstraint level do
      match ← peek with
      | some (.word _ _) => columnDefinition level
      | _ => expected "column name or constraint definition"
    if ← acceptSymbol "," then pure (some ())
    else if ← atSymbol ")" then pure none
    else expected "',' or ')' after column definition"
  expectSymbol ")"

def create (level : Level) : TokenParser Command := do
  discard <| acceptAll ["OR", "REPLACE"]
  discard <| acceptOneOf ["TEMPORARY", "TEMP"]
  if ← accept "TABLE" then
    discard <| acceptAll ["IF", "NOT", "EXISTS"]
    discard qualifiedName
    if ← acceptSymbol "(" then
      unless ← acceptSymbol ")" do tableElements level
    discard <| acceptAll ["WITHOUT", "ROWID"]
    discard <| accept "STRICT"
    if ← accept "AS" then discard level.query
    pure (.other (.word "CREATE"))
  else expected "an object type after CREATE"

def drop : TokenParser Command := do
  unless (← acceptOneOf ["TABLE", "VIEW", "INDEX", "SCHEMA", "DATABASE", "SEQUENCE", "ROLE",
      "TYPE"]).isSome do
    expected ("CONNECTOR, DATABASE, EXTENSION, FUNCTION, INDEX, OPERATOR, POLICY, PROCEDURE, "
      ++ "ROLE, SCHEMA, SECRET, SEQUENCE, STAGE, TABLE, TRIGGER, TYPE, VIEW, "
      ++ "MATERIALIZED VIEW or USER after DROP")
  discard <| acceptAll ["IF", "EXISTS"]
  discard <| commaSeparated qualifiedName
  discard <| acceptOneOf ["CASCADE", "RESTRICT"]
  discard <| accept "PURGE"
  pure (.other (.word "DROP"))

def command (level : Level) : TokenParser Command := do
  if (← atOneOf ["SELECT", "WITH", "VALUES", "FROM"]) || (← atSymbol "(") then
    .query <$> level.query
  else if (← acceptOneOf ["INSERT", "REPLACE"]).isSome then insert level
  else if ← accept "UPDATE" then update level
  else if ← accept "DELETE" then delete level
  else if ← accept "CREATE" then create level
  else if ← accept "DROP" then drop
  else expected "an SQL statement"

/-- Statements with semicolons between them, up to the end of the text. The word END after a
statement ends them as well. -/
def commands (level : Level) : TokenParser (List Command) := do
  let (_, commands) ← repeatFrom (false, []) fun (delimiterDue, commands) => do
    if ← acceptSymbol ";" then pure (some (false, commands))
    else if (← get).isEmpty then pure none
    else if delimiterDue then
      if ← atKeyword "END" then pure none else expected "end of statement"
    else
      let next ← command level
      pure (some (true, next :: commands))
  pure commands.reverse

/-- The number of nested statements, queries and expressions that are parsed. -/
def maxDepth : Nat := 50

end QueryLint.SmallParser.CommandText

namespace QueryLint.SmallParser

/-- The statements of a text. A statement takes one level of the depth itself. -/
def parse (text : Text) : Except Sql.ParserError (List Command) :=
  match lexemes text with
  | .error error => .error error.toParserError
  | .ok tokens =>
    match (CommandText.commands (Level.ofDepth (CommandText.maxDepth - 1))).run tokens with
    | .error error => .error error.toParserError
    | .ok (commands, _) => .ok commands

end QueryLint.SmallParser
