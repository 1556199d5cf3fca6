import QueryLint.SmallParser.Token

/-!
Parsers over the tokens of a text, and the records of parsers for the levels of nesting. A parser
for nested expressions, queries and tables is built from the parsers of the level inside it.
-/

namespace QueryLint.SmallParser

abbrev TokenParser (α : Type) := StateT (List Lexeme) (Except SyntaxError) α

namespace TokenParser

def peek : TokenParser (Option Token) := do
  pure ((← get).head?.map (·.token))

def peekSecond : TokenParser (Option Token) := do
  pure ((← get)[1]?.map (·.token))

def advance : TokenParser Unit := modify List.tail

def expected (what : Text) : TokenParser α := do
  throw (.expected what (← get).head?)

def atKeyword (keyword : Text) : TokenParser Bool := do
  pure ((← peek).any (·.isKeyword keyword))

def atOneOf (keywords : List Text) : TokenParser Bool := do
  pure ((← peek).any (·.isOneOf keywords))

def atSymbol (symbol : Text) : TokenParser Bool := do
  pure ((← peek) = some (.symbol symbol))

def accept (keyword : Text) : TokenParser Bool := do
  if ← atKeyword keyword then
    advance
    pure true
  else pure false

def acceptAll (keywords : List Text) : TokenParser Bool := do
  let tokens ← get
  let front := (tokens.take keywords.length).map (·.token)
  if front.length = keywords.length
      && (front.zip keywords).all fun pair => pair.1.isKeyword pair.2 then
    set (tokens.drop keywords.length)
    pure true
  else pure false

def acceptOneOf (keywords : List Text) : TokenParser (Option Text) := do
  let front ← peek
  match keywords.find? fun keyword => front.any (·.isKeyword keyword) with
  | some keyword =>
    advance
    pure (some keyword)
  | none => pure none

def acceptSymbol (symbol : Text) : TokenParser Bool := do
  if ← atSymbol symbol then
    advance
    pure true
  else pure false

def expectKeyword (keyword : Text) : TokenParser Unit := do
  unless ← accept keyword do expected keyword

def expectSymbol (symbol : Text) : TokenParser Unit := do
  unless ← acceptSymbol symbol do expected symbol

/-- Tries a parser. Where it fails nothing is taken, except that a text nested too deeply fails
altogether. -/
def attempt (parser : TokenParser α) : TokenParser (Option α) := fun tokens =>
  match parser tokens with
  | .ok (value, rest) => .ok (some value, rest)
  | .error .tooDeep => .error .tooDeep
  | .error _ => .ok (none, tokens)

/-- Repeats a parser while it gives a new value; `steps` bounds the repetitions. -/
def iterate (step : α → TokenParser (Option α)) (value : α) : Nat → TokenParser α
  | 0 => pure value
  | steps + 1 => do
    match ← step value with
    | some next => iterate step next steps
    | none => pure value

def repeatFrom (value : α) (step : α → TokenParser (Option α)) : TokenParser α := do
  iterate step value ((← get).length + 1)

def commaSeparated (item : TokenParser α) : TokenParser (List α) := do
  let first ← item
  let items ← repeatFrom [first] fun items => do
    if ← acceptSymbol "," then
      let next ← item
      pure (some (next :: items))
    else pure none
  pure items.reverse

def parenthesized (inner : TokenParser α) : TokenParser α := do
  expectSymbol "("
  let value ← inner
  expectSymbol ")"
  pure value

def nameOf? : Token → Option Text
  | .word text _ => some text
  | .string [] text => some text
  | _ => none

def name : TokenParser Text := do
  match (← peek).bind nameOf? with
  | some name =>
    advance
    pure name
  | none => expected "identifier"

def qualifiedName : TokenParser (List Text) := do
  let first ← name
  let names ← repeatFrom [first] fun names => do
    if ← acceptSymbol "." then
      let next ← name
      pure (some (next :: names))
    else pure none
  pure names.reverse

def optionalNames : TokenParser (List Text) := do
  if ← atSymbol "(" then parenthesized (commaSeparated name) else pure []

def requiredNames : TokenParser (List Text) := do
  if ← atSymbol "(" then parenthesized (commaSeparated name)
  else expected "a list of columns in parentheses"

/-- An alias without AS is a word outside `reserved`, or a text; after AS it is any word or
text. -/
def aliasOutside (reserved : List Text) : TokenParser (Option Text) := do
  let explicit ← accept "AS"
  match ← peek with
  | some (.word text quote) =>
    if explicit || !(Token.word text quote).isOneOf reserved then
      advance
      pure (some text)
    else pure none
  | some (.string [] text) =>
    advance
    pure (some text)
  | _ => if explicit then expected "an identifier after AS" else pure none

end TokenParser

inductive Node
  /-- A name, an operator, or what makes an expression or a statement. -/
  | word (text : Text)
  | call
  | table
  | joinedTables
  deriving DecidableEq, Repr

abbrev Expr := Sql.Expr Node
abbrev SelectItem := Sql.SelectItem Node
abbrev QueryBody := Sql.QueryBody Node
abbrev Command := Sql.Command Node

structure Level where
  /-- An expression whose operators bind tighter than the given strength. -/
  expr : Nat → TokenParser Expr
  query : TokenParser QueryBody
  /-- A table with the tables joined to it. -/
  source : TokenParser Node

namespace Level

/-- The level at which every text is nested too deeply. -/
def bottom : Level := ⟨fun _ => throw .tooDeep, throw .tooDeep, throw .tooDeep⟩

def wholeExpr (level : Level) : TokenParser Expr := level.expr 0

def exprs (level : Level) : TokenParser (List Expr) := TokenParser.commaSeparated level.wholeExpr

end Level

end QueryLint.SmallParser
