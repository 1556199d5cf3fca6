import QueryLint.SmallParser.Basic

/-!
Parsing expressions by the strength of their operators. The words that begin a special form, such
as CASE, are names where the form does not follow.
-/

namespace QueryLint.SmallParser.Expression

open TokenParser

/-! ## Strengths -/

def notStrength : Nat := 15

def likeStrength : Nat := 19

def betweenStrength : Nat := 20

def sumStrength : Nat := 30

def productStrength : Nat := 40

def dotStrength : Nat := 100

/-- The strength of a symbol between two operands; zero when it is no operator. -/
def symbolStrength (symbol : Text) : Nat :=
  if [("=" : Text), "==", "<>", "<", "<=", ">", ">=", "<=>"].contains symbol then betweenStrength
  else if [("+" : Text), "-"].contains symbol then sumStrength
  else if [("*" : Text), "/", "%", "||"].contains symbol then productStrength
  else if symbol = "&" then 23
  else if [("<<" : Text), ">>", "^"].contains symbol then 22
  else if symbol = "|" then 21
  else if [("->" : Text), "->>"].contains symbol then 16
  else if symbol = "::" then 50
  else 0

def likeWords : List Text := ["LIKE", "ILIKE", "RLIKE", "REGEXP", "MATCH"]

/-- The strength of the operator in front; zero when there is none. -/
def strengthInFront : TokenParser Nat := do
  match ← peek with
  | some (.symbol symbol) => pure (symbolStrength symbol)
  | some token =>
    if token.isKeyword "OR" then pure 5
    else if token.isKeyword "AND" then pure 10
    else if token.isKeyword "XOR" then pure 24
    else if token.isOneOf ["IS", "NOTNULL"] then pure 17
    else if token.isOneOf ["IN", "BETWEEN", "OVERLAPS"] then pure betweenStrength
    else if token.isOneOf likeWords then pure likeStrength
    else if token.isKeyword "NOT" then do
      let next ← peekSecond
      if next.any (·.isOneOf ["IN", "BETWEEN"]) then pure betweenStrength
      else if next.any (·.isOneOf likeWords) then pure likeStrength
      else if next.any (·.isKeyword "NULL") then pure 17
      else pure 0
    else pure 0
  | none => pure 0

/-! ## Operands -/

def typeModifiers : TokenParser Unit := do
  if ← acceptSymbol "(" then
    discard <| repeatFrom () fun _ => do
      match ← peek with
      | some (.symbol [',']) => advance; pure (some ())
      | some (.symbol _) => pure none
      | some _ => advance; pure (some ())
      | none => pure none
    unless ← acceptSymbol ")" do expected "type modifiers"

def typeName : TokenParser Text := do
  match ← peek with
  | some (.word text _) =>
    discard qualifiedName
    discard <| acceptOneOf ["PRECISION", "VARYING"]
    typeModifiers
    for words in [[("WITH" : Text), "TIME", "ZONE"], ["WITHOUT", "TIME", "ZONE"], ["UNSIGNED"]] do
      discard <| acceptAll words
    pure text
  | _ => expected "a data type name"

def literalTypes : List Text :=
  ["DATE", "TIME", "TIMESTAMP", "DATETIME", "TEXT", "CHAR", "VARCHAR", "INT", "INTEGER", "BIGINT",
    "SMALLINT", "TINYINT", "REAL", "FLOAT", "DOUBLE", "NUMERIC", "DECIMAL", "BOOLEAN", "BLOB",
    "JSON", "UUID"]

def literalOf? : Token → Option Text
  | .number digits => some digits
  | .string _ text => some text
  | token => if token.isOneOf ["TRUE", "FALSE", "NULL"] then some token.shown else none

def literal : TokenParser Text := do
  match (← peek).bind literalOf? with
  | some text =>
    advance
    pure text
  | none => expected "a value"

/-- The tokens after a `.*` that stands in front, or after names with dots between them. A dot that
neither a name nor a star follows is an error. -/
def dropStar? : List Lexeme → Except SyntaxError (Option (List Lexeme))
  | ⟨.symbol ['.'], _⟩ :: ⟨token, place⟩ :: rest =>
    if token = .symbol ['*'] then .ok (some rest)
    else match nameOf? token with
      | some _ => dropStar? rest
      | none => .error (.expected "an identifier or a '*' after '.'" (some ⟨token, place⟩))
  | [⟨.symbol ['.'], _⟩] => .error (.expected "an identifier or a '*' after '.'" none)
  | _ => .ok none

/-- An expression, or a wildcard, which is none. -/
def exprOrStar (level : Level) : TokenParser (Option Expr) := do
  let tokens ← get
  match tokens with
  | ⟨.symbol ['*'], _⟩ :: rest =>
    set rest
    pure none
  | ⟨token, _⟩ :: rest =>
    match nameOf? token with
    | some _ =>
      match ← dropStar? rest with
      | some rest =>
        set rest
        pure none
      | none => some <$> level.wholeExpr
    | none => some <$> level.wholeExpr
  | [] => some <$> level.wholeExpr

def sortKey (level : Level) : TokenParser Expr := do
  let key ← level.wholeExpr
  discard <| acceptOneOf ["ASC", "DESC"]
  unless ← acceptAll ["NULLS", "FIRST"] do discard <| acceptAll ["NULLS", "LAST"]
  pure key

def ordering (level : Level) : TokenParser (List Expr) := do
  if ← acceptAll ["ORDER", "BY"] then commaSeparated (sortKey level) else pure []

def frameBound (level : Level) : TokenParser Unit := do
  if ← acceptAll ["CURRENT", "ROW"] then pure ()
  else
    unless ← accept "UNBOUNDED" do discard level.wholeExpr
    unless (← acceptOneOf ["PRECEDING", "FOLLOWING"]).isSome do
      expected "FOLLOWING or PRECEDING"

def window (level : Level) : TokenParser (List Expr) := do
  match ← peek with
  | some (.word text quote) =>
    unless (Token.word text quote).isOneOf ["PARTITION", "ORDER", "ROWS", "RANGE", "GROUPS"] do
      advance
  | _ => pure ()
  let keys ← if ← acceptAll ["PARTITION", "BY"] then level.exprs else pure []
  let order ← ordering level
  if (← acceptOneOf ["ROWS", "RANGE", "GROUPS"]).isSome then
    if ← accept "BETWEEN" then
      frameBound level
      expectKeyword "AND"
    frameBound level
  expectSymbol ")"
  pure (keys ++ order)

def call (level : Level) : TokenParser Expr := do
  expectSymbol "("
  if ← acceptSymbol ")" then finish [] []
  else
    discard <| acceptOneOf ["ALL", "DISTINCT"]
    let arguments ← commaSeparated (exprOrStar level)
    let order ← ordering level
    expectSymbol ")"
    finish arguments.reduceOption order
where
  /-- The parts after the closing parenthesis. -/
  finish (arguments order : List Expr) : TokenParser Expr := do
    let filter ←
      if ← accept "FILTER" then do
        expectSymbol "("
        expectKeyword "WHERE"
        let condition ← level.wholeExpr
        expectSymbol ")"
        pure [condition]
      else pure []
    let keys ←
      if ← accept "OVER" then
        if ← acceptSymbol "(" then window level
        else do
          discard name
          pure []
      else pure []
    pure (.other .call (arguments ++ order ++ filter ++ keys))

def caseForm (level : Level) : TokenParser Expr := do
  let operand ←
    if ← accept "WHEN" then pure none
    else do
      let operand ← level.wholeExpr
      expectKeyword "WHEN"
      pure (some operand)
  let branch : TokenParser (List Expr) := do
    let condition ← level.wholeExpr
    expectKeyword "THEN"
    pure [condition, ← level.wholeExpr]
  let first ← branch
  let branches ← repeatFrom first fun branches => do
    if ← accept "WHEN" then
      let next ← branch
      pure (some (branches ++ next))
    else pure none
  let otherwise ← if ← accept "ELSE" then some <$> level.wholeExpr else pure none
  expectKeyword "END"
  pure (.other (.word "CASE") (operand.toList ++ branches ++ otherwise.toList))

def castForm (level : Level) : TokenParser Expr :=
  parenthesized do
    let operand ← level.wholeExpr
    expectKeyword "AS"
    discard typeName
    pure (.other (.word "CAST") [operand])

def extractForm (level : Level) : TokenParser Expr :=
  parenthesized do
    discard name
    expectKeyword "FROM"
    let operand ← level.wholeExpr
    pure (.other (.word "EXTRACT") [operand])

def existsForm (level : Level) : TokenParser Expr := do
  discard <| parenthesized level.query
  pure (.other (.word "EXISTS") [])

/-- What follows a word that can begin a special form, or nothing if the word cannot. -/
def specialForm? (level : Level) (word : Token) : Option (TokenParser Expr) :=
  if word.isOneOf ["TRUE", "FALSE", "NULL"] then some (pure (.other (.word word.shown) []))
  else if word.isOneOf ["CURRENT_TIMESTAMP", "CURRENT_TIME", "CURRENT_DATE", "LOCALTIME",
      "LOCALTIMESTAMP"] then
    some do
      if ← atSymbol "(" then call level else pure (.other .call [])
  else if word.isKeyword "CASE" then some (caseForm level)
  else if word.isOneOf ["CAST", "TRY_CAST", "SAFE_CAST"] then some (castForm level)
  else if word.isKeyword "EXTRACT" then some (extractForm level)
  else if word.isKeyword "EXISTS" then some (existsForm level)
  else if word.isKeyword "NOT" then
    some do
      if ← accept "EXISTS" then existsForm level
      else pure (.unaryOp (.word "NOT") (← level.expr notStrength))
  else none

def nameOrCall (level : Level) (name : Text) : TokenParser Expr := do
  if ← atSymbol "(" then call level else pure (.identifier (.word name))

/-- An operand that begins with a word: a special form or else a name. When both fail, the
special form tells why. EXISTS is never a name. -/
def wordOperand (level : Level) (word : Token) (name : Text) : TokenParser Expr :=
  match specialForm? level word with
  | none => nameOrCall level name
  | some form => fun tokens =>
    match form tokens with
    | .ok success => .ok success
    | .error error =>
      if word.isKeyword "EXISTS" then .error error
      else match nameOrCall level name tokens with
        | .ok success => .ok success
        | .error _ => .error error

def subquery (level : Level) : TokenParser Expr := do
  discard level.query
  pure (.other (.word "subquery") [])

def parenthesizedOperand (level : Level) : TokenParser Expr := do
  let inner ←
    if ← atOneOf ["SELECT", "WITH"] then subquery level
    else do
      match ← level.exprs with
      | [inner] => pure (.nested inner)
      | items => pure (.other (.word "tuple") items)
  expectSymbol ")"
  pure inner

/-- An operand without the dots and operators after it. -/
def operand (level : Level) : TokenParser Expr := do
  match ← peek with
  | some (.word text quote) =>
    let word := Token.word text quote
    match word.isOneOf literalTypes, (← peekSecond) with
    | true, some (.string _ body) =>
      advance
      advance
      pure (.other (.word body) [])
    | _, _ =>
      advance
      wordOperand level word text
  | some (.number digits) =>
    advance
    pure (.other (.word digits) [])
  | some (.string _ text) =>
    advance
    pure (.other (.word text) [])
  | some (.symbol symbol) =>
    if symbol = "-" || symbol = "+" then
      advance
      pure (.unaryOp (.word symbol) (← level.expr productStrength))
    else if symbol = "~" then
      advance
      pure (.unaryOp (.word symbol) (← level.expr sumStrength))
    else if symbol = "(" then
      advance
      parenthesizedOperand level
    else if symbol = "?" then
      advance
      pure (.other (.word symbol) [])
    else if symbol = ":" || symbol = "@" then
      advance
      match ← peek with
      | some (.word text none) =>
        advance
        pure (.other (.word (symbol ++ text)) [])
      | some (.number digits) =>
        advance
        pure (.other (.word (symbol ++ digits)) [])
      | _ => expected "placeholder"
    else expected "an expression"
  | none => expected "an expression"

def columnNames? : Expr → Option (List Node)
  | .identifier name => some [name]
  | .compoundIdentifier names => some names
  | _ => none

/-- An expression with the parts after its dots: a qualified column, a call of a function with a
qualified name, or a member. The names after its dots are no columns then. -/
def withMembers (root : Expr) (members : List Expr) : Expr :=
  let member : Expr :=
    .other (.word ".") (root :: members.filter fun member => (columnNames? member).isNone)
  if members.isEmpty then root
  else match columnNames? root, members.mapM columnNames? with
    | some names, some more => .compoundIdentifier (names ++ more.flatten)
    | some _, none =>
      match members.getLast?, members.dropLast.mapM columnNames? with
      | some (.other .call parts), some _ => .other .call parts
      | _, _ => member
    | none, _ => member

/-- An operand with the parts after its dots. A star after a dot is left in place. -/
def operandWithMembers (level : Level) : TokenParser Expr := do
  let root ← operand level
  let members ← repeatFrom [] fun members => do
    if (← atSymbol ".") && (← peekSecond) ≠ some (.symbol ['*']) then
      advance
      match ← peek with
      | some (.string [] text) =>
        advance
        pure (some (.identifier (.word text) :: members))
      | _ =>
        let next ← level.expr dotStrength
        pure (some (next :: members))
    else pure none
  let expr := withMembers root members.reverse
  if ← accept "COLLATE" then
    discard name
    pure (.other (.word "COLLATE") [expr])
  else pure expr

/-! ## Operators -/

def isForm (level : Level) (left : Expr) : TokenParser Expr := do
  if ← acceptAll ["DISTINCT", "FROM"] then
    pure (.other (.word "IS DISTINCT FROM") [left, ← level.wholeExpr])
  else if ← acceptAll ["NOT", "DISTINCT", "FROM"] then
    pure (.other (.word "IS NOT DISTINCT FROM") [left, ← level.wholeExpr])
  else
    if (← atKeyword "NOT")
        && (← peekSecond).any (·.isOneOf ["NULL", "TRUE", "FALSE", "UNKNOWN"]) then advance
    match ← acceptOneOf ["NULL", "TRUE", "FALSE", "UNKNOWN"] with
    | some test => pure (.other (.word test) [left])
    | none => expected "[NOT] NULL | TRUE | FALSE | DISTINCT | [form] NORMALIZED FROM after IS"

/-- What follows IN: a query or a list, which may be empty, in parentheses. -/
def inForm (level : Level) (left : Expr) : TokenParser Expr := do
  expectSymbol "("
  match ← attempt level.query with
  | some _ =>
    expectSymbol ")"
    pure (.other (.word "IN") [left])
  | none =>
    let items ← if ← atSymbol ")" then pure [] else level.exprs
    expectSymbol ")"
    pure (.other (.word "IN") (left :: items))

def betweenForm (level : Level) (left : Expr) : TokenParser Expr := do
  let low ← level.expr betweenStrength
  expectKeyword "AND"
  let high ← level.expr betweenStrength
  pure (.other (.word "BETWEEN") [left, low, high])

def likeForm (level : Level) (left : Expr) : TokenParser Expr := do
  discard <| accept "ANY"
  let pattern ← level.expr likeStrength
  if ← accept "ESCAPE" then discard literal
  pure (.other (.word "LIKE") [left, pattern])

/-- The right side of an operator between two operands, which ANY, ALL or SOME can precede. -/
def binaryForm (level : Level) (strength : Nat) (operator : Text) (left : Expr) : TokenParser Expr := do
  match ← acceptOneOf ["ANY", "ALL", "SOME"] with
  | some quantifier =>
    expectSymbol "("
    let right ←
      if ← atOneOf ["SELECT", "WITH"] then subquery level else level.expr strength
    expectSymbol ")"
    pure (.other (.word quantifier) [left, right])
  | none => pure (.binaryOp left (.word operator) (← level.expr strength))

/-- An operator of the given strength and what belongs to it after its left operand. -/
def infixForm (level : Level) (strength : Nat) (left : Expr) : TokenParser Expr := do
  match ← peek with
  | some (.symbol symbol) =>
    advance
    if symbol = "::" then
      discard typeName
      pure (.other (.word "CAST") [left])
    else binaryForm level strength symbol left
  | some token =>
    advance
    if token.isKeyword "IS" then isForm level left
    else if token.isKeyword "NOTNULL" then pure (.other (.word "NULL") [left])
    else
      let negated := token.isKeyword "NOT"
      if negated && (← accept "NULL") then pure (.other (.word "NULL") [left])
      else
        let word ← if negated then peek else pure (some token)
        if negated then advance
        match word with
        | none => expected "IN or BETWEEN after NOT"
        | some word =>
          if word.isKeyword "IN" then inForm level left
          else if word.isKeyword "BETWEEN" then betweenForm level left
          else if word.isOneOf ["LIKE", "ILIKE", "RLIKE"] || negated then likeForm level left
          else binaryForm level strength (Text.upper word.shown) left
  | none => expected "an expression"

/-- An expression whose operators are stronger than `strength`, made of the parts of the level
inside it. -/
def expr (level : Level) (strength : Nat) : TokenParser Expr := do
  let first ← operandWithMembers level
  repeatFrom first fun left => do
    let next ← strengthInFront
    if strength < next then some <$> infixForm level next left else pure none

end QueryLint.SmallParser.Expression
