import QueryLint.Text.Basic

/-!
Syntax trees of SQL as a parser returns them, and the question whether a SELECT without FROM reads
columns. A tree tells apart the cases that the question looks at; `Node` is the type of what it
holds besides.
-/

namespace QueryLint.Sql

inductive Expr (Node : Type)
  | identifier (name : Node)
  | compoundIdentifier (names : List Node)
  | binaryOp (left : Expr Node) (operator : Node) (right : Expr Node)
  | unaryOp (operator : Node) (operand : Expr Node)
  | nested (inner : Expr Node)
  /-- Any other expression, with the expressions inside it. Those of a query inside it do not
  count. -/
  | other (node : Node) (parts : List (Expr Node))

/-- An item of a SELECT list. Those without an expression of their own are wildcards. -/
inductive SelectItem (Node : Type)
  | unnamed (expr : Expr Node)
  | named (expr : Expr Node) (label : Node)
  | other (node : Node)

/-- A query by its body, without its order and limit. -/
inductive QueryBody (Node : Type)
  | select (items : List (SelectItem Node)) (sources : List Node)
  | combine (operator : Node) (left right : QueryBody Node)
  | nested (query : QueryBody Node)
  | other (node : Node)

inductive Command (Node : Type)
  | query (body : QueryBody Node)
  | other (node : Node)

variable {Node : Type}

/-- Whether an expression is a column, or reaches one through operators and parentheses alone. -/
def Expr.readsColumn : Expr Node → Bool
  | identifier _ => true
  | compoundIdentifier _ => true
  | binaryOp left _ right => left.readsColumn || right.readsColumn
  | unaryOp _ operand => operand.readsColumn
  | nested inner => inner.readsColumn
  | other _ _ => false

def SelectItem.readsColumn : SelectItem Node → Bool
  | unnamed expr => expr.readsColumn
  | named expr _ => expr.readsColumn
  | other _ => true

/-- Whether some SELECT of a query, subqueries apart, reads a column and has no FROM. -/
def QueryBody.lacksFrom : QueryBody Node → Bool
  | select items sources => sources.isEmpty && items.any SelectItem.readsColumn
  | combine _ left right => left.lacksFrom || right.lacksFrom
  | nested query => query.lacksFrom
  | other _ => false

def Command.lacksFrom : Command Node → Bool
  | query body => body.lacksFrom
  | other _ => false

inductive ParserError
  | tokenizer (message : Text)
  | parser (message : Text)
  | recursionLimitExceeded
  deriving DecidableEq, Repr

def ParserError.message : ParserError → Text
  | tokenizer message => message
  | parser message => message
  | recursionLimitExceeded => "recursion limit exceeded"

end QueryLint.Sql
