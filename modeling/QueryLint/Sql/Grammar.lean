import QueryLint.Check.Checker
import QueryLint.Sql.Tree

/-!
The grammar that a parser of SQL makes: a text is accepted when it parses and no SELECT of a query
reads columns without a FROM.
-/

namespace QueryLint.Sql

def grammar {Node : Type} (parse : Dialect → Text → Except ParserError (List (Command Node)))
    (dialect : Dialect) : Grammar := fun text =>
  match parse dialect text with
  | .error error =>
    match Rejection.locate? error.message text with
    | some rejection => .rejected rejection
    | none => .brokeDown
  | .ok commands =>
    if commands.any Command.lacksFrom then .rejected ⟨"missing FROM clause", none⟩ else .accepted

end QueryLint.Sql
