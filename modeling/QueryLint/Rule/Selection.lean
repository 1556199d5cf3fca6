import QueryLint.Clause
import QueryLint.TableList
import QueryLint.Text.Case
import QueryLint.Text.Numeral
import QueryLint.Text.Pattern

/-!
Readings of the items of a SELECT list and of an ORDER BY list.
-/

namespace QueryLint.Selection

open Text

def isAggregate (item : Text) : Bool :=
  (firstAtWord? (fun text => do
    let rest ← [("count" : Text), "sum", "avg", "min", "max"].findSome? (dropPhrase? · text)
    dropPhrase? "(" (trimStart rest)) false item).isSome

/-- Whether a list is, or ends in, a wildcard. -/
def isWildcard (item : Text) : Bool :=
  let item := trim item
  item = ['*'] || ['.', '*'].isSuffixOf item

/-- Whether an item begins with a quoted text, a number or NULL. -/
def isLiteral (item : Text) : Bool :=
  let head := (fields item).headD []
  head.head? = some '\'' || isFloat head || sameLetters head "null"

def dropDirection? (text : Text) : Option Text := do
  let rest ← dropBlanks? text
  (dropPhrase? "asc" rest).or (dropPhrase? "desc" rest)

def dropNullsOrder? (text : Text) : Option Text := do
  let rest ← dropBlanks? text
  let rest ← dropPhrase? "nulls" rest
  let rest ← dropBlanks? rest
  (dropPhrase? "first" rest).or (dropPhrase? "last" rest)

def isNullsOrder (text : Text) : Bool := allBlank text || (dropNullsOrder? text).any allBlank

/-- Whether a text is a sort suffix: a direction, then a placement of nulls, each of which may be
missing, then white space. -/
def sortSuffix? (text : Text) : Option Unit :=
  if isNullsOrder text || (dropDirection? text).any isNullsOrder then some () else none

/-- A sort key without its longest sort suffix. -/
def sortColumn (key : Text) : Text :=
  match cutAt? sortSuffix? key with
  | some (column, _) => column
  | none => key

end QueryLint.Selection
