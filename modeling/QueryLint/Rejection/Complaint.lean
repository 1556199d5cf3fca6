import QueryLint.Rejection.Location
import QueryLint.Text.Case

/-!
What the messages of a grammar complain about. Messages come in a few families: something was
expected and something else found, a token is unexpected, a FROM clause is missing, or a column or
table is unknown. The phrases match in any letter case.
-/

namespace QueryLint.Complaint

open Text

/-- A place at the end of a message begins here: `at line` or `at pos` after white space. -/
def locationTail? (text : Text) : Option Unit := do
  let rest ← dropBlanks? text
  let rest ← dropPhrase? "at" rest
  let rest ← dropBlanks? rest
  let rest ← (dropPhrase? "line" rest).or (dropPhrase? "pos" rest)
  if continuesWord rest then none else some ()

def beforeLocation (text : Text) : Text :=
  match cutAt? locationTail? text with
  | some (before, _) => before
  | none => text

/-- What follows the word `found` at the front of a text, which white space and perhaps a comma
must precede. -/
def foundPart? (text : Text) : Option Text := do
  let rest ← dropBlanks? (match text with | ',' :: rest => rest | _ => text)
  dropPhrase? "found" rest

/-- The two parts of `Expected: E, found: F`, without the place at the end. Neither is empty. -/
def expectedFound (message : Text) : Option (Text × Text) := do
  let rest ← firstAtWord? (dropPhrase? "expected") false message
  let (expected, rest) ← cutAt? foundPart? (trimStart (dropColon rest))
  let found := beforeLocation (trimStart (dropColon rest))
  let expected := trim expected
  let found := trim found
  if expected.isEmpty || found.isEmpty then none else some (expected, found)

/-- The `E` of `Expected: E`, whether or not a found part follows. -/
def expected (message : Text) : Option Text :=
  match expectedFound message with
  | some (expected, _) => some expected
  | none => do
    let rest ← firstAtWord? (dropPhrase? "expected:") false message
    let expected := trim (beforeLocation (trimStart rest))
    if expected.isEmpty then none else some expected

def unexpectedToken (message : Text) : Option Text :=
  first? (fun text => do
    let rest ← dropPhrase? "unexpected token" text
    let rest ← dropPhrase? "'" (trimStart (dropColon rest))
    let token := rest.takeWhile fun c => c ≠ '\'' && c ≠ '\n'
    if (rest.drop token.length).head? = some '\'' then some token else none) message

def isMissingFrom (message : Text) : Bool := (lower message).contains "missing from clause"

/-- The name after a phrase, up to white space or a parenthesis. -/
def nameAfter? (phrase message : Text) : Option Text :=
  first? (fun text => do
    let rest ← dropPhrase? phrase text
    let name := (trimStart rest).takeWhile fun c => !isBlank c && c ≠ '('
    if name.isEmpty then none else some name) message

def noSuchColumn (message : Text) : Option Text := nameAfter? "no such column:" message

def noSuchTable (message : Text) : Option Text := nameAfter? "no such table:" message

def isParenthesis (fragment : Text) : Bool :=
  let isQuote : Char → Bool := fun c => c = '\'' || c = '"'
  let bare := dropWhileEnd isQuote (fragment.dropWhile isQuote)
  bare = ['('] || bare = [')']

/-- Whether the message is about parentheses or brackets: it names them, or what it expected or
found is one. -/
def mentionsBrackets (message : Text) : Bool :=
  let lowered := lower message
  if Text.contains lowered "parenthes" || Text.contains lowered "bracket" then true
  else match expectedFound message with
    | some (expected, found) => isParenthesis expected || isParenthesis found
    | none => (expected message).any isParenthesis

end QueryLint.Complaint
