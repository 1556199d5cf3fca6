import QueryLint.SmallParser.Token

/-!
Cutting a text into tokens. White space and comments separate tokens and are left out.
-/

namespace QueryLint.SmallParser

/-- Where the reading of a text stands: what is left of it and the place where that starts. -/
structure Cursor where
  rest : Text
  place : Place := ⟨1, 1⟩

namespace Cursor

def placeAfter (place : Place) (c : Char) : Place :=
  if c = '\n' then ⟨place.line + 1, 1⟩ else ⟨place.line, place.column + 1⟩

def skip (cursor : Cursor) (count : Nat) : Cursor :=
  ⟨cursor.rest.drop count, (cursor.rest.take count).foldl placeAfter cursor.place⟩

end Cursor

namespace Lexer

def startsName (c : Char) : Bool :=
  c.isAlpha || c = '_' || (0x7F ≤ c.toNat && c.toNat ≤ 0xFFFF)

def continuesName (c : Char) : Bool := startsName c || c.isDigit

/-- The text up to the closing character, which is doubled where it belongs to the text, and how
many characters that takes with the closing one. -/
def untilClosed (closing : Char) : Text → Option (Text × Nat)
  | [] => none
  | c :: rest =>
    if c ≠ closing then (untilClosed closing rest).map fun (text, size) => (c :: text, size + 1)
    else match rest with
      | [] => some ([], 1)
      | d :: more =>
        if d = closing then
          (untilClosed closing more).map fun (text, size) => (c :: text, size + 2)
        else some ([], 1)

/-- How many characters a block comment has after its opening, the closing included. -/
def commentSize? : Text → Option Nat
  | '*' :: '/' :: _ => some 2
  | _ :: rest => (commentSize? rest).map (· + 1)
  | [] => none

def digitCount (text : Text) : Nat := (text.takeWhile Char.isDigit).length

/-- How many characters of an exponent start a text: a mark, an optional sign and digits. -/
def exponentSize (text : Text) : Nat :=
  match text with
  | mark :: rest =>
    let sign := if rest.head? = some '+' || rest.head? = some '-' then 1 else 0
    let digits := digitCount (rest.drop sign)
    if (mark = 'e' || mark = 'E') && 0 < digits then 1 + sign + digits else 0
  | [] => 0

def isHexDigit (c : Char) : Bool := c.isDigit || ('a' ≤ c && c ≤ 'f') || ('A' ≤ c && c ≤ 'F')

/-- How many characters of a number start a text: digits, a point, digits, an exponent and a mark
for its length; or hexadecimal digits after their mark. -/
def numberSize (text : Text) : Nat :=
  match text with
  | '0' :: 'x' :: rest => 2 + (rest.takeWhile isHexDigit).length
  | _ =>
    let whole := digitCount text
    let point := if (text.drop whole).head? = some '.' then 1 else 0
    let mantissa := whole + point + digitCount (text.drop (whole + point))
    let size := mantissa + exponentSize (text.drop mantissa)
    if (text.drop size).head? = some 'L' then size + 1 else size

/-- The symbols of several characters, the longer ones first. -/
def longSymbols : List Text :=
  ["<=>", "->>", "||", "<=", "<>", "<<", ">=", ">>", "!=", "==", "=>", "::", ":=", "->", "&&"]

def symbolAt (c : Char) (text : Text) : Text × Text :=
  match longSymbols.find? fun symbol => symbol.isPrefixOf text with
  | some symbol => (symbol, if symbol = "!=" then "<>" else symbol)
  | none => ([c], [c])

/-- What stands at the front of a text that is not empty: a token, or white space or a comment,
and how many characters it has. -/
def front (place : Place) (c : Char) (rest : Text) : Except SyntaxError (Option Token × Nat) :=
  let text := c :: rest
  let quoted (mark : Text) (size : Nat) : Except SyntaxError (Option Token × Nat) :=
    match untilClosed '\'' (text.drop (size + 1)) with
    | some (body, length) => .ok (some (.string mark body), size + 1 + length)
    | none => .error (.unterminatedString place)
  if c = '\'' then quoted [] 0
  else if (c = 'N' || c = 'n') && rest.head? = some '\'' then quoted "N" 1
  else if (c = 'X' || c = 'x') && rest.head? = some '\'' then quoted "X" 1
  else if c = '"' || c = '`' || c = '[' then
    match untilClosed (Token.closingQuote c) rest with
    | some (name, length) => .ok (some (.word name (some c)), 1 + length)
    | none => .error (.unterminatedName (Token.closingQuote c) place)
  else if startsName c then
    let name := text.takeWhile continuesName
    .ok (some (.word name none), name.length)
  else if c.isDigit || (c = '.' && 0 < digitCount rest) then
    let size := numberSize text
    .ok (some (.number (text.take size)), size)
  else if c = '-' && rest.head? = some '-' then
    .ok (none, (text.takeWhile (· ≠ '\n')).length)
  else if c = '/' && rest.head? = some '*' then
    match commentSize? (rest.drop 1) with
    | some size => .ok (none, 2 + size)
    | none => .error (.unterminatedComment place)
  else if Text.isBlank c then .ok (none, 1)
  else
    let (symbol, shown) := symbolAt c text
    .ok (some (.symbol shown), symbol.length)

/-- The tokens from a cursor on. Every step takes a character at least, so as many steps as there
are characters are enough. -/
def lexemesFrom : Nat → Cursor → Except SyntaxError (List Lexeme)
  | 0, _ => .ok []
  | steps + 1, cursor =>
    match cursor.rest with
    | [] => .ok []
    | c :: rest => do
      let (token?, size) ← front cursor.place c rest
      let more ← lexemesFrom steps (cursor.skip size)
      match token? with
      | some token => .ok (⟨token, cursor.place⟩ :: more)
      | none => .ok more

end Lexer

def lexemes (text : Text) : Except SyntaxError (List Lexeme) :=
  Lexer.lexemesFrom text.length { rest := text }

end QueryLint.SmallParser
