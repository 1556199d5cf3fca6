import QueryLint.Text.Case
import QueryLint.Sql.Tree

/-!
A small parser of SQL for the executable. It knows common statements of no particular dialect. This
module has the tokens with their places, and the ways in which a text fails to parse.
-/

namespace QueryLint.SmallParser

/-- A place in a text: line and column, both counted from one. -/
structure Place where
  line : Nat
  column : Nat
  deriving DecidableEq, Repr

def Place.suffix (place : Place) : Text :=
  " at Line: " ++ Text.ofNat place.line ++ ", Column: " ++ Text.ofNat place.column

/-- A token. Words that a pair of quotes surrounds are names and never keywords. -/
inductive Token
  | word (text : Text) (quote : Option Char)
  | number (digits : Text)
  /-- A text in single quotes, with a letter before them or none. -/
  | string (mark : Text) (text : Text)
  | symbol (text : Text)
  deriving DecidableEq, Repr

namespace Token

def closingQuote (quote : Char) : Char := if quote = '[' then ']' else quote

def shown : Token → Text
  | word text none => text
  | word text (some quote) => quote :: (text ++ [closingQuote quote])
  | number digits => digits
  | string mark text => mark ++ '\'' :: (text ++ ['\''])
  | symbol text => text

/-- Whether the token is the keyword, given in upper case. -/
def isKeyword (token : Token) (keyword : Text) : Bool :=
  match token with
  | word text none => Text.upper text = keyword
  | _ => false

/-- Whether the token is one of the keywords, given in upper case. -/
def isOneOf (token : Token) (keywords : List Text) : Bool := keywords.any token.isKeyword

end Token

structure Lexeme where
  token : Token
  place : Place
  deriving DecidableEq, Repr

inductive SyntaxError
  /-- Something else was found, or the end of the text. -/
  | expected (what : Text) (found : Option Lexeme)
  /-- A selected item is missing before the keyword `found`; `next` is the token after it. -/
  | missingItem (found : Text) (next : Option Lexeme)
  /-- A side of a join is not followed by JOIN or by a kind of join. -/
  | missingJoinKind (side : Text)
  | conflictingQuantifiers (place : Option Lexeme)
  | unterminatedString (place : Place)
  | unterminatedName (closing : Char) (place : Place)
  | unterminatedComment (place : Place)
  /-- The text is nested too deeply. -/
  | tooDeep
  deriving DecidableEq, Repr

def placeSuffix : Option Lexeme → Text
  | some lexeme => lexeme.place.suffix
  | none => []

open Sql in
def SyntaxError.toParserError : SyntaxError → ParserError
  | expected what found => .parser <|
    "Expected: " ++ what ++ ", found: "
      ++ (match found with | some lexeme => lexeme.token.shown | none => "EOF")
      ++ placeSuffix found
  | missingItem found next =>
    .parser ("Expected an expression, found: " ++ found ++ placeSuffix next)
  | missingJoinKind side => .parser ("expected OUTER, SEMI, ANTI or JOIN after " ++ side)
  | conflictingQuantifiers place =>
    .parser ("Cannot specify both ALL and DISTINCT" ++ placeSuffix place)
  | unterminatedString place => .tokenizer ("Unterminated string literal" ++ place.suffix)
  | unterminatedName closing place =>
    .tokenizer ("Expected close delimiter '" ++ closing :: ("' before EOF." ++ place.suffix))
  | unterminatedComment place =>
    .tokenizer ("Unexpected EOF while in a multi-line comment" ++ place.suffix)
  | tooDeep => .recursionLimitExceeded

end QueryLint.SmallParser
