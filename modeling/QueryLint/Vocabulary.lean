import QueryLint.EditDistance
import QueryLint.Text.Case

/-!
The keywords that are often mistyped, and the words of a statement that look like one of them. The
longer the words, the more edits a misspelling may have.
-/

namespace QueryLint

/-- The keywords that misspellings are compared with, in the order in which they are tried. -/
def vocabulary : List Text :=
  ["SELECT", "FROM", "WHERE", "GROUP BY", "ORDER BY", "HAVING", "JOIN", "INNER JOIN", "LEFT JOIN",
    "RIGHT JOIN", "ON", "AND", "OR"]

/-- The greatest number of edits between words of these lengths that still is a misspelling: one
when either word is short, else a third of the longer length. -/
def editLimit (length length' : Nat) : Nat :=
  if min length length' ≤ 4 then 1 else max (max length length' / 3) 1

/-- Whether `word` is probably meant to be `keyword`. A word is no misspelling of itself. -/
def isMisspelling (word keyword : Text) : Bool :=
  word ≠ keyword && editDistance word keyword ≤ editLimit word.length keyword.length

structure Misspelling where
  word : Text
  keyword : Text
  deriving DecidableEq, Repr

namespace Misspelling

def compact (keyword : Text) : Text := (Text.fields keyword).flatten

/-- Whether a word can be a misspelling at all: it has more than two characters, is no number and
is no word of a keyword. -/
def isCandidate (word : Text) : Bool :=
  2 < word.length && !word.all Char.isDigit && !(vocabulary.flatMap Text.fields).contains word

def ofWord? (word : Text) : Option Misspelling :=
  (vocabulary.find? fun keyword => isMisspelling word (compact keyword)).map fun keyword =>
    ⟨word, keyword⟩

/-- The words of a text in upper case, wherever they stand. -/
def words (text : Text) : List Text :=
  let text := Text.upper text
  (Text.runsOf Text.isWordChar text).map (·.slice text)

def find? (text : Text) : Option Misspelling :=
  ((words text).filter isCandidate).findSome? ofWord?

end Misspelling

end QueryLint
