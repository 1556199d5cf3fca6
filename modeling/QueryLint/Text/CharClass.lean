import QueryLint.Text.Basic
import QueryLint.Text.Alphabetic
import QueryLint.Text.Numeric
import QueryLint.Text.Marks

/-!
The classes of characters that the scanner and the readers distinguish: blanks, digits, letters
and the characters that can stand in a word. ASCII is decided directly, the rest by tables.
-/

namespace QueryLint.Text

def inRanges (ranges : List (Nat × Nat)) (c : Char) : Bool :=
  ranges.any fun range => range.1 ≤ c.toNat && c.toNat ≤ range.2

/-- White space: the ASCII blanks and line breaks, and the spaces and separators of Unicode. -/
def isBlank (c : Char) : Bool :=
  inRanges [(0x9, 0xD), (0x20, 0x20), (0x85, 0x85), (0xA0, 0xA0), (0x1680, 0x1680),
    (0x2000, 0x200A), (0x2028, 0x2029), (0x202F, 0x202F), (0x205F, 0x205F), (0x3000, 0x3000)] c

def isAlphabetic (c : Char) : Bool :=
  if c.toNat < 0x80 then c.isAlpha else inRanges alphabeticRanges c

def isDecimalDigit (c : Char) : Bool :=
  if c.toNat < 0x80 then c.isDigit else inRanges decimalDigitRanges c

def isAlphanumeric (c : Char) : Bool :=
  if c.toNat < 0x80 then c.isAlphanum else isAlphabetic c || inRanges numericRanges c

/-- A character of an identifier as messages and word lists see it: a letter, a decimal digit, an
underscore or other connector, a combining mark or a join control. -/
def isWordChar (c : Char) : Bool :=
  if c.toNat < 0x80 then c.isAlphanum || c = '_'
  else isAlphabetic c || isDecimalDigit c || inRanges markRanges c || inRanges connectorRanges c

def trimStart (text : Text) : Text := text.dropWhile isBlank

def trimEnd (text : Text) : Text := dropWhileEnd isBlank text

def trim (text : Text) : Text := trimEnd (trimStart text)

def allBlank (text : Text) : Bool := text.all isBlank

/-- The maximal pieces of a text without white space. -/
def fields (text : Text) : List Text :=
  (runsOf (fun c => !isBlank c) text).map (·.slice text)

end QueryLint.Text
