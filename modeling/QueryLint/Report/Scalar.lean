import QueryLint.Report.Document
import QueryLint.Text.Numeral

/-!
Texts as YAML scalars. A text is written plainly where that reads back as the same text; else in
single quotes, in double quotes with escapes, or, when it has several lines, as a literal block.
Lines are never folded.
-/

namespace QueryLint.Scalar

open Text

def isBreak (c : Char) : Bool :=
  c = '\n' || c = '\r' || c = '\u0085' || c = '\u2028' || c = '\u2029'

def isSeparator : Option Char → Bool
  | none => true
  | some c => c = ' ' || c = '\t' || c = '\x00' || isBreak c

def isPrintable (c : Char) : Bool :=
  c = '\n' || (0x20 ≤ c.toNat && c.toNat ≤ 0x7E) || (0xA0 ≤ c.toNat && c.toNat ≠ 0xFEFF
    && c.toNat ≠ 0xFFFE && c.toNat ≠ 0xFFFF)

/-- Whether two neighbouring characters satisfy `p` and `q`. -/
def hasNeighbours (p q : Char → Bool) (text : Text) : Bool :=
  (text.zip text.tail).any fun pair => p pair.1 && q pair.2

def hasSpaceBeforeBreak : Text → Bool := hasNeighbours (· = ' ') isBreak

def hasSpaceAfterBreak : Text → Bool := hasNeighbours isBreak (· = ' ')

def needsEscapes (text : Text) : Bool := text.any (fun c => !isPrintable c) || hasSpaceBeforeBreak text

/-- The characters that mean something else at the start of a scalar. -/
def isIndicator (c : Char) : Bool := "#,[]\x7b\x7d&*!|>'\"%@`".toList.contains c

def startsAsIndicator (text : Text) : Bool :=
  ['-', '-', '-'].isPrefixOf text || ['.', '.', '.'].isPrefixOf text ||
    match text with
    | [] => false
    | c :: rest => isIndicator c || ((c = '-' || c = '?' || c = ':') && isSeparator rest.head?)

/-- Whether a key or a comment would begin inside the text. -/
def hasInnerIndicator : Text → Bool
  | [] => false
  | c :: rest =>
    (match rest with
      | [] => false
      | d :: after => (d = ':' && isSeparator after.head?) || (d = '#' && isSeparator (some c)))
    || hasInnerIndicator rest

/-- Whether the characters at both ends can stand there without quotes. -/
def hasPlainEnds (text : Text) : Bool :=
  match text.head?, text.getLast? with
  | some first, some last => !(first = ' ' || isBreak first || last = ' ' || isBreak last)
  | _, _ => true

def canBePlain (text : Text) : Bool :=
  !needsEscapes text && !text.any isBreak && hasPlainEnds text && !startsAsIndicator text
    && !hasInnerIndicator text

def canBeSingleQuoted (text : Text) : Bool := !needsEscapes text && !hasSpaceAfterBreak text

def canBeLiteral (text : Text) : Bool := !needsEscapes text && text.getLast? ≠ some ' '

def isSigned (text : Text) : Bool := text.head? = some '+' || text.head? = some '-'

def dropPlus : Text → Text
  | '+' :: rest => rest
  | text => text

def digitValue? (base : Nat) (c : Char) : Option Nat :=
  let value :=
    if c.isDigit then c.toNat - 48
    else if 'a' ≤ c && c ≤ 'f' then c.toNat - 87
    else if 'A' ≤ c && c ≤ 'F' then c.toNat - 55
    else base
  if value < base then some value else none

def readBase? (base : Nat) (digits : Text) : Option Nat :=
  if digits.isEmpty then none
  else digits.foldl (fun number c => do
    let number ← number
    let digit ← digitValue? base c
    pure (base * number + digit)) (some 0)

/-- The absolute value of an integer without its sign: decimal, or with a base mark. -/
def readMagnitude? : Text → Option Nat
  | '0' :: 'x' :: digits => readBase? 16 digits
  | '0' :: 'o' :: digits => readBase? 8 digits
  | '0' :: 'b' :: digits => readBase? 2 digits
  | digits => readBase? 10 digits

/-- Digits with a leading zero, which are no number. -/
def isZeroPadded (text : Text) : Bool :=
  match dropSign text with
  | '0' :: digits => !digits.isEmpty && digits.all Char.isDigit
  | _ => false

def isInteger (text : Text) : Bool :=
  match text with
  | '-' :: rest => (readMagnitude? rest).any (· ≤ Nat.pow 2 127)
  | _ => (readMagnitude? (dropPlus text)).any (· < Nat.pow 2 128)

/-- Whether the text writes a finite decimal number, an infinity or a NaN. -/
def isReal (text : Text) : Bool :=
  let number := dropPlus text
  !(text.head? = some '+' && isSigned number)
    && ([(".inf" : Text), ".Inf", ".INF"].contains (dropSign text)
      || [(".nan" : Text), ".NaN", ".NAN"].contains text
      || (readDecimal? number).any Decimal.isFinite)

/-- Whether the plain text would be read as nothing, a flag or a number. -/
def isAmbiguous (text : Text) : Bool :=
  text.isEmpty || ["null", "Null", "NULL", "~", "true", "True", "TRUE", "false", "False",
    "FALSE"].any (fun word => word.toList = text)
    || isZeroPadded text || isInteger text || isReal text

inductive Style
  | plain
  | singleQuoted
  | doubleQuoted
  | literal
  deriving DecidableEq, Repr

def styleOf (text : Text) : Style :=
  if text.contains ['\n'] then
    if canBeLiteral text then .literal else .doubleQuoted
  else if canBePlain text && !isAmbiguous text then .plain
  else if canBeSingleQuoted text then .singleQuoted
  else .doubleQuoted

/-- The inside of single quotes. A line after a break is indented. -/
def singleQuotedBody (indent : Nat) (afterBreak : Bool) : Text → Text
  | [] => if afterBreak then Document.pad indent else []
  | c :: rest =>
    if isBreak c then c :: singleQuotedBody indent true rest
    else (if afterBreak then Document.pad indent else []) ++ (if c = '\'' then ['\'', '\''] else [c])
      ++ singleQuotedBody indent false rest

/-- The lines of a literal block. A line that is not empty is indented. -/
def literalBody (indent : Nat) (afterBreak : Bool) : Text → Text
  | [] => if afterBreak then [] else ['\n']
  | c :: rest =>
    if isBreak c then c :: literalBody indent true rest
    else (if afterBreak then Document.pad indent else []) ++ c :: literalBody indent false rest

/-- The head of a literal block: an indent where the text starts with white space, and what
becomes of the line breaks at its end. -/
def literalHead (text : Text) : Text :=
  let start := match text.head? with
    | some c => if c = ' ' || isBreak c then ['2'] else []
    | none => []
  let finish := match text.reverse with
    | [] => ['-']
    | [c] => if isBreak c then ['+'] else ['-']
    | c :: d :: _ => if !isBreak c then ['-'] else if isBreak d then ['+'] else []
  '|' :: (start ++ finish)

def upperHex (digit : Nat) : Char := (Nat.digitChar digit).toUpper

def hexDigits (number : Nat) : Nat → Text
  | 0 => []
  | count + 1 => hexDigits (number / 16) count ++ [upperHex (number % 16)]

def doubleQuotedChar (c : Char) : Text :=
  if isPrintable c && !isBreak c && c ≠ '"' && c ≠ '\\' then [c]
  else '\\' :: match c with
    | '\x00' => ['0']
    | '\x07' => ['a']
    | '\x08' => ['b']
    | '\t' => ['t']
    | '\n' => ['n']
    | '\x0b' => ['v']
    | '\x0c' => ['f']
    | '\r' => ['r']
    | '\x1b' => ['e']
    | '"' => ['"']
    | '\\' => ['\\']
    | '\u0085' => ['N']
    | '\u2028' => ['L']
    | '\u2029' => ['P']
    | _ => if c.toNat ≤ 0xFF then 'x' :: hexDigits c.toNat 2 else 'u' :: hexDigits c.toNat 4

/-- A text as a scalar, up to the end of its last line. Further lines are indented. -/
def write (indent : Nat) (text : Text) : Text :=
  match styleOf text with
  | .plain => text ++ ['\n']
  | .singleQuoted => '\'' :: (singleQuotedBody indent false text ++ ['\'', '\n'])
  | .doubleQuoted => '"' :: (text.flatMap doubleQuotedChar ++ ['"', '\n'])
  | .literal => literalHead text ++ '\n' :: literalBody indent true text

end QueryLint.Scalar
