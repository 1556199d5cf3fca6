import QueryLint.Text.Numeral
import QueryLint.Text.Pattern

/-!
Rejections by a grammar and the places they name. A message can give the place as a position, or
as a line and a column, both counted from one. All numbers are words: the outer `none` of a result
stands for a sum or a difference that is none.
-/

namespace QueryLint

/-- Why a grammar refused a statement: its message and the position of the offending character,
when it reported one. -/
structure Rejection where
  message : Text
  position : Option Nat
  deriving DecidableEq, Repr

namespace Rejection

open Text

/-- The position of a line and a column in the given lines, before which `number` lines with `start`
characters stand. The position is computed before the column is compared with the line. -/
def positionIn? (line column number start : Nat) : List Text → Option (Option Nat)
  | [] => some none
  | text :: lines => do
    let next ← plus? number 1
    if next = line then
      let before ← minus? column 1
      let stop ← plus? start column
      let position ← minus? stop 1
      return if before ≤ text.length then some position else none
    else
      let size ← plus? text.length 1
      let start ← plus? start size
      positionIn? line column next start lines

/-- The position of a line and a column. The column may be one past the end of the line. -/
def offset? (text : Text) (line column : Nat) : Option (Option Nat) :=
  if line = 0 || column = 0 then some none
  else positionIn? line column 0 0 (splitLines text)

def takeDigits? (text : Text) : Option (Text × Text) :=
  let digits := text.takeWhile isDecimalDigit
  if digits.isEmpty then none else some (digits, text.dropWhile isDecimalDigit)

def positionDigits? (message : Text) : Option Text :=
  firstAtWord? (fun text => do
    let rest ← dropPhrase? "at pos " text
    let (digits, _) ← takeDigits? rest
    pure digits) false message

/-- The digits of the first fragment `Line: L, Column: C`; the second colon may be missing. -/
def lineColumnDigits? (message : Text) : Option (Text × Text) :=
  first? (fun text => do
    let rest ← dropPhrase? "line:" text
    let (line, rest) ← takeDigits? (trimStart rest)
    let rest ← dropPhrase? "," rest
    let rest ← dropPhrase? "column" (trimStart rest)
    let (column, _) ← takeDigits? (trimStart (dropColon rest))
    pure (line, column)) message

def writtenPosition? (message : Text) : Option Nat := (positionDigits? message).bind readWord?

def lineColumn? (message : Text) : Option (Nat × Nat) := do
  let (line, column) ← lineColumnDigits? message
  let line ← readWord? line
  let column ← readWord? column
  pure (line, column)

/-- The position that a message about `text` names. A position whose number cannot be read is
passed over in favour of a line and column. -/
def namedPosition? (message text : Text) : Option (Option Nat) :=
  match writtenPosition? message, lineColumn? message with
  | some position, _ => some (some position)
  | none, some (line, column) => offset? text line column
  | none, none => some none

def locate? (message text : Text) : Option Rejection :=
  (namedPosition? message text).map (Rejection.mk message)

end Rejection

end QueryLint
