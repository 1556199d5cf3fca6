import QueryLint.Text.CharClass

/-!
The regions of a statement. Every character belongs to the code, to a quoted literal or to a
comment; the scan goes from left to right and looks one character ahead, so that what a prefix of
the text means depends on the rest only at its very end.
-/

namespace QueryLint

/-- What a character of a statement belongs to. The quotes of a literal belong to it. The newline
that ends a line comment is code, so that the comment still separates the words around it. -/
inductive Region
  | code
  | quoted
  | comment
  deriving DecidableEq, Repr

namespace Scan

inductive Mode
  | code
  /-- Inside a literal that `mark` closes. -/
  | quoted (mark : Char)
  | lineComment
  /-- Between the two characters that open a block comment. -/
  | blockOpening
  /-- Inside a block comment; `star` tells whether its last character was a star. -/
  | blockComment (star : Bool)
  deriving DecidableEq, Repr

def isQuote (c : Char) : Bool := c = '\'' || c = '"' || c = '`'

def opensLineComment (c : Char) (next : Option Char) : Bool := c = '-' && next = some '-'

def opensBlockComment (c : Char) (next : Option Char) : Bool := c = '/' && next = some '*'

def Mode.region : Mode → Char → Option Char → Region
  | .code, c, next =>
    if isQuote c then .quoted
    else if opensLineComment c next || opensBlockComment c next then .comment else .code
  | .quoted _, _, _ => .quoted
  | .lineComment, c, _ => if c = '\n' then .code else .comment
  | .blockOpening, _, _ => .comment
  | .blockComment _, _, _ => .comment

def Mode.step : Mode → Char → Option Char → Mode
  | .code, c, next =>
    if isQuote c then .quoted c
    else if opensLineComment c next then .lineComment
    else if opensBlockComment c next then .blockOpening
    else .code
  | .quoted mark, c, _ => if c = mark then .code else .quoted mark
  | .lineComment, c, _ => if c = '\n' then .code else .lineComment
  | .blockOpening, _, _ => .blockComment false
  | .blockComment star, c, _ => if star && c = '/' then .code else .blockComment (c = '*')

def regionsFrom : Mode → Text → List Region
  | _, [] => []
  | mode, c :: rest => mode.region c rest.head? :: regionsFrom (mode.step c rest.head?) rest

def endMode : Mode → Text → Mode
  | mode, [] => mode
  | mode, c :: rest => endMode (mode.step c rest.head?) rest

@[simp] theorem length_regionsFrom (mode : Mode) (text : Text) :
    (regionsFrom mode text).length = text.length := by
  induction text generalizing mode with
  | nil => rfl
  | cons c rest ih => simp [regionsFrom, ih]

end Scan

abbrev Marked := Char × Region

def scan (text : Text) : List Marked := text.zip (Scan.regionsFrom .code text)

@[simp] theorem length_scan (text : Text) : (scan text).length = text.length := by
  simp [scan]

theorem drop_zero_eq_scan (text : Text) : text.drop 0 = (scan text).map Prod.fst := by
  simp [scan, List.map_fst_zip]

namespace Marked

def isCode (mark : Marked) (c : Char) : Bool := mark.2 = .code && mark.1 = c

theorem isCode_iff {mark : Marked} {c : Char} : mark.isCode c ↔ mark = (c, .code) := by
  obtain ⟨d, region⟩ := mark
  simp [isCode, and_comm]

/-- Whether the character is in no comment and is no white space. -/
def isVisible (mark : Marked) : Bool := mark.2 ≠ .comment && !Text.isBlank mark.1

/-- Whether the character is a letter, a number or an underscore of the code. -/
def isWord (mark : Marked) : Bool :=
  mark.2 = .code && (Text.isAlphanumeric mark.1 || mark.1 = '_')

end Marked

/-- The span from the first to the last visible character of a text, empty when there is none. -/
def visibleSpan (text : Text) : Span :=
  let flags := (scan text).map Marked.isVisible
  match flags.findIdx? id, flags.reverse.findIdx? id with
  | some first, some fromEnd => ⟨first, text.length - fromEnd⟩
  | _, _ => ⟨0, 0⟩

/-- A text without the white space and the comments around it. -/
def trimCode (text : Text) : Text := (visibleSpan text).slice text

end QueryLint
