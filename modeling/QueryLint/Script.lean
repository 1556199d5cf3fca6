import QueryLint.ItemList

/-!
Scripts and their statements. A script is cut at the semicolons outside quoted literals and
comments. The cut reads each character once and remembers only the one before it.
-/

namespace QueryLint

/-- A statement of a script: its text and the line, counted from one, on which it starts. -/
structure Statement where
  line : Nat
  sql : Text
  deriving DecidableEq, Repr

namespace Script

inductive State
  | code
  | quoted (mark : Char)
  | lineComment
  | blockComment
  deriving DecidableEq, Repr

def State.opensBlock (state : State) (previous : Option Char) (c : Char) : Bool :=
  state = .code && previous = some '/' && c = '*'

def State.closesBlock (state : State) (previous : Option Char) (c : Char) : Bool :=
  state = .blockComment && previous = some '*' && c = '/'

def State.step (state : State) (previous : Option Char) (c : Char) : State :=
  match state with
  | .code =>
    if c = '\'' || c = '"' || c = '`' then .quoted c
    else if c = '-' && previous = some '-' then .lineComment
    else if state.opensBlock previous c then .blockComment
    else .code
  | .quoted mark => if c = mark then .code else .quoted mark
  | .lineComment => if c = '\n' then .code else .lineComment
  | .blockComment => if state.closesBlock previous c then .code else .blockComment

/-- What the next character sees as the one before it: a character that completes a delimiter
of a block comment begins no other. -/
def State.remember (state : State) (previous : Option Char) (c : Char) : Option Char :=
  if state.opensBlock previous c || state.closesBlock previous c then none else some c

/-- The positions of the semicolons that end statements, counted from `position`. -/
def cutsFrom (state : State) (previous : Option Char) (position : Nat) : Text → List Nat
  | [] => []
  | c :: rest =>
    let cuts := cutsFrom (state.step previous c) (state.remember previous c) (position + 1) rest
    if state = .code && c = ';' then position :: cuts else cuts

def cuts (script : Text) : List Nat := cutsFrom .code none 0 script

def statementOf? (script : Text) (segment : Span) : Option Statement :=
  let piece := segment.slice script
  let leading := (piece.takeWhile Text.isBlank).length
  let sql := Text.trim piece
  if sql.isEmpty then none
  else some ⟨(script.take (segment.start + leading)).count '\n' + 1, sql⟩

def statements (script : Text) : List Statement :=
  (spansBetween 0 script.length (cuts script)).filterMap (statementOf? script)

end Script

end QueryLint
