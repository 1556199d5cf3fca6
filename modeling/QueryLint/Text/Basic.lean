/-!
Texts as lists of characters, spans of positions in them, and the ways of searching and cutting
them. Positions count characters from the start of the text.
-/

namespace QueryLint

abbrev Text := List Char

instance : Coe String Text := ⟨String.toList⟩

structure Span where
  start : Nat
  stop : Nat
  deriving DecidableEq, Repr

def Span.slice (span : Span) (text : Text) : Text :=
  (text.drop span.start).take (span.stop - span.start)

namespace Text

theorem length_slice {span : Span} {text : Text} (h : span.stop ≤ text.length) :
    (span.slice text).length = span.stop - span.start := by
  simp only [Span.slice, List.length_take, List.length_drop]
  omega

theorem slice_append (before middle after : Text) :
    (Span.mk before.length (before.length + middle.length)).slice (before ++ (middle ++ after)) =
      middle := by
  simp [Span.slice]

theorem drop_succ {text rest : Text} {position : Nat} {c : Char}
    (h : text.drop position = c :: rest) : text.drop (position + 1) = rest := by
  rw [← List.drop_drop, h]
  rfl

/-- The maximal runs of `true`, as spans counted from `offset`. -/
def runsFrom : Nat → List Bool → List Span
  | _, [] => []
  | offset, false :: flags => runsFrom (offset + 1) flags
  | offset, true :: flags =>
    match runsFrom (offset + 1) flags with
    | [] => [⟨offset, offset + 1⟩]
    | run :: runs =>
      if run.start = offset + 1 then ⟨offset, run.stop⟩ :: runs
      else ⟨offset, offset + 1⟩ :: run :: runs

/-- The maximal runs of characters of `text` that satisfy `p`. -/
def runsOf (p : Char → Bool) (text : Text) : List Span := runsFrom 0 (text.map p)

def dropWhileEnd (p : Char → Bool) (text : Text) : Text := (text.reverse.dropWhile p).reverse

def find? (needle : Text) : Text → Option Nat
  | [] => if needle.isEmpty then some 0 else none
  | c :: rest =>
    if needle.isPrefixOf (c :: rest) then some 0 else (find? needle rest).map (· + 1)

def contains (text needle : Text) : Bool := (find? needle text).isSome

def findLast? (c : Char) : Text → Option Nat
  | [] => none
  | d :: rest =>
    match findLast? c rest with
    | some i => some (i + 1)
    | none => if d = c then some 0 else none

/-- The pieces between newline characters; there is always at least one. -/
def splitLines : Text → List Text
  | [] => [[]]
  | c :: rest =>
    if c = '\n' then [] :: splitLines rest
    else match splitLines rest with
      | [] => [[c]]
      | line :: lines => (c :: line) :: lines

theorem splitLines_ne_nil (text : Text) : splitLines text ≠ [] := by
  cases text with
  | nil => simp [splitLines]
  | cons c rest =>
    simp only [splitLines]
    split
    · simp
    · split <;> simp

def dropReturn (line : Text) : Text :=
  if line.getLast? = some '\r' then line.dropLast else line

/-- The lines of a text: each ends at a newline, which may follow a carriage return, and the
text after the last newline is a line only if it is not empty. -/
def lines (text : Text) : List Text :=
  let pieces := splitLines text
  pieces.dropLast.map dropReturn ++
    match pieces.getLast? with
    | some last => if last.isEmpty then [] else [last]
    | none => []

/-- Pieces written one after the other with `separator` between them. -/
def join (separator : Text) : List Text → Text
  | [] => []
  | [piece] => piece
  | piece :: pieces => piece ++ separator ++ join separator pieces

def ofNat (n : Nat) : Text := (Nat.repr n).toList

def asciiLowerChar (c : Char) : Char := c.toLower

def asciiUpperChar (c : Char) : Char := c.toUpper

/-- Equality of texts when ASCII letters match in either case. -/
def sameLetters (a b : Text) : Bool := a.map asciiLowerChar == b.map asciiLowerChar

end Text

end QueryLint
