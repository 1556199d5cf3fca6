import QueryLint.Scan

/-!
Comma-separated lists. Only the commas outside parentheses, quoted literals and comments separate
items; a closing parenthesis that nothing opened is ignored.
-/

namespace QueryLint

/-- The positions of the commas outside parentheses, counted from `position`, when `depth`
parentheses are open. -/
def commasFrom (position depth : Nat) : List Marked → List Nat
  | [] => []
  | mark :: rest =>
    if mark.isCode '(' then commasFrom (position + 1) (depth + 1) rest
    else if mark.isCode ')' then commasFrom (position + 1) (depth - 1) rest
    else if mark.isCode ',' && depth = 0 then position :: commasFrom (position + 1) depth rest
    else commasFrom (position + 1) depth rest

def topLevelCommas (text : Text) : List Nat := commasFrom 0 0 (scan text)

/-- The spans from `start` to `stop` between the separators at the given positions. -/
def spansBetween (start stop : Nat) : List Nat → List Span
  | [] => [⟨start, stop⟩]
  | cut :: cuts => ⟨start, cut⟩ :: spansBetween (cut + 1) stop cuts

def hasTopLevelComma (text : Text) : Bool := !(topLevelCommas text).isEmpty

/-- The items of a list without the white space and comments around them; empty ones are
left out. -/
def splitItems (text : Text) : List Text :=
  ((spansBetween 0 text.length (topLevelCommas text)).map fun span =>
    trimCode (span.slice text)).filter fun item => !item.isEmpty

end QueryLint
