import QueryLint.Text.Basic

/-!
The edit distance of two texts: how many insertions, deletions and substitutions of single
characters turn one into the other. One row of the table of distances between prefixes is kept,
for the prefixes of the shorter text.
-/

namespace QueryLint.EditDistance

/-- The rest of a row of the table. The row belongs to a prefix that ends in `c`; `diagonal` and
`above :: _` are cells of the row before it, and `left` is the cell just found. -/
def rowAfter (c : Char) (diagonal left : Nat) : Text → List Nat → List Nat
  | d :: short, above :: row =>
    let cell := min (min (diagonal + if c = d then 0 else 1) (left + 1)) (above + 1)
    cell :: rowAfter c above cell short row
  | _, _ => []

def nextRow (short : Text) (row : List Nat) (c : Char) : List Nat :=
  match row with
  | [] => []
  | first :: rest => (first + 1) :: rowAfter c first (first + 1) short rest

def lastRow (long short : Text) : List Nat :=
  long.foldl (nextRow short) (List.range (short.length + 1))

end QueryLint.EditDistance

namespace QueryLint

/-- The least number of insertions, deletions and substitutions of one character that turn `a`
into `b`. -/
def editDistance (a b : Text) : Nat :=
  if b.length ≤ a.length then (EditDistance.lastRow a b).getLastD 0
  else (EditDistance.lastRow b a).getLastD 0

end QueryLint
