import Mathlib.Data.List.Basic
import QueryLint.EditDistance

/-!
The table of distances between the prefixes of two texts. Every row that the search for a distance
keeps is a row of the table, and the distance is its last cell. The laws of a metric hold of the
cells.
-/

namespace QueryLint
namespace EditDistance

/-- The cell of the table for two prefixes, each given from its last character to the first. -/
def cell : Text → Text → Nat
  | [], b => b.length
  | c :: a, [] => (c :: a).length
  | c :: a, d :: b =>
    min (min (cell a b + if c = d then 0 else 1) (cell (c :: a) b + 1)) (cell a (d :: b) + 1)
termination_by a b => a.length + b.length

@[simp] theorem cell_nil_left (b : Text) : cell [] b = b.length := by
  rw [cell]

@[simp] theorem cell_nil_right (a : Text) : cell a [] = a.length := by
  cases a <;> rw [cell]

theorem cell_cons_cons (c d : Char) (a b : Text) :
    cell (c :: a) (d :: b) =
      min (min (cell a b + if c = d then 0 else 1) (cell (c :: a) b + 1))
        (cell a (d :: b) + 1) := by
  rw [cell]

section Rows

/-- The cells of the row for `a` to the right of the prefix `done`, which `short` continues. -/
def cellsAfter (a done : Text) : Text → List Nat
  | [] => []
  | d :: short => cell a (d :: done) :: cellsAfter a (d :: done) short

def row (a short : Text) : List Nat := cell a [] :: cellsAfter a [] short

theorem rowAfter_eq (c : Char) (a done short : Text) :
    rowAfter c (cell a done) (cell (c :: a) done) short (cellsAfter a done short) =
      cellsAfter (c :: a) done short := by
  induction short generalizing done with
  | nil => rfl
  | cons d short ih =>
    rw [cellsAfter, cellsAfter, rowAfter, ← cell_cons_cons, ih]

theorem nextRow_eq (c : Char) (a short : Text) :
    nextRow short (row a short) c = row (c :: a) short := by
  have hfirst : cell (c :: a) [] = cell a [] + 1 := by simp
  rw [row, row, nextRow, ← hfirst, rowAfter_eq]

theorem foldl_nextRow (a long short : Text) :
    long.foldl (nextRow short) (row a short) = row (long.reverse ++ a) short := by
  induction long generalizing a with
  | nil => rfl
  | cons c long ih =>
    rw [List.foldl_cons, nextRow_eq, ih, List.reverse_cons, List.append_assoc, List.singleton_append]

theorem cellsAfter_nil (done short : Text) :
    cellsAfter [] done short = List.range' (done.length + 1) short.length := by
  induction short generalizing done with
  | nil => rfl
  | cons d short ih =>
    rw [cellsAfter, ih, cell_nil_left, List.length_cons, List.length_cons, List.range'_succ]

theorem row_nil (short : Text) : row [] short = List.range (short.length + 1) := by
  rw [row, cellsAfter_nil, cell_nil_left, List.range_eq_range', List.range'_succ]
  rfl

theorem getLastD_cellsAfter (a done short : Text) :
    (cellsAfter a done short).getLastD (cell a done) = cell a (short.reverse ++ done) := by
  induction short generalizing done with
  | nil => rfl
  | cons d short ih =>
    rw [cellsAfter, List.getLastD_cons, ih, List.reverse_cons, List.append_assoc,
      List.singleton_append]

theorem getLastD_lastRow (long short : Text) :
    (lastRow long short).getLastD 0 = cell long.reverse short.reverse := by
  rw [lastRow, ← row_nil, foldl_nextRow, row, List.getLastD_cons, getLastD_cellsAfter,
    List.append_nil, List.append_nil]

end Rows

theorem cell_comm (a b : Text) : cell a b = cell b a := by
  induction a, b using cell.induct with
  | case1 b => simp
  | case2 c a => simp
  | case3 c a d b hdiagonal hleft habove =>
    rw [cell_cons_cons, cell_cons_cons, hdiagonal, hleft, habove, if_congr (eq_comm (a := c)) rfl rfl]
    omega

end EditDistance

open EditDistance in
/-- The distance of two texts is the last cell of their table, whichever of them is the longer. -/
theorem editDistance_eq_cell (a b : Text) : editDistance a b = cell a.reverse b.reverse := by
  rw [editDistance]
  split_ifs
  · exact getLastD_lastRow a b
  · rw [getLastD_lastRow, cell_comm]

namespace EditDistance

@[simp] theorem cell_self (a : Text) : cell a a = 0 := by
  induction a with
  | nil => simp
  | cons c a ih => simp [cell_cons_cons, ih]

theorem eq_of_cell_eq_zero {a b : Text} (h : cell a b = 0) : a = b := by
  induction a generalizing b with
  | nil => simpa [eq_comm] using h
  | cons c a ih =>
    cases b with
    | nil => simp at h
    | cons d b =>
      rw [cell_cons_cons] at h
      by_cases hcd : c = d
      · have hrest : cell a b = 0 := by
          rw [if_pos hcd] at h
          omega
        rw [hcd, ih hrest]
      · rw [if_neg hcd] at h
        omega

theorem cell_eq_zero_iff {a b : Text} : cell a b = 0 ↔ a = b := by
  constructor
  · exact eq_of_cell_eq_zero
  · rintro rfl
    exact cell_self a

theorem cell_bounds (a b : Text) :
    a.length ≤ b.length + cell a b ∧ b.length ≤ a.length + cell a b ∧
      cell a b ≤ max a.length b.length := by
  induction a, b using cell.induct with
  | case1 b => simp
  | case2 c a => simp
  | case3 c a d b hdiagonal hleft habove =>
    rw [cell_cons_cons]
    simp only [List.length_cons] at hleft habove ⊢
    split_ifs <;> omega

/-- A common end, which the reversed texts begin with, does not add to the distance. -/
theorem cell_append_append_le (front a b : Text) : cell (front ++ a) (front ++ b) ≤ cell a b := by
  induction front with
  | nil => exact Nat.le_refl _
  | cons c front ih =>
    rw [List.cons_append, List.cons_append, cell_cons_cons, if_pos rfl]
    omega

theorem cell_cons_cons_le (c d : Char) (a b : Text) :
    cell (c :: a) (d :: b) ≤ cell a b + if c = d then 0 else 1 := by
  rw [cell_cons_cons]
  omega

theorem cell_cons_right_le (d : Char) (a b : Text) : cell a (d :: b) ≤ cell a b + 1 := by
  cases a with
  | nil => simp
  | cons c a =>
    rw [cell_cons_cons]
    omega

theorem cell_cons_left_le (c : Char) (a b : Text) : cell (c :: a) b ≤ cell a b + 1 := by
  rw [cell_comm, cell_comm a]
  exact cell_cons_right_le c b a

theorem cell_triangle (a b c : Text) : cell a c ≤ cell a b + cell b c := by
  induction a generalizing b c with
  | nil =>
    have hlength := (cell_bounds b c).2.1
    simpa using hlength
  | cons x a iha =>
    induction b generalizing c with
    | nil =>
      have hmax := (cell_bounds (x :: a) c).2.2
      rw [cell_nil_right, cell_nil_left]
      omega
    | cons y b ihb =>
      induction c with
      | nil =>
        have hlength := (cell_bounds (x :: a) (y :: b)).1
        rw [cell_nil_right, cell_nil_right]
        omega
      | cons z c ihc =>
        -- either way ends with a deletion, an insertion or a step along the diagonal
        have hfirst := cell_cons_cons x y a b
        have hsecond := cell_cons_cons y z b c
        have hcosts : (if x = z then 0 else 1) ≤
            (if x = y then 0 else 1) + if y = z then 0 else 1 := by
          split_ifs <;> simp_all
        have hdiagonal := cell_cons_cons_le x z a c
        have hdeletion := cell_cons_left_le x a (z :: c)
        have hinsertion := cell_cons_right_le z (x :: a) c
        have hkept := iha b c
        have hdeletedFirst := iha (y :: b) (z :: c)
        have hdeletedLater := iha b (z :: c)
        have hinsertedFirst := ihb c
        have hundone := ihb (z :: c)
        omega

end EditDistance
end QueryLint
