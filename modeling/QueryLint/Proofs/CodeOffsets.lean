import QueryLint.Proofs.Guarded.Clauses
import QueryLint.Proofs.VisibleText

/-!
The characters outside comments of a text in parts, with their byte offsets. Behind a part that
ends in the code, what follows reads as it does alone, with every offset moved by the size of the
part; and what trimming leaves of a text has the visible characters of the whole.
-/

namespace QueryLint.Guarded

open Utf8

def movedBy (distance : Nat) (chars : List (Nat × Marked)) : List (Nat × Marked) :=
  chars.map fun char => (distance + char.1, char.2)

theorem visibleChars_movedBy (distance : Nat) (chars : List (Nat × Marked)) :
    visibleChars (movedBy distance chars) = movedBy distance (visibleChars chars) :=
  List.filter_map

theorem codeCharsFrom_append (start : Nat) (front back : List Marked) :
    codeCharsFrom start (front ++ back) =
      codeCharsFrom start front ++ codeCharsFrom (start + size (front.map Prod.fst)) back := by
  induction front generalizing start with
  | nil => rfl
  | cons mark front ih =>
    rw [List.cons_append, codeCharsFrom, codeCharsFrom, ih, List.map_cons, size_cons, Nat.add_assoc]
    split <;> rfl

theorem codeCharsFrom_add (distance start : Nat) (marks : List Marked) :
    codeCharsFrom (distance + start) marks = movedBy distance (codeCharsFrom start marks) := by
  induction marks generalizing start with
  | nil => rfl
  | cons mark marks ih =>
    rw [codeCharsFrom, codeCharsFrom, Nat.add_assoc, ih]
    split <;> rfl

theorem codeChars_append {front back : Text} (h : scan (front ++ back) = scan front ++ scan back) :
    codeChars (front ++ back) = codeChars front ++ movedBy (size front) (codeChars back) := by
  rw [codeChars, h, codeCharsFrom_append, Scan.map_fst_scan, Nat.zero_add,
    ← Nat.add_zero (size front), codeCharsFrom_add]
  rfl

theorem visibleChars_of_hidden {marks : List Marked} (h : ∀ mark ∈ marks, mark.isVisible = false)
    (start : Nat) : visibleChars (codeCharsFrom start marks) = [] := by
  induction marks generalizing start with
  | nil => rfl
  | cons mark marks ih =>
    obtain ⟨hmark, hmarks⟩ := List.forall_mem_cons.mp h
    rw [visibleChars_cons, hmark]
    exact ih hmarks _

section Trimmed

variable {text : Text} {before middle after : List Marked}
  (h : scan text = before ++ (middle ++ after)) (hvisible : VisibleWithin before middle after)
include h hvisible

theorem trimCode_trimCode_of_visibleWithin : trimCode (trimCode text) = trimCode text := by
  have hscan : scan (trimCode text) = [] ++ (middle ++ []) := by
    simpa using scan_trimCode h hvisible
  rw [trimCode_eq hscan ⟨by simp, hvisible.first, hvisible.last, by simp⟩, trimCode_eq h hvisible]

theorem visibleChars_trimCode_of_visibleWithin :
    visibleChars (codeChars text) =
      movedBy (size (before.map Prod.fst)) (visibleChars (codeChars (trimCode text))) := by
  have hfront := visibleChars_of_hidden hvisible.before 0
  have hback := visibleChars_of_hidden hvisible.after
    (0 + size (before.map Prod.fst) + size (middle.map Prod.fst))
  rw [codeChars, codeChars, scan_trimCode h hvisible, h, codeCharsFrom_append,
    codeCharsFrom_append, visibleChars, List.filter_append, List.filter_append]
  rw [visibleChars] at hfront hback
  rw [hfront, hback, List.nil_append, List.append_nil, Nat.zero_add,
    ← Nat.add_zero (size _), codeCharsFrom_add]
  exact visibleChars_movedBy _ _

end Trimmed

/-- Reading a text in two parts. A cut at a character boundary makes a text two texts in a row; if
the first ends in the code and no mark of a comment stands across the cut, the characters outside
comments are those of the first and then those of the second, moved by the size of the first.
Trimming a second time changes nothing, and trimming once takes no character away that is outside
comments and no white space. -/
theorem codeChars_in_parts :
    (∀ front back : Text, Scan.endMode .code front = .code →
      ¬(front.getLast? = some '-' ∧ back.head? = some '-') →
      ¬(front.getLast? = some '/' ∧ back.head? = some '*') →
      codeChars (front ++ back) = codeChars front ++ movedBy (size front) (codeChars back)) ∧
    ∀ text : Text, trimCode (trimCode text) = trimCode text ∧
      ∃ before after, text = before ++ (trimCode text ++ after) ∧
        visibleChars (codeChars text) =
          movedBy (size before) (visibleChars (codeChars (trimCode text))) := by
  constructor
  · intro front back hmode hdash hslash
    refine codeChars_append (Scan.scan_append hmode fun c hc => ?_)
    have hc : front.getLast? = some c := hc
    simp only [hc, Option.some.injEq, not_and] at hdash hslash
    simpa [Scan.opensComment, Scan.opensLineComment, Scan.opensBlockComment] using
      ⟨hdash, hslash⟩
  · intro text
    obtain ⟨before, middle, after, h, hvisible⟩ := exists_visibleWithin (scan text)
    refine ⟨trimCode_trimCode_of_visibleWithin h hvisible, before.map Prod.fst,
      after.map Prod.fst, ?_, visibleChars_trimCode_of_visibleWithin h hvisible⟩
    rw [trimCode_eq h hvisible, ← List.map_append, ← List.map_append, ← h, Scan.map_fst_scan]

theorem codeChars_in_parts_behind_dash :
    let front : Text := "'/*é' -- it's\n-"
    let back : Text := "/*-*/ -1"
    (Scan.endMode .code front = .code ∧
      ¬(front.getLast? = some '-' ∧ back.head? = some '-') ∧
      ¬(front.getLast? = some '/' ∧ back.head? = some '*')) ∧
      codeChars (front ++ back) = codeChars front ++ movedBy (size front) (codeChars back) ∧
      (movedBy (size front) (codeChars back)).map (·.1) = [21, 22, 23] := by
  intro front back
  have hmode : Scan.endMode .code front = .code := by decide
  have hdash : ¬(front.getLast? = some '-' ∧ back.head? = some '-') := by decide
  have hslash : ¬(front.getLast? = some '/' ∧ back.head? = some '*') := by decide
  exact ⟨⟨hmode, hdash, hslash⟩, codeChars_in_parts.1 front back hmode hdash hslash, by decide⟩

end QueryLint.Guarded
