import QueryLint.Proofs.Rewriting
import QueryLint.Rule.Mistake

/-!
Whether a list has a comma outside parentheses depends on the parentheses and commas of the code
alone. Neither trimming nor an exchange of pieces without such marks changes it.
-/

namespace QueryLint

def Marked.isListMark (mark : Marked) : Bool :=
  mark.isCode '(' || mark.isCode ')' || mark.isCode ','

namespace Marked

theorem isListMark_iff {mark : Marked} :
    mark.isListMark ↔ mark = ('(', .code) ∨ mark = (')', .code) ∨ mark = (',', .code) := by
  simp only [isListMark, Bool.or_eq_true, isCode_iff, or_assoc]

theorem isListMark_of_hidden {mark : Marked} (h : mark.isVisible = false ∨ mark.1 = ';') :
    mark.isListMark = false := by
  by_contra hlist
  rcases isListMark_iff.mp (by simpa using hlist) with rfl | rfl | rfl <;>
    exact absurd h (by decide)

theorem isListMark_of_isWord {mark : Marked} (h : mark.isWord) : mark.isListMark = false := by
  by_contra hlist
  rcases isListMark_iff.mp (by simpa using hlist) with rfl | rfl | rfl <;>
    exact absurd h (by decide)

end Marked

variable {Swap : List Marked → List Marked → Prop} {gap p : Marked → Bool}
  {marks marks' body body' : List Marked} {text text' : Text}

theorem isEmpty_commasFrom_filter (position position' depth : Nat) (marks : List Marked) :
    (commasFrom position depth marks).isEmpty =
      (commasFrom position' depth (marks.filter Marked.isListMark)).isEmpty := by
  induction marks generalizing position position' depth with
  | nil => rfl
  | cons mark marks ih =>
    have hrest (depth : Nat) := ih (position + 1) (position' + 1) depth
    by_cases hopen : mark.isCode '('
    · simpa [Marked.isListMark, hopen, commasFrom] using hrest (depth + 1)
    by_cases hclose : mark.isCode ')'
    · simpa [Marked.isListMark, hopen, hclose, commasFrom] using hrest (depth - 1)
    by_cases hcomma : mark.isCode ','
    · by_cases hdepth : depth = 0
      · simp [Marked.isListMark, hopen, hclose, hcomma, hdepth, commasFrom]
      · simpa [Marked.isListMark, hopen, hclose, hcomma, hdepth, commasFrom] using hrest depth
    · have hsame := ih (position + 1) position' depth
      simpa [Marked.isListMark, hopen, hclose, hcomma, commasFrom] using hsame

theorem filter_isListMark_trimClause (hbody : Scanned body) :
    (scan (trimClause (body.map Prod.fst))).filter Marked.isListMark =
      body.filter Marked.isListMark := by
  obtain ⟨before, after, hsplit, hbefore, hafter⟩ := exists_scan_trimClause (body.map Prod.fst)
  rw [hbody] at hsplit
  have hbeforeNone : before.filter Marked.isListMark = [] := by
    rw [List.filter_eq_nil_iff]
    intro mark hmark
    simp [Marked.isListMark_of_hidden (.inl (hbefore mark hmark))]
  have hafterNone : after.filter Marked.isListMark = [] := by
    rw [List.filter_eq_nil_iff]
    intro mark hmark
    simp [Marked.isListMark_of_hidden (hafter mark hmark)]
  conv_rhs => rw [hsplit]
  rw [List.filter_append, List.filter_append, hbeforeNone, hafterNone, List.append_nil,
    List.nil_append]

theorem Rewritten.filter_eq (hp : Avoids p Swap) (h : Rewritten Swap marks marks') :
    marks.filter p = marks'.filter p := by
  have hnone : ∀ {piece : List Marked}, (∀ mark ∈ piece, p mark = false) → piece.filter p = [] := by
    intro piece hpiece
    rw [List.filter_eq_nil_iff]
    intro mark hmark
    simp [hpiece mark hmark]
  induction h with
  | nil => rfl
  | keep mark h ih => rw [List.filter_cons, List.filter_cons, ih]
  | swap hpiece h ih =>
    rw [List.filter_append, List.filter_append, hnone (hp.left _ _ hpiece).2,
      hnone (hp.right _ _ hpiece).2, ih]

theorem hasTopLevelComma_rewritten (hp : Avoids Marked.isListMark Swap)
    (h : Rewritten Swap body body') (hbody : Scanned body) (hbody' : Scanned body') :
    hasTopLevelComma (trimClause (body.map Prod.fst)) =
      hasTopLevelComma (trimClause (body'.map Prod.fst)) := by
  simp only [hasTopLevelComma, topLevelCommas]
  rw [isEmpty_commasFrom_filter 0 0 0, filter_isListMark_trimClause hbody, h.filter_eq hp,
    ← filter_isListMark_trimClause hbody', ← isEmpty_commasFrom_filter 0 0 0]

/-- Pieces without parentheses, commas and words of the code change nothing in the search for
commas between conditions. -/
theorem checkConditions_rewritten (hswap : Unnoticed Swap gap)
    (hp : Avoids Marked.isListMark Swap) (h : Rewritten Swap (scan text) (scan text'))
    (htight : ∀ name ∈ Clause.opening .condition :: Clause.boundaries .condition,
      Tight gap (Text.fields name) (scan text)) :
    Rule.checkConditions .lexical text = Rule.checkConditions .lexical text' := by
  have hclause := extractClause_rewritten _ _ hswap h htight
  simp only [Rule.checkConditions, ClauseReader.lexical]
  rcases hclause with ⟨hnone, hnone'⟩ | ⟨body, body', hbodies, hbody, hbody', hsome, hsome'⟩
  · rw [hnone, hnone']
  · rw [hsome, hsome']
    simp only [Option.bind_eq_bind, Option.bind_some,
      hasTopLevelComma_rewritten hp hbodies hbody hbody']

end QueryLint
