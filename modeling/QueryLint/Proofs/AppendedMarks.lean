import QueryLint.Proofs.ClauseBodies

/-!
Marks of no word around those of a statement or of a clause. They hold no part of a keyword, so the
keywords around which they stand are found as before; behind a statement they become a part of the
clauses that run to its end, and of no other.
-/

namespace QueryLint
namespace Keyword

variable {gap : Marked → Bool} {parts : List Text} {keyword : Text}
  {front middle after marks found left right tail : List Marked}

theorem Spells.exists_left (h : Spells gap parts found)
    (hsplit : front ++ marks = left ++ (found ++ right))
    (hfront : ∀ mark ∈ front, mark.isWord = false) :
    ∃ left', left = front ++ left' ∧ marks = left' ++ (found ++ right) := by
  rcases List.append_eq_append_iff.mp hsplit with ⟨left', hleft, hmarks⟩ | ⟨lead, rfl, hlead⟩
  · exact ⟨left', hleft, hmarks⟩
  · cases lead with
    | nil => exact ⟨[], by simp, hlead.symm⟩
    | cons mark lead =>
      have hword := h.head mark (by rw [hlead]; rfl)
      simp [hfront mark (by simp)] at hword

theorem Spells.exists_right (h : Spells gap parts found)
    (hsplit : marks ++ tail = left ++ (found ++ right))
    (htail : ∀ mark ∈ tail, mark.isWord = false) :
    ∃ right', right = right' ++ tail ∧ marks = left ++ (found ++ right') := by
  obtain ⟨init, last, rfl, hlast⟩ := h.exists_concat
  rw [← List.append_assoc left] at hsplit
  rcases List.append_eq_append_iff.mp hsplit with ⟨more, hmore, rfl⟩ | ⟨right', rfl, hright⟩
  · rcases List.eq_nil_or_concat' more with rfl | ⟨more, mark, rfl⟩
    · exact ⟨[], rfl, by simpa using hmore.symm⟩
    · -- the last mark of the keyword would be one of the others
      obtain rfl : last = mark := by
        have hends := congrArg List.getLast? hmore
        simpa using hends
      simp [htail last (by simp)] at hlast
  · exact ⟨right', hright, by simp⟩

theorem OccursWith.append_tail (h : OccursWith gap parts left found right)
    (htail : ∀ mark ∈ tail, mark.isWord = false) : OccursWith gap parts left found (right ++ tail) := by
  refine ⟨h.spells, h.fresh, fun mark hmark => ?_⟩
  cases right with
  | nil => exact htail mark (List.mem_of_mem_head? hmark)
  | cons other right => exact h.ends mark (by simpa using hmark)

theorem OccursWith.of_append_tail (h : OccursWith gap parts left found (right ++ tail)) :
    OccursWith gap parts left found right := by
  refine ⟨h.spells, h.fresh, fun mark hmark => h.ends mark ?_⟩
  rw [List.head?_append, Option.mem_def.mp hmark, Option.some_or]
  rfl

theorem absent_append_iff (htail : ∀ mark ∈ tail, mark.isWord = false) :
    Absent keyword (marks ++ tail) ↔ Absent keyword marks := by
  constructor
  · rintro h left found right rfl hoccurs
    exact h left found (right ++ tail) (by simp) (hoccurs.append_tail htail)
  · intro h left found right hsplit hoccurs
    obtain ⟨right, rfl, hmarks⟩ := hoccurs.spells.exists_right hsplit htail
    exact h left found right hmarks hoccurs.of_append_tail

theorem absent_append_left_iff (hfront : ∀ mark ∈ front, mark.isWord = false) :
    Absent keyword (front ++ marks) ↔ Absent keyword marks := by
  constructor
  · rintro h left found right rfl hoccurs
    refine h (front ++ left) found right (by simp) ⟨hoccurs.spells, fun mark hmark => ?_, hoccurs.ends⟩
    rcases List.eq_nil_or_concat' left with rfl | ⟨init, last, rfl⟩
    · exact hfront mark (List.mem_of_getLast? (by simpa using hmark))
    · exact hoccurs.fresh mark (by simpa using hmark)
  · intro h left found right hsplit hoccurs
    obtain ⟨left, rfl, hmarks⟩ := hoccurs.spells.exists_left hsplit hfront
    refine h left found right hmarks ⟨hoccurs.spells, fun mark hmark => ?_, hoccurs.ends⟩
    exact hoccurs.fresh mark (by rw [List.getLast?_append, Option.mem_def.mp hmark]; rfl)

theorem NoneBegins.append_after (h : NoneBegins parts middle after)
    (htail : ∀ mark ∈ tail, mark.isWord = false) : NoneBegins parts middle (after ++ tail) := by
  intro front back found rest hmiddle hback hsplit hoccurs
  have hall : (back ++ after) ++ tail = [] ++ (found ++ rest) := by
    rw [List.append_assoc, hsplit, List.nil_append]
  obtain ⟨rest, rfl, hbefore⟩ := hoccurs.spells.exists_right hall htail
  exact h front back found rest hmiddle hback hbefore hoccurs.of_append_tail

theorem NoneBegins.append_middle (h : NoneBegins parts middle [])
    (htail : ∀ mark ∈ tail, mark.isWord = false) : NoneBegins parts (middle ++ tail) [] := by
  intro front back found rest hmiddle hback hsplit hoccurs
  rw [List.append_nil] at hsplit
  subst hsplit
  obtain ⟨rest, rfl, rfl⟩ := hoccurs.spells.exists_right hmiddle htail
  obtain ⟨first, more, rfl, -⟩ := hoccurs.spells.exists_cons
  exact h front _ _ rest rfl (by simp) (List.append_nil _) hoccurs.of_append_tail

theorem FirstOccurs.append {before : List Marked} (h : FirstOccurs keyword before found after)
    (htail : ∀ mark ∈ tail, mark.isWord = false) :
    FirstOccurs keyword before found (after ++ tail) := by
  constructor
  · exact h.occurs.append_tail htail
  · rw [← List.append_assoc]
    exact h.leftmost.append_after htail

end Keyword

open Keyword

/-- Trimming a clause body takes no keyword away. -/
theorem absent_trimClause_iff {keyword : Text} (text : Text) :
    Absent keyword (scan (trimClause text)) ↔ Absent keyword (scan text) := by
  obtain ⟨before, after, hsplit, hbefore, hafter⟩ := exists_around_trimClause text
  rw [hsplit, absent_append_left_iff hbefore, absent_append_iff hafter]

namespace ClauseAt

variable {opening : Text} {boundaries : List Text} {before keyword body rest tail : List Marked}

theorem append_rest (h : ClauseAt opening boundaries before keyword body rest) (hrest : rest ≠ [])
    (htail : ∀ mark ∈ tail, mark.isWord = false) :
    ClauseAt opening boundaries before keyword body (rest ++ tail) := by
  refine ⟨?_, fun boundary hboundary => (h.free boundary hboundary).append_after htail, .inr ?_⟩
  · rw [← List.append_assoc]
    exact h.first.append htail
  · obtain ⟨boundary, hboundary, found, after, rfl, hoccurs⟩ := h.stops.resolve_left hrest
    exact ⟨boundary, hboundary, found, after ++ tail, by simp, hoccurs.append_tail htail⟩

/-- A clause that runs to the end of a statement runs to the end of a longer one. -/
theorem append_body (h : ClauseAt opening boundaries before keyword body [])
    (htail : ∀ mark ∈ tail, mark.isWord = false) :
    ClauseAt opening boundaries before keyword (body ++ tail) [] := by
  refine ⟨?_, fun boundary hboundary => (h.free boundary hboundary).append_middle htail, .inl rfl⟩
  have hfirst := h.first.append htail
  rwa [List.append_nil] at hfirst ⊢

end ClauseAt

end QueryLint
