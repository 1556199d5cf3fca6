import QueryLint.Proofs.ClauseBodies
import QueryLint.Proofs.KeywordWords

/-!
Marks that are put into those of a statement, in front of a mark that belongs to no word. They
change no clause that ends before them, and the clause in whose body they stand goes on to the same
boundary, as long as they hold no word of its boundaries.
-/

namespace QueryLint
namespace Keyword

variable {part opening boundary : Text} {parts parts' boundaries : List Text}
  {before keyword body rest front middle found back after after' more : List Marked} {offset : Nat}

theorem Spells.length_runs (h : Spells Marked.isBlank parts found) (offset : Nat) :
    (runs offset found).length = parts.length := by
  induction h generalizing offset with
  | @last part word hword =>
    have hnone : ∀ mark ∈ ([] : List Marked).head?, mark.isWord = false := by simp
    rw [← List.append_nil word, runs_word_append offset hword.ne_nil hword.isWord hnone]
    rfl
  | @next part parts word space rest hword hne hspace hrest ih =>
    rw [runs_word_append offset hword.ne_nil hword.isWord (separates_isBlank.head hne hspace),
      runs_append_of_not_word _ fun mark hmark => Marked.isWord_of_isBlank (hspace mark hmark),
      List.length_cons, ih, List.length_cons]

theorem runs_ne_nil (h : ∃ mark ∈ front.head?, mark.isWord) (offset : Nat) : runs offset front ≠ [] := by
  obtain ⟨word, rest, rfl, hne, hword, hrest⟩ := exists_word_of_head h
  rw [runs_word_append offset hne hword hrest]
  exact List.cons_ne_nil _ _

/-- What spells a keyword, and begins before another one with at least as many words, goes on behind
that one only in the middle of a word. -/
theorem Spells.not_beyond (h : Spells Marked.isBlank parts (back ++ (found ++ more)))
    (hspells : Spells Marked.isBlank parts' found) (hlength : parts.length ≤ parts'.length)
    (hne : back ≠ []) (hfresh : ∀ mark ∈ back.getLast?, mark.isWord = false) :
    ∃ mark ∈ more.head?, mark.isWord := by
  by_contra hnone
  have hends : ∀ mark ∈ more.head?, mark.isWord = false := by
    intro mark hmark
    by_contra hword
    exact hnone ⟨mark, hmark, by simpa using hword⟩
  -- otherwise there is a word before the words of the other keyword
  have hbegins : ∃ mark ∈ back.head?, mark.isWord := by
    obtain ⟨first, marks, hcons, hfirst⟩ := h.exists_cons
    refine ⟨first, ?_, hfirst⟩
    rw [← List.head?_append_of_ne_nil _ hne, hcons]
    rfl
  have hwords := h.length_runs 0
  rw [runs_append 0 (.inl hfresh), runs_append _ (.inr hends), List.length_append,
    List.length_append, hspells.length_runs] at hwords
  have := List.length_pos_iff.mpr (runs_ne_nil hbegins 0)
  omega

/-- No occurrence begins before a keyword because of what stands behind the keyword. -/
theorem NoneBegins.of_after (h : NoneBegins parts middle (found ++ after))
    (hspells : Spells Marked.isBlank parts' found) (hlength : parts.length ≤ parts'.length)
    (hfresh : ∀ mark ∈ middle.getLast?, mark.isWord = false)
    (hends : ∀ mark ∈ after.head?, mark.isWord = false)
    (hends' : ∀ mark ∈ after'.head?, mark.isWord = false) :
    NoneBegins parts middle (found ++ after') := by
  rintro front back other rest rfl hback hsplit hoccurs
  rw [← List.append_assoc] at hsplit
  rcases List.append_eq_append_iff.mp hsplit with ⟨more, rfl, rfl⟩ | ⟨more, hother, rfl⟩
  · have hlonger := hoccurs.spells
    rw [List.append_assoc] at hlonger
    rw [List.getLast?_append_of_ne_nil _ hback] at hfresh
    obtain ⟨mark, hmark, hword⟩ := hlonger.not_beyond hspells hlength hback hfresh
    have hnot := hends' mark (by simp [List.head?_append, Option.mem_def.mp hmark])
    simp [hword] at hnot
  · refine h front back other (more ++ after) rfl hback ?_ ⟨hoccurs.spells, hoccurs.fresh, ?_⟩
    · rw [← List.append_assoc, hother, List.append_assoc]
    · cases more with
      | nil => exact hends
      | cons mark more => exact hoccurs.ends

theorem FirstOccurs.of_after (h : FirstOccurs opening before keyword after)
    (hends' : ∀ mark ∈ after'.head?, mark.isWord = false) :
    FirstOccurs opening before keyword after' :=
  ⟨⟨h.occurs.spells, h.occurs.fresh, hends'⟩, h.leftmost.of_after h.occurs.spells (Nat.le_refl _)
    h.occurs.fresh h.occurs.ends hends'⟩

namespace NoWord

variable (h : NoWord part (front ++ back)) (hback : ∀ mark ∈ back.head?, mark.isWord = false)
include h hback

theorem left : NoWord part front := by
  rintro before word after rfl hoccurs
  refine h before word (after ++ back) (by simp) ⟨hoccurs.spells, hoccurs.fresh, ?_⟩
  cases after with
  | nil => exact hback
  | cons mark after => exact hoccurs.ends

theorem right : NoWord part back := by
  rintro before word after rfl hoccurs
  have hne := hoccurs.ne_nil_of_head hback
  exact h (front ++ before) word after (by simp) ((occursWith_append_iff hne).mpr hoccurs)

theorem insert (hmore : NoWord part more) (hhead : ∀ mark ∈ more.head?, mark.isWord = false) :
    NoWord part (front ++ (more ++ back)) := by
  refine (h.left hback).append (hmore.append (h.right hback) (.inr hback)) (.inr ?_)
  cases more with
  | nil => exact hback
  | cons mark more => exact hhead

end NoWord

theorem SpellsWord.exists_before {front' : List Marked} (h : SpellsWord part found)
    (hsplit : front ++ (found ++ back) = front' ++ after) (hlt : front.length < front'.length)
    (hafter : ∀ mark ∈ after.head?, mark.isWord = false) :
    ∃ middle, front' = front ++ (found ++ middle) ∧ back = middle ++ after := by
  rcases List.append_eq_append_iff.mp hsplit with ⟨lead, rfl, hlead⟩ | ⟨lead, rfl, -⟩
  · rcases List.append_eq_append_iff.mp hlead with ⟨middle, rfl, rfl⟩ | ⟨more, rfl, rfl⟩
    · exact ⟨middle, rfl, rfl⟩
    · cases more with
      | nil => exact ⟨[], by simp, rfl⟩
      | cons mark more =>
        have hnot := hafter mark rfl
        simp [h.isWord mark (by simp)] at hnot
  · rw [List.length_append] at hlt
    omega

end Keyword

open Keyword

namespace ClauseAt

variable {opening boundary : Text} {boundaries : List Text}
  {before keyword body rest front found back after after' more : List Marked}

theorem of_after (h : ClauseAt opening boundaries before keyword body (found ++ after))
    (hboundary : boundary ∈ boundaries) (hfound : Occurs boundary body found after)
    (hlength : ∀ name ∈ boundaries, (Text.fields name).length ≤ (Text.fields boundary).length)
    (hends' : ∀ mark ∈ after'.head?, mark.isWord = false) :
    ClauseAt opening boundaries before keyword body (found ++ after') := by
  obtain ⟨first, marks, rfl, hfirst⟩ := hfound.spells.exists_cons
  constructor
  · refine h.first.of_after fun mark hmark => h.first.occurs.ends mark ?_
    cases body with
    | nil => exact hmark
    | cons other body => exact hmark
  · exact fun name hname => (h.free name hname).of_after hfound.spells (hlength name hname)
      hfound.fresh hfound.ends hends'
  · exact .inr ⟨boundary, hboundary, _, after', rfl, hfound.spells, hfound.fresh, hends'⟩

theorem noWord_body (h : ClauseAt opening boundaries before keyword body rest)
    (hboundary : boundary ∈ boundaries) {part : Text} (hpart : Text.fields boundary = [part]) :
    NoWord part body := by
  have hbody : body = [] ++ (body ++ []) := by simp
  have habsent := h.absent_of_middle hbody (by simp) (by simp) hboundary
  intro before word after hsplit hoccurs
  apply habsent before word after hsplit
  rwa [Occurs, hpart]

/-- A clause whose boundaries are words goes on to the same boundary when marks without these words
are put into its body. -/
theorem insert (h : ClauseAt opening boundaries before keyword (front ++ back) rest)
    (hne : front ≠ []) (hafter : ∀ mark ∈ (back ++ rest).head?, mark.isWord = false)
    (hhead : ∀ mark ∈ more.head?, mark.isWord = false)
    (hmore : ∀ boundary ∈ boundaries, ∃ part, Text.fields boundary = [part] ∧ NoWord part more) :
    ClauseAt opening boundaries before keyword (front ++ (more ++ back)) rest := by
  have hback : ∀ mark ∈ back.head?, mark.isWord = false := by
    intro mark hmark
    exact hafter mark (by simp [List.head?_append, Option.mem_def.mp hmark])
  -- a boundary begins with a word, so it does not stand right behind `front`
  have hlast : rest = [] ∨ (front ++ (more ++ back)).getLast? = (front ++ back).getLast? := by
    refine h.stops.imp_right fun ⟨_, _, found, after, hrest, hoccurs⟩ => ?_
    have hbackNe : back ≠ [] := by
      rintro rfl
      obtain ⟨first, marks, rfl, hfirst⟩ := hoccurs.spells.exists_cons
      have hnot := hafter first (by simp [hrest])
      simp [hfirst] at hnot
    rw [← List.append_assoc, List.getLast?_append_of_ne_nil _ hbackNe,
      List.getLast?_append_of_ne_nil _ hbackNe]
  have hstops : rest = [] ∨ ∃ boundary ∈ boundaries, ∃ found after, rest = found ++ after ∧
      Occurs boundary (front ++ (more ++ back)) found after := by
    rcases hlast with hnil | hlast
    · exact .inl hnil
    · refine h.stops.imp_right fun ⟨boundary, hboundary, found, after, hrest, hoccurs⟩ => ?_
      exact ⟨boundary, hboundary, found, after, hrest, hoccurs.spells, hlast ▸ hoccurs.fresh,
        hoccurs.ends⟩
  have hapart : Apart (front ++ (more ++ back)) rest := by
    rcases hstops with rfl | ⟨_, _, found, after, -, hoccurs⟩
    · exact .inr (by simp)
    · exact .inl hoccurs.fresh
  refine ⟨h.first.of_after fun mark hmark => h.first.occurs.ends mark ?_, ?_, hstops⟩
  · simpa only [List.append_assoc, List.head?_append_of_ne_nil _ hne] using hmark
  · intro boundary hboundary
    obtain ⟨part, hpart, hwords⟩ := hmore boundary hboundary
    apply noneBegins_of_noWord _ hapart
    intro first hfirst
    obtain rfl : part = first := by simpa [hpart] using hfirst
    exact (h.noWord_body hboundary hpart).insert hback hwords hhead

end ClauseAt

/-- Marks that are put behind the boundary of a clause leave the clause as it is. -/
theorem extractClause_insert {text text' opening boundary part : Text} {clause : Span}
    {front back more : List Marked} (hpart : Text.fields boundary = [part])
    (hclause : clauseSpan? text opening [boundary] = some clause)
    (hscan : scan text = front ++ back) (hscan' : scan text' = front ++ (more ++ back))
    (hlt : clause.stop < front.length) (hback : ∀ mark ∈ back.head?, mark.isWord = false)
    (hmore : ∀ mark ∈ more.head?, mark.isWord = false) :
    extractClause text' opening [boundary] = extractClause text opening [boundary] := by
  rcases clauseSpan?_cases text opening [boundary] with
    ⟨hnone, -⟩ | ⟨before, keyword, body, rest, hsplit, hat, hspan⟩
  · rw [hnone] at hclause
    cases hclause
  obtain rfl := Option.some.inj (hspan.symm.trans hclause)
  rw [← List.length_append, List.append_assoc] at hlt
  rcases hat.stops with rfl | ⟨name, hname, found, after, rfl, hfound⟩
  · have hlength := congrArg List.length (hscan.symm.trans hsplit)
    simp only [List.length_append, List.length_nil] at hlength hlt
    omega
  obtain rfl : boundary = name := (List.mem_singleton.mp hname).symm
  have hword : SpellsWord part found := by
    have hspells := hfound.spells
    rw [hpart] at hspells
    exact hspells.spellsWord
  have hends : ∀ mark ∈ (more ++ back).head?, mark.isWord = false := by
    cases more with
    | nil => exact hback
    | cons mark more => exact hmore
  have hmarks : (before ++ (keyword ++ body)) ++ (found ++ after) = front ++ back := by
    rw [← hscan, hsplit]
    simp
  obtain ⟨middle, rfl, rfl⟩ := hword.exists_before hmarks hlt hback
  have hat' : ClauseAt opening [boundary] before keyword body
      (found ++ (middle ++ (more ++ back))) := by
    apply hat.of_after hname hfound (by simp)
    cases middle with
    | nil => exact hends
    | cons mark middle => exact hfound.ends
  have hsplit' : scan text' =
      before ++ (keyword ++ (body ++ (found ++ (middle ++ (more ++ back))))) := by
    rw [hscan']
    simp
  rw [extractClause_eq_some hsplit hat, extractClause_eq_some hsplit' hat']

end QueryLint
