import QueryLint.Proofs.ClauseBodies

/-!
Marks that differ in pieces in which no word stands. Keywords stand in the same places of both
lists, as long as no piece opens or closes the gap between two words of a keyword; so the bodies
of clauses differ in such pieces only.
-/

namespace QueryLint

open Keyword

/-- Two lists of marks that are the same but for pieces that `Swap` relates. -/
inductive Rewritten (Swap : List Marked → List Marked → Prop) :
    List Marked → List Marked → Prop
  | nil : Rewritten Swap [] []
  | keep (mark : Marked) {marks marks' : List Marked} (h : Rewritten Swap marks marks') :
      Rewritten Swap (mark :: marks) (mark :: marks')
  | swap {piece piece' marks marks' : List Marked} (hpiece : Swap piece piece')
      (h : Rewritten Swap marks marks') : Rewritten Swap (piece ++ marks) (piece' ++ marks')

/-- The pieces on the left are not empty, and none of their marks satisfies `p`. -/
def Misses (p : Marked → Bool) (Swap : List Marked → List Marked → Prop) : Prop :=
  ∀ piece piece', Swap piece piece' → piece ≠ [] ∧ ∀ mark ∈ piece, p mark = false

/-- No piece is empty or holds a mark that satisfies `p`. -/
structure Avoids (p : Marked → Bool) (Swap : List Marked → List Marked → Prop) : Prop where
  left : Misses p Swap
  right : Misses p (flip Swap)

/-- What `gap` allows on the left, `gap'` allows on the right. -/
structure Carries (Swap : List Marked → List Marked → Prop) (gap gap' : Marked → Bool) : Prop where
  keep : ∀ mark, gap mark → gap' mark
  swap : ∀ piece piece', Swap piece piece' → (∀ mark ∈ piece, gap mark) →
    ∀ mark ∈ piece', gap' mark

variable {Swap : List Marked → List Marked → Prop} {p : Marked → Bool} {gap gap' : Marked → Bool}
  {marks marks' front back : List Marked} {parts : List Text}

theorem Avoids.flip (hp : Avoids p Swap) : Avoids p (flip Swap) := ⟨hp.right, hp.left⟩

namespace Rewritten

theorem refl (marks : List Marked) : Rewritten Swap marks marks := by
  induction marks with
  | nil => exact .nil
  | cons mark marks ih => exact .keep mark ih

theorem append {more more' : List Marked} (h : Rewritten Swap marks marks')
    (hmore : Rewritten Swap more more') : Rewritten Swap (marks ++ more) (marks' ++ more') := by
  induction h with
  | nil => exact hmore
  | keep mark _ ih => exact .keep mark ih
  | swap hpiece _ ih =>
    rw [List.append_assoc, List.append_assoc]
    exact .swap hpiece ih

theorem symm (h : Rewritten Swap marks marks') : Rewritten (flip Swap) marks' marks := by
  induction h with
  | nil => exact .nil
  | keep mark _ ih => exact .keep mark ih
  | swap hpiece _ ih => exact .swap hpiece ih

/-- A list can be split where no piece goes on across the seam. -/
theorem split (h : Rewritten Swap (front ++ back) marks')
    (hseam : ∀ left right piece', Swap (left ++ right) piece' → left ≠ [] → right ≠ [] →
      left <:+ front → ¬right <+: back) :
    ∃ front' back', marks' = front' ++ back' ∧ Rewritten Swap front front' ∧
      Rewritten Swap back back' := by
  generalize hmarks : front ++ back = marks at h
  induction h generalizing front with
  | nil =>
    obtain ⟨rfl, rfl⟩ := List.append_eq_nil_iff.mp hmarks
    exact ⟨[], [], rfl, .nil, .nil⟩
  | keep mark h ih =>
    cases front with
    | nil =>
      obtain rfl : back = _ := hmarks
      exact ⟨[], _, rfl, .nil, .keep mark h⟩
    | cons first front =>
      obtain ⟨rfl, hrest⟩ := List.cons.inj hmarks
      obtain ⟨front', back', rfl, hfront, hback⟩ := ih
        (fun left right piece' hpiece hleft hright hback =>
          hseam left right piece' hpiece hleft hright (hback.trans (List.suffix_cons first front)))
        hrest
      exact ⟨first :: front', back', rfl, .keep first hfront, hback⟩
  | @swap piece piece' marks marks' hpiece h ih =>
    rcases List.append_eq_append_iff.mp hmarks with ⟨right, rfl, rfl⟩ | ⟨front, rfl, rfl⟩
    · by_cases hfront : front = []
      · subst hfront
        exact ⟨[], _, rfl, .nil, .swap hpiece h⟩
      by_cases hright : right = []
      · subst hright
        rw [List.append_nil] at hpiece
        exact ⟨piece', marks', rfl, by simpa using Rewritten.swap hpiece .nil, by simpa using h⟩
      · exact absurd (List.prefix_append right marks)
          (hseam front right piece' hpiece hfront hright (List.suffix_refl front))
    · obtain ⟨front', back', rfl, hfront, hback⟩ := ih
        (fun left right piece' hpiece hleft hright hback =>
          hseam left right piece' hpiece hleft hright (hback.trans (List.suffix_append _ _))) rfl
      exact ⟨piece' ++ front', back', by rw [List.append_assoc], .swap hpiece hfront, hback⟩

theorem split_of_misses (hp : Misses p Swap) (h : Rewritten Swap (front ++ back) marks')
    (hseam : (∀ mark ∈ front.getLast?, p mark) ∨ ∀ mark ∈ back.head?, p mark) :
    ∃ front' back', marks' = front' ++ back' ∧ Rewritten Swap front front' ∧
      Rewritten Swap back back' := by
  refine h.split fun left right piece' hpiece hleft hright hback hfront => ?_
  have havoids := (hp _ _ hpiece).2
  rcases hseam with hlast | hhead
  · obtain ⟨init, last, rfl⟩ := (List.eq_nil_or_concat' left).resolve_left hleft
    obtain ⟨more, rfl⟩ := hback
    have hnot := havoids last (by simp)
    simp [hlast last (by simp)] at hnot
  · obtain ⟨first, rest, rfl⟩ := List.exists_cons_of_ne_nil hright
    obtain ⟨more, rfl⟩ := hfront
    have hnot := havoids first (by simp)
    simp [hhead first (by simp)] at hnot

theorem eq_of_none (h : Rewritten Swap marks marks')
    (hnone : ∀ piece piece', Swap piece piece' → ¬piece <:+: marks) : marks' = marks := by
  induction h with
  | nil => rfl
  | keep mark h ih =>
    rw [ih fun piece piece' hpiece hwithin =>
      hnone piece piece' hpiece (hwithin.trans (List.suffix_cons mark _).isInfix)]
  | swap hpiece h ih => exact absurd (List.prefix_append _ _).isInfix (hnone _ _ hpiece)

theorem eq_of_forall (hp : Misses p Swap) (h : Rewritten Swap marks marks')
    (hmarks : ∀ mark ∈ marks, p mark) : marks' = marks := by
  refine h.eq_of_none fun piece piece' hpiece hwithin => ?_
  obtain ⟨hne, hpieceMarks⟩ := hp _ _ hpiece
  obtain ⟨mark, rest, rfl⟩ := List.exists_cons_of_ne_nil hne
  have hnot := hpieceMarks mark List.mem_cons_self
  simp [hmarks mark (hwithin.subset List.mem_cons_self)] at hnot

theorem ne_nil (hp : Misses p (flip Swap)) (h : Rewritten Swap marks marks') (hne : marks ≠ []) :
    marks' ≠ [] := by
  cases h with
  | nil => exact absurd rfl hne
  | keep mark h => exact List.cons_ne_nil mark _
  | swap hpiece h => simp [(hp _ _ hpiece).1]

theorem head (hp : Misses p (flip Swap)) (h : Rewritten Swap marks marks')
    (hhead : ∀ mark ∈ marks.head?, p mark = false) : ∀ mark ∈ marks'.head?, p mark = false := by
  cases h with
  | nil => simp
  | keep mark h => exact hhead
  | swap hpiece h =>
    obtain ⟨hne, hmarks⟩ := hp _ _ hpiece
    obtain ⟨first, rest, rfl⟩ := List.exists_cons_of_ne_nil hne
    intro mark hmark
    obtain rfl : first = mark := by simpa using hmark
    exact hmarks first List.mem_cons_self

theorem exists_cons {mark : Marked} (hp : Misses p Swap) (hmark : p mark)
    (h : Rewritten Swap (mark :: marks) marks') : ∃ more, marks' = mark :: more := by
  have hfirst : Rewritten Swap ([mark] ++ marks) marks' := h
  obtain ⟨first', more', rfl, hkept, -⟩ := hfirst.split_of_misses hp (.inl (by simpa))
  rw [hkept.eq_of_forall hp (by simpa)]
  exact ⟨more', rfl⟩

theorem exists_concat {mark : Marked} (hp : Misses p Swap) (hmark : p mark)
    (h : Rewritten Swap (marks ++ [mark]) marks') : ∃ init, marks' = init ++ [mark] := by
  obtain ⟨init', last', rfl, -, hkept⟩ := h.split_of_misses hp (.inr (by simpa))
  rw [hkept.eq_of_forall hp (by simpa)]
  exact ⟨init', rfl⟩

theorem last (hp : Misses p (flip Swap)) (h : Rewritten Swap marks marks')
    (hlast : ∀ mark ∈ marks.getLast?, p mark = false) :
    ∀ mark ∈ marks'.getLast?, p mark = false := by
  intro mark hmark
  by_contra hkept
  obtain ⟨init', rfl⟩ := List.getLast?_eq_some_iff.mp hmark
  obtain ⟨init, rfl⟩ := h.symm.exists_concat hp (by simpa using hkept)
  exact hkept (hlast mark (by simp))

theorem forall_gap (hgap : Carries Swap gap gap') (h : Rewritten Swap marks marks')
    (hmarks : ∀ mark ∈ marks, gap mark) : ∀ mark ∈ marks', gap' mark := by
  induction h with
  | nil => simp
  | keep mark h ih =>
    obtain ⟨hmark, hrest⟩ := List.forall_mem_cons.mp hmarks
    exact List.forall_mem_cons.mpr ⟨hgap.keep mark hmark, ih hrest⟩
  | swap hpiece h ih =>
    obtain ⟨hpieceMarks, hrest⟩ := List.forall_mem_append.mp hmarks
    exact List.forall_mem_append.mpr ⟨hgap.swap _ _ hpiece hpieceMarks, ih hrest⟩

/-- What spells a keyword still does, when the gaps between the words may have changed. -/
theorem spells (hw : Avoids Marked.isWord Swap) (hgap : Carries Swap gap gap')
    (h : Rewritten Swap marks marks') (hspells : Spells gap parts marks) :
    Spells gap' parts marks' := by
  induction hspells generalizing marks' with
  | last hword =>
    rw [h.eq_of_forall hw.left hword.isWord]
    exact .last hword
  | @next part parts word space rest hword hne hspace hrest ih =>
    obtain ⟨word', more', rfl, hwords, hmore⟩ := h.split_of_misses hw.left
      (.inl fun mark hmark => hword.isWord mark (List.mem_of_getLast? hmark))
    have hhead : ∀ mark ∈ (rest ++ []).head?, mark.isWord := hrest.head
    rw [List.append_nil] at hhead
    obtain ⟨space', rest', rfl, hspaces, hrests⟩ := hmore.split_of_misses hw.left (.inr hhead)
    rw [hwords.eq_of_forall hw.left hword.isWord]
    exact .next hword (hspaces.ne_nil hw.right hne) (hspaces.forall_gap hgap hspace) (ih hrests)

section Occurrences

variable {before before' found found' after after' middle middle' : List Marked}

theorem occursWith (hw : Avoids Marked.isWord Swap) (hgap : Carries Swap gap gap')
    (hbefore : Rewritten Swap before before') (hfound : Rewritten Swap found found')
    (hafter : Rewritten Swap after after') (h : OccursWith gap parts before found after) :
    OccursWith gap' parts before' found' after' :=
  ⟨hfound.spells hw hgap h.spells, hbefore.last hw.right h.fresh, hafter.head hw.right h.ends⟩

theorem split_spelled (hw : Avoids Marked.isWord Swap) (hspells : Spells gap parts found)
    (h : Rewritten Swap (found ++ after) marks') :
    ∃ found' after', marks' = found' ++ after' ∧ Rewritten Swap found found' ∧
      Rewritten Swap after after' := by
  obtain ⟨init, last, rfl, hlast⟩ := hspells.exists_concat
  refine h.split_of_misses hw.left (.inl fun mark hmark => ?_)
  obtain rfl : last = mark := by simpa using hmark
  exact hlast

theorem split_found (hw : Avoids Marked.isWord Swap) (hspells : Spells gap parts found)
    (h : Rewritten Swap (before ++ (found ++ after)) marks') :
    ∃ before' found' after', marks' = before' ++ (found' ++ after') ∧
      Rewritten Swap before before' ∧ Rewritten Swap found found' ∧ Rewritten Swap after after' := by
  obtain ⟨before', more', rfl, hbefore, hmore⟩ := h.split_of_misses hw.left (.inr hspells.head)
  obtain ⟨found', after', rfl, hfound, hafter⟩ := hmore.split_spelled hw hspells
  exact ⟨before', found', after', rfl, hbefore, hfound, hafter⟩

end Occurrences

end Rewritten

/-- Every occurrence of a keyword with gaps of the given kind has white space in these gaps. -/
def Tight (gap : Marked → Bool) (parts : List Text) (marks : List Marked) : Prop :=
  ∀ before found after, marks = before ++ (found ++ after) →
    OccursWith gap parts before found after → OccursWith Marked.isBlank parts before found after

theorem Tight.right (h : Tight gap parts (front ++ back))
    (hback : ∀ mark ∈ back.head?, mark.isWord = false) : Tight gap parts back := by
  rintro before found after rfl hoccurs
  have hne := hoccurs.ne_nil_of_head hback
  have hwhole := h (front ++ before) found after (by simp) ((occursWith_append_iff hne).mpr hoccurs)
  exact (occursWith_append_iff hne).mp hwhole

/-- Pieces that no keyword takes notice of: they hold no word, a piece on the left fills no gap
between the words of a keyword, and one on the right does so only in place of marks that `gap`
allows. -/
structure Unnoticed (Swap : List Marked → List Marked → Prop) (gap : Marked → Bool) : Prop where
  words : Avoids Marked.isWord Swap
  forward : Carries Swap Marked.isBlank Marked.isBlank
  backward : Carries (flip Swap) Marked.isBlank gap

namespace Rewritten

variable {before keyword body rest middle middle' after after' : List Marked} {opening : Text}
  {boundaries : List Text} {name : Text}

theorem noneBegins (hswap : Unnoticed Swap gap) (hmiddle : Rewritten Swap middle middle')
    (hafter : Rewritten Swap after after') (htight : Tight gap parts (middle ++ after))
    (h : NoneBegins parts middle after) : NoneBegins parts middle' after' := by
  intro front' back' found' rest' hfront hback hfound hoccurs
  have hw := hswap.words.flip
  have hhead : ∀ mark ∈ back'.head?, mark.isWord := by
    have hfoundHead : ∀ mark ∈ (found' ++ rest').head?, mark.isWord := hoccurs.spells.head
    rw [← hfound, List.head?_append_of_ne_nil _ hback] at hfoundHead
    exact hfoundHead
  subst hfront
  obtain ⟨front, back, rfl, hfronts, hbacks⟩ := hmiddle.symm.split_of_misses hw.left (.inr hhead)
  have hmore := hbacks.append hafter.symm
  rw [hfound] at hmore
  obtain ⟨found, rest, hsplit, hfounds, hrests⟩ := hmore.split_spelled hw hoccurs.spells
  have hloose := occursWith hw hswap.backward hfronts hfounds hrests hoccurs
  refine h front back found rest rfl (hbacks.ne_nil hw.right hback) hsplit ?_
  exact htight front found rest (by rw [List.append_assoc, hsplit]) hloose

theorem absent (hswap : Unnoticed Swap gap) (h : Rewritten Swap marks marks')
    (htight : Tight gap (Text.fields name) marks) (habsent : Absent name marks) :
    Absent name marks' := by
  rintro before' found' after' rfl hoccurs
  have hw := hswap.words.flip
  obtain ⟨before, found, after, rfl, hbefore, hfound, hafter⟩ :=
    h.symm.split_found hw hoccurs.spells
  have hloose := occursWith hw hswap.backward hbefore hfound hafter hoccurs
  exact habsent before found after rfl (htight before found after rfl hloose)

theorem clauseAt (hswap : Unnoticed Swap gap)
    (h : Rewritten Swap (before ++ (keyword ++ (body ++ rest))) marks')
    (htight : ∀ name ∈ opening :: boundaries,
      Tight gap (Text.fields name) (before ++ (keyword ++ (body ++ rest))))
    (hclause : ClauseAt opening boundaries before keyword body rest) :
    ∃ before' keyword' body' rest', marks' = before' ++ (keyword' ++ (body' ++ rest')) ∧
      Rewritten Swap body body' ∧ ClauseAt opening boundaries before' keyword' body' rest' := by
  have hw := hswap.words
  have hopens := hclause.first.occurs
  obtain ⟨before', keyword', after', rfl, hbefore, hkeyword, hafter⟩ :=
    h.split_found hw hopens.spells
  have hrestHead : ∀ mark ∈ rest.head?, mark.isWord := by
    rcases hclause.stops with rfl | ⟨boundary, -, found, more, rfl, hoccurs⟩
    · simp
    · exact hoccurs.spells.head
  obtain ⟨body', rest', rfl, hbody, hrest⟩ := hafter.split_of_misses hw.left (.inr hrestHead)
  obtain ⟨hopening, hboundaries⟩ := List.forall_mem_cons.mp htight
  refine ⟨before', keyword', body', rest', rfl, hbody, ⟨⟨?_, ?_⟩, ?_, ?_⟩⟩
  · exact occursWith hw hswap.forward hbefore hkeyword hafter hopens
  · exact noneBegins hswap hbefore (hkeyword.append hafter) hopening hclause.first.leftmost
  · intro boundary hboundary
    refine noneBegins hswap hbody hrest ?_ (hclause.free boundary hboundary)
    have hwhole := hboundaries boundary hboundary
    rw [← List.append_assoc] at hwhole
    exact hwhole.right hopens.ends
  · rcases hclause.stops with rfl | ⟨boundary, hboundary, found, more, rfl, hoccurs⟩
    · exact .inl (hrest.eq_of_forall hw.left (by simp))
    · obtain ⟨found', more', rfl, hfound, hmore⟩ := hrest.split_spelled hw hoccurs.spells
      exact .inr ⟨boundary, hboundary, found', more', rfl,
        occursWith hw hswap.forward hbody hfound hmore hoccurs⟩

end Rewritten

/-- The same clauses are found in two texts whose scans differ in unnoticed pieces, and their
bodies before trimming differ in such pieces only. -/
theorem extractClause_rewritten {text text' : Text} (opening : Text) (boundaries : List Text)
    (hswap : Unnoticed Swap gap) (h : Rewritten Swap (scan text) (scan text'))
    (htight : ∀ name ∈ opening :: boundaries, Tight gap (Text.fields name) (scan text)) :
    (extractClause text opening boundaries = none ∧ extractClause text' opening boundaries = none) ∨
      ∃ body body', Rewritten Swap body body' ∧ Scanned body ∧ Scanned body' ∧
        extractClause text opening boundaries = some (trimClause (body.map Prod.fst)) ∧
        extractClause text' opening boundaries = some (trimClause (body'.map Prod.fst)) := by
  rcases extractClause_cases text opening boundaries with
    ⟨hnone, habsent⟩ | ⟨before, keyword, body, rest, hsplit, hclause, hsome⟩
  · refine .inl ⟨hnone, extractClause_eq_none_iff.mpr ?_⟩
    exact h.absent hswap (htight opening List.mem_cons_self) habsent
  · rw [hsplit] at h htight
    obtain ⟨before', keyword', body', rest', hsplit', hbody, hclause'⟩ :=
      h.clauseAt hswap htight hclause
    refine .inr ⟨body, body', hbody, ?_, ?_, hsome, extractClause_eq_some hsplit' hclause'⟩
    · exact hclause.scanned_body (hsplit ▸ scanned_scan text)
    · exact hclause'.scanned_body (hsplit' ▸ scanned_scan text')

end QueryLint
