import Mathlib.Data.List.DropRight
import QueryLint.Clause
import QueryLint.Proofs.ScanParts
import QueryLint.Proofs.Trimming
import QueryLint.Proofs.WordList

/-!
What trimming a clause body leaves: the marks from the first visible one to the last, and of these
the ones before the semicolons at the end, without the white space that then stands last. The marks
that are left are the scan of the text that is left.
-/

namespace QueryLint

/-- Marks in three parts, of which the middle one runs from the first visible mark to the last. -/
structure VisibleWithin (before middle after : List Marked) : Prop where
  before : ∀ mark ∈ before, mark.isVisible = false
  first : ∀ mark ∈ middle.head?, mark.isVisible
  last : ∀ mark ∈ middle.getLast?, mark.isVisible
  after : ∀ mark ∈ after, mark.isVisible = false

theorem exists_visibleWithin (marks : List Marked) :
    ∃ before middle after, marks = before ++ (middle ++ after) ∧
      VisibleWithin before middle after := by
  set hidden : Marked → Bool := fun mark => !mark.isVisible with hhidden
  set rest := marks.dropWhile hidden with hrest
  have hmiddle : rest.rdropWhile hidden ++ rest.rtakeWhile hidden = rest :=
    List.rdropWhile_append_rtakeWhile
  refine ⟨marks.takeWhile hidden, rest.rdropWhile hidden, rest.rtakeWhile hidden, ?_, ?_, ?_, ?_, ?_⟩
  · rw [hmiddle, hrest, List.takeWhile_append_dropWhile]
  · intro mark hmark
    simpa [hhidden] using List.mem_takeWhile_imp hmark
  · intro mark hmark
    -- the middle part begins where the rest does
    have hhead : rest.head? = some mark := by
      rw [← hmiddle, List.head?_append, Option.mem_def.mp hmark, Option.some_or]
    have hvisible := List.head?_dropWhile_not hidden marks
    rw [← hrest, hhead] at hvisible
    simpa [hhidden] using hvisible
  · intro mark hmark
    obtain ⟨hne, rfl⟩ := List.mem_getLast?_eq_getLast hmark
    simpa [hhidden] using List.rdropWhile_last_not hidden rest hne
  · intro mark hmark
    simpa [hhidden] using List.mem_rtakeWhile_imp hmark

section TrimCode

variable {text : Text} {before middle after : List Marked}

theorem visibleSpan_of_visibleWithin (h : scan text = before ++ (middle ++ after))
    (hvisible : VisibleWithin before middle after) (hne : middle ≠ []) :
    visibleSpan text = ⟨before.length, before.length + middle.length⟩ := by
  have hbefore : before.findIdx? Marked.isVisible = none :=
    List.findIdx?_eq_none_iff.mpr hvisible.before
  have hafter : after.reverse.findIdx? Marked.isVisible = none := by
    rw [List.findIdx?_eq_none_iff]
    intro mark hmark
    exact hvisible.after mark (List.mem_reverse.mp hmark)
  obtain ⟨first, more, hfirst⟩ := List.exists_cons_of_ne_nil hne
  obtain ⟨init, last, rfl⟩ := (List.eq_nil_or_concat' middle).resolve_left hne
  have hfirstVisible : first.isVisible := hvisible.first first (by rw [hfirst]; rfl)
  have hlastVisible : last.isVisible := hvisible.last last (by simp)
  have hfront : (scan text).findIdx? Marked.isVisible = some before.length := by
    rw [h, hfirst, List.findIdx?_append, hbefore]
    simp [List.findIdx?_cons, hfirstVisible]
  have hback : (scan text).reverse.findIdx? Marked.isVisible = some after.length := by
    rw [h, List.reverse_append, List.reverse_append, List.append_assoc, List.findIdx?_append,
      hafter]
    simp [List.findIdx?_cons, hlastVisible]
  rw [visibleSpan_eq, hfront, hback]
  simp only [Span.mk.injEq, true_and]
  rw [← length_scan, h]
  simp only [List.length_append]
  omega

theorem visibleSpan_of_hidden (h : ∀ mark ∈ scan text, mark.isVisible = false) :
    visibleSpan text = ⟨0, 0⟩ := by
  have hnone : (scan text).findIdx? Marked.isVisible = none := List.findIdx?_eq_none_iff.mpr h
  rw [visibleSpan_eq, hnone]

theorem trimCode_eq (h : scan text = before ++ (middle ++ after))
    (hvisible : VisibleWithin before middle after) : trimCode text = middle.map Prod.fst := by
  by_cases hne : middle = []
  · have hhidden : ∀ mark ∈ scan text, mark.isVisible = false := by
      intro mark hmark
      simp only [h, hne, List.nil_append, List.mem_append] at hmark
      exact hmark.elim (hvisible.before mark) (hvisible.after mark)
    rw [trimCode, visibleSpan_of_hidden hhidden, hne]
    rfl
  · have htext : text = before.map Prod.fst ++ (middle.map Prod.fst ++ after.map Prod.fst) := by
      rw [← Scan.map_fst_scan text, h, List.map_append, List.map_append]
    rw [trimCode, visibleSpan_of_visibleWithin h hvisible hne, htext]
    simpa using Text.slice_append (before.map Prod.fst) (middle.map Prod.fst) (after.map Prod.fst)

theorem VisibleWithin.scanned (hvisible : VisibleWithin before middle after)
    (h : Scanned (before ++ (middle ++ after))) : Scanned middle := by
  cases middle with
  | nil => rfl
  | cons mark more =>
    have hright := h.right_of_hidden hvisible.before (hvisible.first mark rfl)
    exact hright.left_of_last fun last hlast =>
      Marked.ne_comment_of_isVisible (hvisible.last last hlast)

theorem scan_trimCode (h : scan text = before ++ (middle ++ after))
    (hvisible : VisibleWithin before middle after) : scan (trimCode text) = middle := by
  rw [trimCode_eq h hvisible]
  exact hvisible.scanned (h ▸ scanned_scan text)

end TrimCode

/-- Of the visible part of a clause body, trimming cuts the semicolons at its end, and the white
space before them. -/
theorem trimClause_eq_trimEnd {text : Text} {before core cut after : List Marked}
    (h : scan text = before ++ ((core ++ cut) ++ after))
    (hvisible : VisibleWithin before (core ++ cut) after) (hcut : ∀ mark ∈ cut, mark.1 = ';')
    (hcore : ∀ mark ∈ core.getLast?, mark.1 ≠ ';') :
    trimClause text = Text.trimEnd (core.map Prod.fst) := by
  rw [trimClause, trimCode_eq h hvisible, Text.dropWhileEnd, List.map_append, List.reverse_append,
    List.dropWhile_append_of_pos]
  · rcases List.eq_nil_or_concat' core with rfl | ⟨init, last, rfl⟩
    · rfl
    · have hlast : last.1 ≠ ';' := hcore last (by simp)
      simp [hlast]
  · intro c hc
    obtain ⟨mark, hmark, rfl⟩ := List.mem_map.mp (List.mem_reverse.mp hc)
    simpa using hcut mark hmark

theorem exists_core (marks : List Marked) :
    ∃ before core cut after, marks = before ++ ((core ++ cut) ++ after) ∧
      VisibleWithin before (core ++ cut) after ∧ (∀ mark ∈ cut, mark.1 = ';') ∧
      ∀ mark ∈ core.getLast?, mark.1 ≠ ';' := by
  obtain ⟨before, middle, after, hsplit, hvisible⟩ := exists_visibleWithin marks
  set isCut : Marked → Bool := fun mark => mark.1 = ';' with hisCut
  have hmiddle : middle.rdropWhile isCut ++ middle.rtakeWhile isCut = middle :=
    List.rdropWhile_append_rtakeWhile
  refine ⟨before, middle.rdropWhile isCut, middle.rtakeWhile isCut, after, ?_, ?_, ?_, ?_⟩
  · rw [hmiddle, hsplit]
  · rwa [hmiddle]
  · intro mark hmark
    simpa [hisCut] using List.mem_rtakeWhile_imp hmark
  · intro mark hmark
    obtain ⟨hne, rfl⟩ := List.mem_getLast?_eq_getLast hmark
    simpa [hisCut] using List.rdropWhile_last_not isCut middle hne

theorem trimEnd_blanks {kept blanks : List Marked}
    (hlast : ∀ mark ∈ kept.getLast?, mark.isBlank = false) (hblanks : ∀ mark ∈ blanks, mark.isBlank) :
    Text.trimEnd ((kept ++ blanks).map Prod.fst) = kept.map Prod.fst := by
  have hback : ∀ c ∈ (blanks.map Prod.fst).reverse, Text.isBlank c := by
    intro c hc
    obtain ⟨mark, hmark, rfl⟩ := List.mem_map.mp (List.mem_reverse.mp hc)
    exact hblanks mark hmark
  rw [Text.trimEnd, Text.dropWhileEnd, List.map_append, List.reverse_append,
    List.dropWhile_append_of_pos hback]
  rcases List.eq_nil_or_concat' kept with rfl | ⟨init, last, rfl⟩
  · rfl
  · have hvisible : Text.isBlank last.1 = false := hlast last (by simp)
    simp [hvisible]

theorem trimClause_eq {text : Text} {before middle after : List Marked}
    (h : scan text = before ++ (middle ++ after)) (hvisible : VisibleWithin before middle after)
    (hlast : ∀ mark ∈ middle.getLast?, mark.1 ≠ ';') : trimClause text = middle.map Prod.fst := by
  have hblank : ∀ mark ∈ middle.getLast?, mark.isBlank = false := fun mark hmark =>
    Marked.isBlank_of_isVisible (hvisible.last mark hmark)
  have htrim := trimEnd_blanks hblank (List.forall_mem_nil _)
  rw [List.append_nil] at htrim
  rw [← List.append_nil middle] at h hvisible
  rw [trimClause_eq_trimEnd h hvisible (List.forall_mem_nil _) hlast, htrim]

/-- The marks of a trimmed clause body together with the white space that was cut off last. -/
structure CoreOf (result : Text) (core : List Marked) : Prop where
  scanned : Scanned core
  trimmed : Text.trimEnd (core.map Prod.fst) = result

theorem CoreOf.of_visible {before core cut after : List Marked}
    (h : Scanned (before ++ ((core ++ cut) ++ after)))
    (hvisible : VisibleWithin before (core ++ cut) after) (hcut : ∀ mark ∈ cut, mark.1 = ';')
    (hlast : ∀ mark ∈ core.getLast?, mark.1 ≠ ';') :
    CoreOf (trimClause ((before ++ ((core ++ cut) ++ after)).map Prod.fst)) core := by
  refine ⟨(hvisible.scanned h).left_of_head fun mark hmark => ?_, ?_⟩
  · simp [hcut mark (List.mem_of_mem_head? hmark)]
  · rw [trimClause_eq_trimEnd h hvisible hcut hlast]

theorem CoreOf.exists_blanks {result : Text} {core : List Marked} (h : CoreOf result core) :
    ∃ blanks, core = scan result ++ blanks ∧ ∀ mark ∈ blanks, mark.isBlank := by
  have hchars : result ++ (core.map Prod.fst).rtakeWhile Text.isBlank = core.map Prod.fst := by
    rw [← h.trimmed]
    exact List.rdropWhile_append_rtakeWhile
  obtain ⟨kept, blanks, rfl, hkept, hblanks⟩ := List.map_eq_append_iff.mp hchars.symm
  have hblank : ∀ mark : Marked, mark ∈ blanks → mark.isBlank := by
    intro mark hmark
    have hc : mark.1 ∈ blanks.map Prod.fst := List.mem_map_of_mem hmark
    rw [hblanks] at hc
    have hblank : Text.isBlank mark.1 := List.mem_rtakeWhile_imp hc
    exact hblank
  have hscanned : Scanned kept := h.scanned.left_of_blank fun mark hmark =>
    hblank mark (List.mem_of_mem_head? hmark)
  exact ⟨blanks, by rw [← hkept, hscanned], hblank⟩

/-- The marks of a clause body. Trimming leaves `kept`; the marks before `kept` and at the end are
invisible, and behind `kept` stand white space and then the semicolons at the end. -/
structure TrimmedBody (lead kept blanks cut trail : List Marked) : Prop where
  visible : VisibleWithin lead ((kept ++ blanks) ++ cut) trail
  last : ∀ mark ∈ kept.getLast?, mark.isBlank = false
  blank : ∀ mark ∈ blanks, mark.isBlank
  cut : ∀ mark ∈ cut, mark.1 = ';'
  plain : ∀ mark ∈ (kept ++ blanks).getLast?, mark.1 ≠ ';'

theorem exists_trimmedBody {body : List Marked} (h : Scanned body) :
    ∃ lead kept blanks cut trail, body = lead ++ (((kept ++ blanks) ++ cut) ++ trail) ∧
      kept = scan (trimClause (body.map Prod.fst)) ∧ TrimmedBody lead kept blanks cut trail := by
  obtain ⟨lead, core, cut, trail, hparts, hvisible, hcut, hcore⟩ := exists_core body
  have htrimmed := CoreOf.of_visible (hparts ▸ h) hvisible hcut hcore
  rw [← hparts] at htrimmed
  obtain ⟨blanks, rfl, hblank⟩ := htrimmed.exists_blanks
  refine ⟨lead, _, blanks, cut, trail, hparts, rfl, hvisible, fun mark hmark => ?_, hblank, hcut,
    hcore⟩
  have hc : mark.1 ∈ (trimClause (body.map Prod.fst)).getLast? := by
    rw [← Scan.map_fst_scan (trimClause _), List.getLast?_map, Option.mem_def.mp hmark]
    rfl
  rw [← htrimmed.trimmed] at hc
  exact Text.getLast_trimEnd hc

theorem TrimmedBody.trimmed {lead kept blanks cut trail : List Marked}
    (h : TrimmedBody lead kept blanks cut trail)
    (hscanned : Scanned (lead ++ (((kept ++ blanks) ++ cut) ++ trail))) :
    Scanned kept ∧
      trimClause ((lead ++ (((kept ++ blanks) ++ cut) ++ trail)).map Prod.fst) =
        kept.map Prod.fst := by
  have htrim := trimClause_eq_trimEnd hscanned h.visible h.cut h.plain
  rw [trimEnd_blanks h.last h.blank] at htrim
  obtain ⟨others, hothers, -⟩ := (CoreOf.of_visible hscanned h.visible h.cut h.plain).exists_blanks
  rw [htrim] at hothers
  exact ⟨(List.append_inj hothers (by simp)).1.symm, htrim⟩

/-- The scan of a trimmed clause body stands in that of the whole body, between marks that are
invisible or semicolons. -/
theorem exists_scan_trimClause (text : Text) :
    ∃ before after, scan text = before ++ (scan (trimClause text) ++ after) ∧
      (∀ mark ∈ before, mark.isVisible = false) ∧
      ∀ mark ∈ after, mark.isVisible = false ∨ mark.1 = ';' := by
  obtain ⟨lead, kept, blanks, cut, trail, hparts, hkept, h⟩ :=
    exists_trimmedBody (scanned_scan text)
  rw [Scan.map_fst_scan] at hkept
  refine ⟨lead, blanks ++ (cut ++ trail), by simp [hparts, hkept], h.visible.before, ?_⟩
  intro mark hmark
  simp only [List.mem_append] at hmark
  rcases hmark with hblank | hsemicolon | htrail
  · exact .inl (Marked.isVisible_of_isBlank (h.blank mark hblank))
  · exact .inr (h.cut mark hsemicolon)
  · exact .inl (h.visible.after mark htrail)

end QueryLint
