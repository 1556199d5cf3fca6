import QueryLint.Proofs.HiddenText

/-!
The regions of a statement, said without the scan. A character with which no enclosure begins
belongs to the code; an enclosure goes on up to the first closer behind its opener, or to the end of
the statement when there is none. Every statement can be read in this way, and in one way only:
the one of the scan.
-/

namespace QueryLint

open Scan

/-- How a statement is read from its front: by characters of the code and by enclosures, of which
the last may lack its closer. -/
inductive Markup : Text → List Marked → Prop
  | nil : Markup [] []
  | code {c : Char} {rest : Text} {marks : List Marked}
      (hopens : ∀ enclosure : Enclosure, ¬enclosure.opener <+: c :: rest)
      (hrest : Markup rest marks) : Markup (c :: rest) ((c, .code) :: marks)
  | closed (enclosure : Enclosure) {inner after : Text} {marks : List Marked}
      (hinner : ¬enclosure.closer <:+: inner) (hafter : Markup after marks) :
      Markup (enclosure.opener ++ (inner ++ (enclosure.closer ++ after)))
        (enclosure.marks inner ++ marks)
  | unclosed (enclosure : Enclosure) {inner : Text} (hinner : ¬enclosure.closer <:+: inner) :
      Markup (enclosure.opener ++ inner)
        ((enclosure.opener ++ inner).map fun c => (c, enclosure.region))

theorem Text.exists_first_infix {part text : Text} (hne : part ≠ []) (h : part <:+: text) :
    ∃ front back, text = front ++ (part ++ back) ∧ ¬part <:+: front := by
  obtain ⟨front, back, rfl⟩ := h
  -- an occurrence in what stands before is an earlier one
  induction hlength : front.length using Nat.strong_induction_on generalizing front back with
  | _ length ih =>
    by_cases hfront : part <:+: front
    · obtain ⟨before, after, rfl⟩ := hfront
      have hlt : before.length < length := by
        have := List.length_pos_iff.mpr hne
        simp only [List.length_append] at hlength
        omega
      obtain ⟨first, rest, heq, hfirst⟩ := ih before.length hlt before (after ++ part ++ back) rfl
      exact ⟨first, rest, by simpa using heq, hfirst⟩
    · exact ⟨front, back, by simp, hfront⟩

namespace Scan

theorem marksBefore_of_stays {mode : Mode} {region : Region} {text : Text}
    (h : ∀ c ∈ text, ∀ next, mode.region c next = region ∧ mode.step c next = mode) :
    marksBefore none mode text = text.map fun c => (c, region) := by
  induction text with
  | nil => rfl
  | cons c rest ih =>
    obtain ⟨hc, hrest⟩ := List.forall_mem_cons.mp h
    obtain ⟨hregion, hstep⟩ := hc (rest.head?.or none)
    rw [marksBefore, hregion, hstep, ih hrest, List.map_cons]

/-- The marks of a block comment that is not closed; a star may stand before the text. -/
theorem marksBefore_blockComment_of_unclosed (star : Bool) {text : Text}
    (h : ¬['*', '/'] <:+: (if star then '*' :: text else text)) :
    marksBefore none (.blockComment star) text = text.map fun c => (c, .comment) := by
  induction text generalizing star with
  | nil => rfl
  | cons c rest ih =>
    obtain ⟨hclose, hrest⟩ := not_closed_cons h
    simp only [marksBefore, Mode.region, Mode.step, hclose, Bool.false_eq_true, if_false,
      List.map_cons, ih _ hrest]

theorem scan_unclosed (enclosure : Enclosure) {inner : Text}
    (hinner : ¬enclosure.closer <:+: inner) :
    scan (enclosure.opener ++ inner) =
      (enclosure.opener ++ inner).map fun c => (c, enclosure.region) := by
  have hsingle : ∀ {c : Char}, ¬[c] <:+: inner → ∀ d ∈ inner, d ≠ c := by
    rintro c h d hd rfl
    exact h ((List.singleton_infix_iff _ _).mpr hd)
  rw [scan_eq_marksBefore]
  cases enclosure with
  | literal mark hquote =>
    have hrest : marksBefore none (.quoted mark) inner = inner.map fun c => (c, .quoted) := by
      refine marksBefore_of_stays fun c hc next => ⟨rfl, ?_⟩
      simp [Mode.step, hsingle hinner c hc]
    simp [Enclosure.opener, Enclosure.region, marksBefore, Mode.region, Mode.step, hquote, hrest]
  | lineComment =>
    have hrest : marksBefore none .lineComment inner = inner.map fun c => (c, .comment) := by
      refine marksBefore_of_stays fun c hc next => ?_
      have hne : c ≠ '\n' := hsingle hinner c hc
      simp [Mode.region, Mode.step, hne]
    simp [Enclosure.opener, Enclosure.region, marksBefore, Mode.region, Mode.step, isQuote,
      opensLineComment, hrest]
  | blockComment =>
    have hrest := marksBefore_blockComment_of_unclosed false hinner
    simp [Enclosure.opener, Enclosure.region, marksBefore, Mode.region, Mode.step, isQuote,
      opensLineComment, opensBlockComment, hrest]

theorem scan_code_cons {c : Char} {rest : Text}
    (hopens : ∀ enclosure : Enclosure, ¬enclosure.opener <+: c :: rest) :
    scan (c :: rest) = (c, .code) :: scan rest := by
  have hquote : isQuote c = false := by
    by_contra h
    exact hopens (.literal c (by simpa using h)) ⟨rest, rfl⟩
  have hline : opensLineComment c rest.head? = false := by
    by_contra h
    obtain ⟨rfl, hnext⟩ : c = '-' ∧ rest.head? = some '-' := by simpa [opensLineComment] using h
    obtain ⟨more, rfl⟩ := List.head?_eq_some_iff.mp hnext
    exact hopens .lineComment ⟨more, rfl⟩
  have hblock : opensBlockComment c rest.head? = false := by
    by_contra h
    obtain ⟨rfl, hnext⟩ : c = '/' ∧ rest.head? = some '*' := by simpa [opensBlockComment] using h
    obtain ⟨more, rfl⟩ := List.head?_eq_some_iff.mp hnext
    exact hopens .blockComment ⟨more, rfl⟩
  simp [scan_eq_marksBefore, marksBefore, Mode.region, Mode.step, hquote, hline, hblock]

end Scan

namespace Markup

variable {text : Text} {marks : List Marked}

theorem eq_scan (h : Markup text marks) : marks = scan text := by
  induction h with
  | nil => rfl
  | code hopens hrest ih => rw [scan_code_cons hopens, ih]
  | closed enclosure hinner hafter ih => rw [scan_enclosure enclosure hinner, ih]
  | unclosed enclosure hinner => rw [scan_unclosed enclosure hinner]

theorem exists_markup (text : Text) : ∃ marks, Markup text marks := by
  induction hlength : text.length using Nat.strong_induction_on generalizing text with
  | _ length ih =>
    cases text with
    | nil => exact ⟨[], .nil⟩
    | cons c rest =>
      by_cases hopens : ∀ enclosure : Enclosure, ¬enclosure.opener <+: c :: rest
      · obtain ⟨marks, hmarks⟩ := ih rest.length (by simp [← hlength]) rest rfl
        exact ⟨(c, .code) :: marks, .code hopens hmarks⟩
      -- an enclosure begins here, and goes on up to its first closer if it has one
      simp only [not_forall, not_not] at hopens
      obtain ⟨enclosure, inner, hinner⟩ := hopens
      rw [← hinner] at hlength ⊢
      by_cases hcloser : enclosure.closer <:+: inner
      · have hne : enclosure.closer ≠ [] := by
          cases enclosure <;> simp [Enclosure.closer]
        obtain ⟨front, after, rfl, hfront⟩ := Text.exists_first_infix hne hcloser
        have hlt : after.length < length := by
          have := List.length_pos_iff.mpr hne
          simp only [List.length_append] at hlength
          omega
        obtain ⟨marks, hmarks⟩ := ih after.length hlt after rfl
        exact ⟨_, .closed enclosure hfront hmarks⟩
      · exact ⟨_, .unclosed enclosure hcloser⟩

/-- A statement can be read in one way, that of the scan. -/
theorem iff_eq_scan : Markup text marks ↔ marks = scan text := by
  refine ⟨eq_scan, ?_⟩
  rintro rfl
  obtain ⟨marks, hmarks⟩ := exists_markup text
  exact hmarks.eq_scan ▸ hmarks

end Markup

end QueryLint
