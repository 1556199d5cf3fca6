import Mathlib.Data.List.Infix
import QueryLint.Proofs.CommaMarks

/-!
What stands inside a closed literal or a closed comment decides neither which clauses a statement
has nor whether commas separate its conditions: two statements that differ there only have scans
that differ in one piece that no keyword and no comma takes notice of.
-/

namespace QueryLint

open Scan

/-- The ways of enclosing text that does not belong to the code. -/
inductive Enclosure
  /-- A literal between two equal quotes. -/
  | literal (mark : Char) (isQuote : Scan.isQuote mark)
  | lineComment
  | blockComment

namespace Enclosure

def opener : Enclosure → Text
  | literal mark _ => [mark]
  | lineComment => "--"
  | blockComment => "/*"

def closer : Enclosure → Text
  | literal mark _ => [mark]
  | lineComment => "\n"
  | blockComment => "*/"

def region : Enclosure → Region
  | literal _ _ => .quoted
  | lineComment => .comment
  | blockComment => .comment

/-- The marks of the closer; the newline that ends a comment belongs to the code. -/
def closerMarks : Enclosure → List Marked
  | literal mark _ => [(mark, .quoted)]
  | lineComment => [('\n', .code)]
  | blockComment => [('*', .comment), ('/', .comment)]

def marks (enclosure : Enclosure) (inner : Text) : List Marked :=
  (enclosure.opener ++ inner).map (fun c => (c, enclosure.region)) ++ enclosure.closerMarks

end Enclosure

theorem marksBefore_literal {mark : Char} {inner : Text} (hinner : mark ∉ inner) (after : Text) :
    marksBefore none (.quoted mark) (inner ++ mark :: after) =
      inner.map (fun c => (c, .quoted)) ++ (mark, .quoted) :: scan after := by
  induction inner with
  | nil => simp [marksBefore, Mode.region, Mode.step, scan_eq_marksBefore]
  | cons c inner ih =>
    obtain ⟨hc, hrest⟩ := not_or.mp (mt List.mem_cons.mpr hinner)
    have hne : c ≠ mark := fun h => hc h.symm
    simp [marksBefore, Mode.region, Mode.step, hne, ih hrest]

theorem marksBefore_lineComment {inner : Text} (hinner : '\n' ∉ inner) (after : Text) :
    marksBefore none .lineComment (inner ++ '\n' :: after) =
      inner.map (fun c => (c, .comment)) ++ ('\n', .code) :: scan after := by
  induction inner with
  | nil => simp [marksBefore, Mode.region, Mode.step, scan_eq_marksBefore]
  | cons c inner ih =>
    obtain ⟨hc, hrest⟩ := not_or.mp (mt List.mem_cons.mpr hinner)
    have hne : c ≠ '\n' := fun h => hc h.symm
    simp [marksBefore, Mode.region, Mode.step, hne, ih hrest]

/-- A step inside a block comment that nothing closes; a star may stand before the text. -/
theorem not_closed_cons {star : Bool} {c : Char} {rest : Text}
    (h : ¬['*', '/'] <:+: (if star then '*' :: c :: rest else c :: rest)) :
    (star && c = '/') = false ∧
      ¬['*', '/'] <:+: (if decide (c = '*') then '*' :: rest else rest) := by
  constructor
  · by_contra hclose
    simp only [Bool.not_eq_false, Bool.and_eq_true, decide_eq_true_eq] at hclose
    obtain ⟨rfl, rfl⟩ := hclose
    exact h ⟨[], rest, rfl⟩
  · intro hnext
    apply h
    have htail : ['*', '/'] <:+: c :: rest := by
      by_cases hstar : c = '*'
      · simpa [hstar] using hnext
      · exact List.IsInfix.trans (by simpa [hstar] using hnext) (List.suffix_cons c rest).isInfix
    cases star with
    | false => simpa using htail
    | true => exact htail.trans (List.suffix_cons '*' (c :: rest)).isInfix

theorem marksBefore_blockComment (star : Bool) {inner : Text}
    (hinner : ¬['*', '/'] <:+: (if star then '*' :: inner else inner)) (after : Text) :
    marksBefore none (.blockComment star) (inner ++ '*' :: '/' :: after) =
      inner.map (fun c => (c, .comment)) ++ ('*', .comment) :: ('/', .comment) :: scan after := by
  induction inner generalizing star with
  | nil => simp [marksBefore, Mode.region, Mode.step, scan_eq_marksBefore]
  | cons c inner ih =>
    obtain ⟨hclose, hnext⟩ := not_closed_cons hinner
    rw [List.cons_append, marksBefore]
    simp only [Mode.step, hclose, Mode.region, Bool.false_eq_true, if_false, List.map_cons,
      List.cons_append, ih _ hnext]

theorem scan_enclosure (enclosure : Enclosure) {inner : Text}
    (hinner : ¬enclosure.closer <:+: inner) (after : Text) :
    scan (enclosure.opener ++ (inner ++ (enclosure.closer ++ after))) =
      enclosure.marks inner ++ scan after := by
  have hsingle : ∀ {c : Char}, ¬[c] <:+: inner → c ∉ inner := mt (List.singleton_infix_iff _ _).mpr
  rw [scan_eq_marksBefore]
  cases enclosure with
  | literal mark hquote =>
    have hrest := marksBefore_literal (hsingle hinner) after
    simp [Enclosure.opener, Enclosure.closer, Enclosure.marks, Enclosure.closerMarks,
      Enclosure.region, marksBefore, Mode.region, Mode.step, hquote, hrest]
  | lineComment =>
    have hrest := marksBefore_lineComment (hsingle hinner) after
    simp [Enclosure.opener, Enclosure.closer, Enclosure.marks, Enclosure.closerMarks,
      Enclosure.region, marksBefore, Mode.region, Mode.step, isQuote, opensLineComment, hrest]
  | blockComment =>
    have hrest := marksBefore_blockComment false hinner after
    simp [Enclosure.opener, Enclosure.closer, Enclosure.marks, Enclosure.closerMarks,
      Enclosure.region, marksBefore, Mode.region, Mode.step, isQuote, opensLineComment,
      opensBlockComment, hrest]

theorem isQuote_of_modeBefore {next : Option Char} {mode : Mode} {text : Text}
    (hmode : ∀ mark, mode = .quoted mark → isQuote mark) :
    ∀ mark, modeBefore next mode text = .quoted mark → isQuote mark := by
  induction text generalizing mode with
  | nil => exact hmode
  | cons c rest ih =>
    refine ih fun mark hmark => ?_
    cases mode with
    | code =>
      by_cases hquote : isQuote c
      · simp only [Mode.step, hquote, if_true, Mode.quoted.injEq] at hmark
        exact hmark ▸ hquote
      · simp only [Mode.step, hquote, Bool.false_eq_true, if_false] at hmark
        split_ifs at hmark
    | quoted closing =>
      simp only [Mode.step] at hmark
      split_ifs at hmark
      exact hmode mark hmark
    | lineComment =>
      simp only [Mode.step] at hmark
      split_ifs at hmark
    | blockOpening => cases hmark
    | blockComment star =>
      simp only [Mode.step] at hmark
      split_ifs at hmark

/-- A text that ends in the code with a dash was in the code before the dash. -/
theorem modeBefore_of_dash {init : Text} {next : Option Char}
    (h : (modeBefore (some '-') .code init).step '-' next = .code) :
    modeBefore (some '-') .code init = .code := by
  have hquote : ∀ mark, modeBefore (some '-') .code init = .quoted mark → isQuote mark :=
    isQuote_of_modeBefore (by simp)
  cases hmode : modeBefore (some '-') .code init with
  | code => rfl
  | quoted mark =>
    have hmark := hquote mark hmode
    have hne : '-' ≠ mark := by
      rintro rfl
      exact absurd hmark (by decide)
    simp [hmode, Mode.step, hne] at h
  | lineComment => simp [hmode, Mode.step] at h
  | blockOpening => simp [hmode, Mode.step] at h
  | blockComment star => simp [hmode, Mode.step] at h

/-- In front of a dash with which a text ends in the code, no comment begins. -/
theorem endMode_of_dash {init : Text} (h : endMode .code (init ++ ['-']) = .code) :
    endMode .code init = .code ∧ ∀ c ∈ init.getLast?, opensComment c (some '-') = false := by
  rw [endMode_eq_modeBefore, modeBefore_append] at h
  have hinit : modeBefore (some '-') .code init = .code := by
    have hdash : (modeBefore (some '-') .code init).step '-' none = .code := by
      simpa [modeBefore] using h
    exact modeBefore_of_dash hdash
  have hseam : ∀ c ∈ init.getLast?, opensComment c (some '-') = false := by
    intro c hc
    obtain ⟨more, rfl⟩ := List.getLast?_eq_some_iff.mp hc
    by_contra hopens
    have hdash : c = '-' := by
      simpa [opensComment, opensLineComment, opensBlockComment] using hopens
    subst hdash
    rw [modeBefore_append] at hinit
    have hdash : (modeBefore (some '-') .code more).step '-' (some '-') = .code := by
      simpa [modeBefore] using hinit
    have hmore := modeBefore_of_dash hdash
    simp [modeBefore, hmore, Mode.step, isQuote, opensLineComment] at hinit
  refine ⟨?_, hseam⟩
  rw [endMode_eq_modeBefore, ← (before_eq_of_last (some '-') .code init ?_).2]
  · exact hinit
  · rintro more c rfl
    exact .inl (hseam c (by simp))

namespace Enclosure

theorem eq_of_opensComment {enclosure : Enclosure} {c : Char}
    (h : opensComment c enclosure.opener.head?) : c = '-' ∧ enclosure = .lineComment := by
  cases enclosure with
  | literal mark hquote =>
    have hne : mark ≠ '-' ∧ mark ≠ '*' := by
      constructor
      · rintro rfl
        exact absurd hquote (by decide)
      · rintro rfl
        exact absurd hquote (by decide)
    simp [opener, opensComment, opensLineComment, opensBlockComment, hne.1, hne.2] at h
  | lineComment =>
    have hdash : c = '-' := by
      simpa [opener, opensComment, opensLineComment, opensBlockComment] using h
    exact ⟨hdash, rfl⟩
  | blockComment =>
    simp [opener, opensComment, opensLineComment, opensBlockComment] at h

/-- A dash before the dashes that open a comment belongs to the comment; otherwise an enclosure
begins where its opener does. -/
theorem exists_seam (enclosure : Enclosure) {before : Text} (hmode : endMode .code before = .code) :
    ∃ front lead, before = front ++ lead ∧ endMode .code front = .code ∧
      (∀ c ∈ front.getLast?, opensComment c enclosure.opener.head? = false) ∧
      (∀ text, lead ++ (enclosure.opener ++ text) = enclosure.opener ++ (lead ++ text)) ∧
      ∀ inner, ¬enclosure.closer <:+: inner → ¬enclosure.closer <:+: lead ++ inner := by
  by_cases hseam : ∀ c ∈ before.getLast?, opensComment c enclosure.opener.head? = false
  · exact ⟨before, [], by simp, hmode, hseam, fun _ => rfl, fun _ h => h⟩
  simp only [not_forall, Bool.not_eq_false] at hseam
  obtain ⟨c, hc, hopens⟩ := hseam
  obtain ⟨rfl, rfl⟩ := eq_of_opensComment hopens
  obtain ⟨init, rfl⟩ := List.getLast?_eq_some_iff.mp hc
  obtain ⟨hinit, hdash⟩ := endMode_of_dash hmode
  refine ⟨init, ['-'], rfl, hinit, hdash, fun _ => rfl, fun inner hinner h => ?_⟩
  rcases List.infix_cons_iff.mp h with hfront | hwithin
  · obtain ⟨more, hmore⟩ := hfront
    cases hmore
  · exact hinner hwithin

def around (enclosure : Enclosure) (before after inner : Text) : Text :=
  before ++ (enclosure.opener ++ (inner ++ (enclosure.closer ++ after)))

end Enclosure

/-- A piece in which no word, parenthesis or comma stands, and which is more than white space. -/
structure Veiled (piece : List Marked) : Prop where
  first : ∃ mark ∈ piece.head?, mark.isBlank = false
  hidden : ∀ mark ∈ piece, mark.2 ≠ .code ∨ mark.isBlank

theorem Enclosure.veiled (enclosure : Enclosure) (inner : Text) : Veiled (enclosure.marks inner) := by
  constructor
  · cases enclosure with
    | literal mark hquote =>
      refine ⟨(mark, .quoted), rfl, ?_⟩
      by_contra hblank
      have hplain := isPlain_of_isBlank (by simpa [Marked.isBlank] using hblank)
      simp [isPlain, hquote] at hplain
    | lineComment => exact ⟨('-', .comment), rfl, by decide⟩
    | blockComment => exact ⟨('/', .comment), rfl, by decide⟩
  · intro mark hmark
    rcases List.mem_append.mp hmark with hinner | hcloser
    · obtain ⟨c, -, rfl⟩ := List.mem_map.mp hinner
      left
      cases enclosure <;> simp [Enclosure.region]
    · cases enclosure with
      | literal quote hquote =>
        obtain rfl : mark = (quote, .quoted) := by simpa [Enclosure.closerMarks] using hcloser
        exact .inl (by simp)
      | lineComment =>
        obtain rfl : mark = ('\n', .code) := by simpa [Enclosure.closerMarks] using hcloser
        exact .inr (by decide)
      | blockComment =>
        have hmarks : mark = ('*', .comment) ∨ mark = ('/', .comment) := by
          simpa [Enclosure.closerMarks] using hcloser
        rcases hmarks with rfl | rfl <;> exact .inl (by simp)

namespace Veiled

variable {piece : List Marked}

theorem ne_nil (h : Veiled piece) : piece ≠ [] := by
  obtain ⟨mark, hmark, -⟩ := h.first
  rintro rfl
  cases hmark

theorem not_isBlank (h : Veiled piece) : ¬∀ mark ∈ piece, mark.isBlank := by
  obtain ⟨mark, hmark, hblank⟩ := h.first
  intro hall
  simp [hall mark (List.mem_of_mem_head? hmark)] at hblank

theorem isWord (h : Veiled piece) : ∀ mark ∈ piece, mark.isWord = false := by
  intro mark hmark
  rcases h.hidden mark hmark with hregion | hblank
  · simp [Marked.isWord, hregion]
  · exact Marked.isWord_of_isBlank hblank

theorem isListMark (h : Veiled piece) : ∀ mark ∈ piece, mark.isListMark = false := by
  intro mark hmark
  rcases h.hidden mark hmark with hregion | hblank
  · simp [Marked.isListMark, Marked.isCode, hregion]
  · exact Marked.isListMark_of_hidden (.inl (Marked.isVisible_of_isBlank hblank))

def Swap (piece piece' : List Marked) : Prop := Veiled piece ∧ Veiled piece'

theorem unnoticed : Unnoticed Swap Marked.isBlank where
  words := ⟨fun _ _ h => ⟨h.1.ne_nil, h.1.isWord⟩, fun _ _ h => ⟨h.2.ne_nil, h.2.isWord⟩⟩
  forward := ⟨fun _ h => h, fun _ _ h hall => absurd hall h.1.not_isBlank⟩
  backward := ⟨fun _ h => h, fun _ _ h hall => absurd hall h.2.not_isBlank⟩

theorem avoids_isListMark : Avoids Marked.isListMark Swap :=
  ⟨fun _ _ h => ⟨h.1.ne_nil, h.1.isListMark⟩, fun _ _ h => ⟨h.2.ne_nil, h.2.isListMark⟩⟩

end Veiled

theorem rewritten_around (enclosure : Enclosure) {before inner inner' : Text} (after : Text)
    (hmode : endMode .code before = .code) (hinner : ¬enclosure.closer <:+: inner)
    (hinner' : ¬enclosure.closer <:+: inner') :
    Rewritten Veiled.Swap (scan (enclosure.around before after inner))
      (scan (enclosure.around before after inner')) := by
  obtain ⟨front, lead, rfl, hfront, hseam, hlead, hcloser⟩ := enclosure.exists_seam hmode
  have hscan : ∀ text, ¬enclosure.closer <:+: text →
      scan (enclosure.around (front ++ lead) after text) =
        scan front ++ (enclosure.marks (lead ++ text) ++ scan after) := by
    intro text htext
    have hsplit : enclosure.around (front ++ lead) after text =
        front ++ (enclosure.opener ++ ((lead ++ text) ++ (enclosure.closer ++ after))) := by
      rw [Enclosure.around, List.append_assoc, hlead, List.append_assoc]
    have hopener : enclosure.opener ≠ [] := by
      cases enclosure <;> simp [Enclosure.opener]
    rw [hsplit, scan_append hfront, scan_enclosure enclosure (hcloser text htext)]
    rwa [List.head?_append_of_ne_nil _ hopener]
  rw [hscan inner hinner, hscan inner' hinner']
  exact (Rewritten.refl _).append (.swap ⟨enclosure.veiled _, enclosure.veiled _⟩ (.refl _))

/-- What stands inside a closed literal or comment influences neither the keywords and clauses of
a statement nor the rule about commas between conditions. -/
theorem enclosed_text_irrelevant (enclosure : Enclosure) {before inner inner' : Text} (after : Text)
    (hmode : endMode .code before = .code) (hinner : ¬enclosure.closer <:+: inner)
    (hinner' : ¬enclosure.closer <:+: inner') :
    (∀ keyword, ClauseReader.lexical.hasKeyword (enclosure.around before after inner) keyword =
        ClauseReader.lexical.hasKeyword (enclosure.around before after inner') keyword) ∧
      (∀ clause, (ClauseReader.lexical.clause (enclosure.around before after inner) clause).isSome =
        (ClauseReader.lexical.clause (enclosure.around before after inner') clause).isSome) ∧
      Rule.check .commaInWhere .lexical (enclosure.around before after inner) =
        Rule.check .commaInWhere .lexical (enclosure.around before after inner') := by
  have hrewritten := rewritten_around enclosure after hmode hinner hinner'
  have hisSome : ∀ opening boundaries,
      (extractClause (enclosure.around before after inner) opening boundaries).isSome =
        (extractClause (enclosure.around before after inner') opening boundaries).isSome := by
    intro opening boundaries
    rcases extractClause_rewritten opening boundaries Veiled.unnoticed hrewritten
        (fun name _ _ _ _ _ h => h) with
      ⟨hnone, hnone'⟩ | ⟨body, body', -, -, -, hsome, hsome'⟩
    · rw [hnone, hnone']
    · rw [hsome, hsome']
      rfl
  refine ⟨fun keyword => hisSome keyword [], fun clause => hisSome clause.opening clause.boundaries,
    checkConditions_rewritten Veiled.unnoticed Veiled.avoids_isListMark hrewritten ?_⟩
  exact fun name _ _ _ _ _ h => h

theorem enclosed_text_irrelevant_keywords :
    endMode .code "SELECT a FROM t WHERE b = 1 -".toList = .code ∧
      ¬Enclosure.lineComment.closer <:+: " x".toList ∧
      ¬Enclosure.lineComment.closer <:+: ", 2 GROUP BY '".toList ∧
      Rule.check .commaInWhere .lexical
          (Enclosure.lineComment.around "SELECT a FROM t WHERE b = 1 -" "3, c" " x") =
        Rule.check .commaInWhere .lexical
          (Enclosure.lineComment.around "SELECT a FROM t WHERE b = 1 -" "3, c" ", 2 GROUP BY '") := by
  have hmode : endMode .code "SELECT a FROM t WHERE b = 1 -".toList = .code := by decide
  have hinner : ¬Enclosure.lineComment.closer <:+: " x".toList := by decide
  have hinner' : ¬Enclosure.lineComment.closer <:+: ", 2 GROUP BY '".toList := by decide
  exact ⟨hmode, hinner, hinner',
    (enclosed_text_irrelevant .lineComment "3, c" hmode hinner hinner').2.2⟩

end QueryLint
