import QueryLint.Proofs.CommentPieces

/-!
A statement without its comments. A block comment leaves a space, and a line comment the newline
that ends it; so the scans of a statement with and without its comments differ in pieces that stand
in place of white space.
-/

namespace QueryLint

open Scan

namespace Scan

def Mode.isOutside : Mode → Bool
  | .code => true
  | .quoted _ => true
  | _ => false

/-- What a comment leaves that is open in the given mode, in front of what follows it. -/
def Mode.trace : Mode → Text
  | .blockOpening => [' ']
  | .blockComment _ => [' ']
  | _ => []

/-- The characters outside comments of a text that is scanned from a given mode, with a space for
every block comment that begins in it. -/
def withoutCommentsFrom : Mode → Text → Text
  | _, [] => []
  | mode, c :: rest =>
    let after := mode.step c rest.head?
    if mode.region c rest.head? ≠ .comment then c :: withoutCommentsFrom after rest
    else if mode.isOutside then after.trace ++ withoutCommentsFrom after rest
    else withoutCommentsFrom after rest

end Scan

/-- A statement with a space in place of every block comment, and without its line comments up to
the newlines that end them. -/
def withoutComments (text : Text) : Text := withoutCommentsFrom .code text

def CommentsClosed (text : Text) : Prop := (endMode .code text).isOutside

structure Cleaned (marks marks' : List Marked) : Prop where
  rewritten : Rewritten CommentSwap marks marks'
  uncommented : ∀ mark ∈ marks', mark.2 ≠ .comment

theorem Cleaned.nil : Cleaned [] [] := ⟨.nil, by simp⟩

theorem Cleaned.keep {marks marks' : List Marked} (mark : Marked) (hmark : mark.2 ≠ .comment)
    (h : Cleaned marks marks') : Cleaned (mark :: marks) (mark :: marks') :=
  ⟨.keep mark h.rewritten, List.forall_mem_cons.mpr ⟨hmark, h.uncommented⟩⟩

theorem Cleaned.swap {piece piece' marks marks' : List Marked} (hpiece : CommentSwap piece piece')
    (h : Cleaned marks marks') : Cleaned (piece ++ marks) (piece' ++ marks') := by
  refine ⟨.swap hpiece h.rewritten, List.forall_mem_append.mpr ⟨?_, h.uncommented⟩⟩
  obtain ⟨c, -, rfl⟩ := hpiece.blank
  simp

structure CommentBegun (front : List Marked) : Prop where
  first : ∃ mark ∈ front.head?, mark.2 = .comment ∧ mark.isBlank = false
  hidden : ∀ mark ∈ front, mark.isVisible = false

namespace CommentBegun

theorem single {c : Char} (hc : Text.isBlank c = false) : CommentBegun [(c, .comment)] :=
  ⟨⟨_, rfl, rfl, hc⟩, by simp [Marked.isVisible]⟩

theorem snoc {front : List Marked} (h : CommentBegun front) (mark : Marked)
    (hmark : mark.isVisible = false) : CommentBegun (front ++ [mark]) := by
  obtain ⟨first, hfirst, hcomment⟩ := h.first
  obtain ⟨more, rfl⟩ := List.head?_eq_some_iff.mp hfirst
  exact ⟨⟨first, rfl, hcomment⟩, List.forall_mem_append.mpr ⟨h.hidden, by simpa using hmark⟩⟩

/-- A comment that ends with `mark` is replaced by one white space character. -/
theorem cleaned {front : List Marked} (h : CommentBegun front) (mark : Marked) (blank : Char)
    (hmark : mark.isVisible = false) (hlast : mark.1 ≠ ';') (hblank : Text.isBlank blank)
    {rest rest' : Text} (hrest : Cleaned (scan rest) (scan rest')) :
    Cleaned (front ++ mark :: scan rest) (scan (blank :: rest')) := by
  have hbegun := h.snoc mark hmark
  have hpiece : CommentSwap (front ++ [mark]) [(blank, .code)] :=
    ⟨hbegun.first, hbegun.hidden, by simpa using hlast, blank, hblank, rfl⟩
  have hplain : ∀ c ∈ [blank], isPlain c := by simpa using isPlain_of_isBlank hblank
  have hscan : scan (blank :: rest') = [(blank, .code)] ++ scan rest' :=
    scan_append_of_plain rest' hplain
  have hboth := Cleaned.swap hpiece hrest
  rwa [List.append_assoc, ← hscan] at hboth

end CommentBegun

variable {mode : Mode} {text rest : Text} {c : Char}

theorem Scan.Mode.step_of_inside (hmode : mode.isOutside = false) (c : Char) (next : Option Char) :
    (mode.step c next = .code ∧ ((mode = .lineComment ∧ c = '\n') ∨
        (mode.trace = [' '] ∧ c = '/' ∧ mode.region c next = .comment))) ∨
      ((mode.step c next).isOutside = false ∧ (mode.step c next).trace = mode.trace ∧
        mode.region c next = .comment) := by
  cases mode with
  | code => cases hmode
  | quoted mark => cases hmode
  | lineComment =>
    by_cases hc : c = '\n'
    · exact .inl ⟨by simp [Mode.step, hc], .inl ⟨rfl, hc⟩⟩
    · exact .inr (by simp [Mode.step, Mode.region, Mode.isOutside, hc])
  | blockOpening => exact .inr ⟨rfl, rfl, rfl⟩
  | blockComment star =>
    by_cases hc : (star && c = '/') = true
    · refine .inl ⟨by simp only [Mode.step, hc, if_true], .inr ⟨rfl, ?_, rfl⟩⟩
      simpa using (Bool.and_eq_true_iff.mp hc).2
    · exact .inr (by simp only [Mode.step, hc]; exact ⟨rfl, rfl, rfl⟩)

theorem Scan.Mode.step_of_code (c : Char) (next : Option Char) :
    (isQuote c ∧ Mode.code.region c next = .quoted ∧ Mode.code.step c next = .quoted c) ∨
      (Text.isBlank c = false ∧ Mode.code.region c next = .comment ∧
        (Mode.code.step c next = .lineComment ∨ Mode.code.step c next = .blockOpening)) ∨
      (isQuote c = false ∧ opensComment c next = false ∧ Mode.code.region c next = .code ∧
        Mode.code.step c next = .code) := by
  by_cases hquote : isQuote c
  · exact .inl (by simp [Mode.region, Mode.step, hquote])
  have hopens : opensComment c next → Text.isBlank c = false := by
    intro h
    have hc : c = '-' ∨ c = '/' := by
      simp only [opensComment, opensLineComment, opensBlockComment, Bool.or_eq_true,
        Bool.and_eq_true, decide_eq_true_eq] at h
      exact h.imp And.left And.left
    rcases hc with rfl | rfl <;> decide
  cases hline : opensLineComment c next <;> cases hblock : opensBlockComment c next <;>
    simp_all [Mode.region, Mode.step, opensComment]

theorem head?_withoutCommentsFrom_lineComment
    (hclosed : (endMode .lineComment text).isOutside) :
    (withoutCommentsFrom .lineComment text).head? = some '\n' := by
  induction text with
  | nil => cases hclosed
  | cons c rest ih =>
    by_cases hc : c = '\n'
    · simp [withoutCommentsFrom, Mode.region, hc]
    · simp only [endMode, Mode.step, hc, if_false] at hclosed
      simp [withoutCommentsFrom, Mode.region, Mode.step, Mode.isOutside, hc, ih hclosed]

theorem head?_withoutComments (hclosed : CommentsClosed text) :
    (withoutComments text).head? = text.head? ∨
      ∃ c ∈ (withoutComments text).head?, Text.isBlank c := by
  cases text with
  | nil => exact .inl rfl
  | cons c rest =>
    rw [CommentsClosed, endMode] at hclosed
    rw [withoutComments, withoutCommentsFrom]
    rcases Mode.step_of_code c rest.head? with
      ⟨-, hregion, -⟩ | ⟨-, hregion, hline | hblock⟩ | ⟨-, -, hregion, -⟩
    · simp [hregion]
    · right
      rw [hline] at hclosed ⊢
      have hhead := head?_withoutCommentsFrom_lineComment hclosed
      exact ⟨'\n', by simpa [hregion, Mode.isOutside, Mode.trace] using hhead, by decide⟩
    · right
      rw [hblock]
      exact ⟨' ', by simp [hregion, Mode.isOutside, Mode.trace], by decide⟩
    · simp [hregion]

/-- A text scanned from a given mode differs from the text without its comments in pieces that
stand for white space; `front` holds the marks of a comment that is open at its beginning. -/
structure Removes (mode : Mode) (text : Text) : Prop where
  outside : mode.isOutside → Cleaned (marksBefore none mode text)
    (marksBefore none mode (withoutCommentsFrom mode text))
  inside : mode.isOutside = false → ∀ front, CommentBegun front →
    Cleaned (front ++ marksBefore none mode text)
      (scan (mode.trace ++ withoutCommentsFrom mode text))

theorem Removes.scan_rest (h : Removes .code rest) :
    Cleaned (scan rest) (scan (withoutComments rest)) := by
  rw [scan_eq_marksBefore, scan_eq_marksBefore]
  exact h.outside rfl

theorem Removes.of_code (hclosed : (endMode .code (c :: rest)).isOutside)
    (h : Removes (Mode.code.step c rest.head?) rest) : Removes .code (c :: rest) := by
  refine ⟨fun _ => ?_, fun hinside => by cases hinside⟩
  rw [endMode] at hclosed
  rcases Mode.step_of_code c rest.head? with
    ⟨hquote, hregion, hstep⟩ | ⟨hblank, hregion, hstep⟩ | ⟨hquote, hopens, hregion, hstep⟩
  · rw [hstep] at h
    have hrest := h.outside rfl
    simp only [withoutCommentsFrom, marksBefore, Option.or_none, hregion, hstep]
    simpa [Mode.region, Mode.step, hquote, marksBefore] using Cleaned.keep (c, .quoted) (by simp) hrest
  · have hnext : (Mode.code.step c rest.head?).isOutside = false := by
      rcases hstep with hstep | hstep <;> rw [hstep] <;> rfl
    have hrest := h.inside hnext _ (.single hblank)
    simpa [withoutCommentsFrom, marksBefore, hregion, Mode.isOutside, scan_eq_marksBefore]
      using hrest
  · rw [hstep] at h hclosed
    have hrest := h.outside rfl
    -- the character after this one may have changed, but still opens no comment with it
    have hopens' : opensComment c (withoutComments rest).head? = false := by
      rcases head?_withoutComments hclosed with hsame | ⟨blank, hhead, hblank⟩
      · rwa [hsame]
      · exact opensComment_of_isBlank fun d hd => by rwa [Option.mem_unique hd hhead]
    obtain ⟨hline, hblock⟩ : opensLineComment c (withoutComments rest).head? = false ∧
        opensBlockComment c (withoutComments rest).head? = false := by
      simpa [opensComment] using hopens'
    rw [withoutComments] at hline hblock
    simp only [withoutCommentsFrom, marksBefore, Option.or_none, hregion, hstep]
    simpa [Mode.region, Mode.step, hquote, hline, hblock, marksBefore]
      using Cleaned.keep (c, .code) (by simp) hrest

theorem Removes.of_quoted {mark : Char} (h : Removes (Mode.step (.quoted mark) c rest.head?) rest) :
    Removes (.quoted mark) (c :: rest) := by
  refine ⟨fun _ => ?_, fun hinside => by cases hinside⟩
  have hnext : (Mode.step (.quoted mark) c rest.head?).isOutside := by
    rw [Mode.step]
    split_ifs <;> rfl
  simpa [withoutCommentsFrom, marksBefore, Mode.region, Mode.step]
    using Cleaned.keep (c, .quoted) (by simp) (h.outside hnext)

theorem Removes.of_inside (hmode : mode.isOutside = false)
    (h : Removes (mode.step c rest.head?) rest) : Removes mode (c :: rest) := by
  refine ⟨fun houtside => by simp [hmode] at houtside, fun _ front hfront => ?_⟩
  rcases Mode.step_of_inside hmode c rest.head? with
    ⟨hstep, ⟨rfl, rfl⟩ | ⟨htrace, rfl, hregion⟩⟩ | ⟨hstep, htrace, hregion⟩
  · rw [hstep] at h
    have hrest := hfront.cleaned ('\n', .code) '\n' (by decide) (by decide) (by decide) h.scan_rest
    simpa [withoutCommentsFrom, withoutComments, marksBefore, Mode.region, hstep, Mode.trace,
      scan_eq_marksBefore] using hrest
  · rw [hstep] at h
    have hrest := hfront.cleaned ('/', .comment) ' ' (by decide) (by decide) (by decide) h.scan_rest
    simpa [withoutCommentsFrom, withoutComments, marksBefore, hregion, hstep, hmode, htrace,
      scan_eq_marksBefore] using hrest
  · have hrest := h.inside hstep _ (hfront.snoc (c, .comment) (by simp [Marked.isVisible]))
    simpa [withoutCommentsFrom, marksBefore, hregion, hmode, htrace] using hrest

theorem removes (mode : Mode) (text : Text) (hclosed : (endMode mode text).isOutside) :
    Removes mode text := by
  induction text generalizing mode with
  | nil =>
    refine ⟨fun _ => .nil, fun hinside => ?_⟩
    rw [endMode, hinside] at hclosed
    cases hclosed
  | cons c rest ih =>
    have hrest := ih (mode.step c rest.head?) hclosed
    cases mode with
    | code => exact .of_code hclosed hrest
    | quoted mark => exact .of_quoted hrest
    | lineComment => exact .of_inside rfl hrest
    | blockOpening => exact .of_inside rfl hrest
    | blockComment star => exact .of_inside rfl hrest

theorem cleaned_withoutComments (hclosed : CommentsClosed text) :
    Cleaned (scan text) (scan (withoutComments text)) :=
  (removes .code text hclosed).scan_rest

/-- A statement and the statement without its comments differ in pieces that stand for white
space. -/
theorem rewritten_withoutComments (hclosed : CommentsClosed text) :
    Rewritten CommentSwap (scan text) (scan (withoutComments text)) :=
  (cleaned_withoutComments hclosed).rewritten

theorem uncommented_withoutComments (hclosed : CommentsClosed text) :
    Uncommented (withoutComments text) :=
  (cleaned_withoutComments hclosed).uncommented

end QueryLint
