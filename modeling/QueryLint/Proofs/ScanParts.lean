import Mathlib.Data.List.Basic
import QueryLint.Scan

/-!
The scan of a text in parts. The scan of a part depends on the mode in which it begins and on the
one character after it. A part that begins and ends in the code reads alone as it does in the
whole text.
-/

namespace QueryLint
namespace Scan

def opensComment (c : Char) (next : Option Char) : Bool :=
  opensLineComment c next || opensBlockComment c next

/-- The marks of a text that is scanned from a given mode and that `next` follows. -/
def marksBefore (next : Option Char) : Mode → Text → List Marked
  | _, [] => []
  | mode, c :: rest =>
    (c, mode.region c (rest.head?.or next)) ::
      marksBefore next (mode.step c (rest.head?.or next)) rest

/-- The mode in which the scan of a text ends that `next` follows. -/
def modeBefore (next : Option Char) : Mode → Text → Mode
  | mode, [] => mode
  | mode, c :: rest => modeBefore next (mode.step c (rest.head?.or next)) rest

theorem scan_eq_marksBefore (text : Text) : scan text = marksBefore none .code text := by
  have hmarks (mode : Mode) : text.zip (regionsFrom mode text) = marksBefore none mode text := by
    induction text generalizing mode with
    | nil => rfl
    | cons c rest ih => simp [regionsFrom, marksBefore, ih]
  exact hmarks .code

theorem endMode_eq_modeBefore (mode : Mode) (text : Text) :
    endMode mode text = modeBefore none mode text := by
  induction text generalizing mode with
  | nil => rfl
  | cons c rest ih => simp [endMode, modeBefore, ih]

@[simp] theorem map_fst_marksBefore (next : Option Char) (mode : Mode) (text : Text) :
    (marksBefore next mode text).map Prod.fst = text := by
  induction text generalizing mode with
  | nil => rfl
  | cons c rest ih => simp [marksBefore, ih]

@[simp] theorem length_marksBefore (next : Option Char) (mode : Mode) (text : Text) :
    (marksBefore next mode text).length = text.length := by
  rw [← List.length_map Prod.fst, map_fst_marksBefore]

@[simp] theorem map_fst_scan (text : Text) : (scan text).map Prod.fst = text := by
  rw [scan_eq_marksBefore, map_fst_marksBefore]

/-- The scan of two texts in a row is the scan of the first before the second, and then that of
the second from the mode in which the first ends. -/
theorem marksBefore_append (next : Option Char) (mode : Mode) (front back : Text) :
    marksBefore next mode (front ++ back) =
      marksBefore (back.head?.or next) mode front ++
        marksBefore next (modeBefore (back.head?.or next) mode front) back := by
  induction front generalizing mode with
  | nil => rfl
  | cons c front ih =>
    simp [marksBefore, modeBefore, ih, List.head?_append, Option.or_assoc]

theorem modeBefore_append (next : Option Char) (mode : Mode) (front back : Text) :
    modeBefore next mode (front ++ back) =
      modeBefore next (modeBefore (back.head?.or next) mode front) back := by
  induction front generalizing mode with
  | nil => rfl
  | cons c front ih => simp [modeBefore, ih, List.head?_append, Option.or_assoc]

/-- Only a character of the code that opens a comment together with the next one depends on it. -/
theorem Mode.ahead_eq {mode : Mode} {c : Char} {next : Option Char}
    (h : opensComment c next = false ∨ mode.region c next ≠ .comment ∨
      mode.step c next = .code) :
    mode.region c next = mode.region c none ∧ mode.step c next = mode.step c none := by
  cases mode with
  | code =>
    have hopens : isQuote c ∨ opensComment c next = false := by
      rcases h with h | h | h
      · exact .inr h
      · by_cases hquote : isQuote c
        · exact .inl hquote
        · refine .inr ?_
          simpa [Mode.region, hquote, opensComment] using h
      · by_cases hquote : isQuote c
        · exact .inl hquote
        · refine .inr ?_
          cases hline : opensLineComment c next <;> cases hblock : opensBlockComment c next <;>
            simp [Mode.step, hquote, hline, hblock, opensComment] at h ⊢
    rcases hopens with hquote | hopens
    · simp [Mode.region, Mode.step, hquote]
    · obtain ⟨hline, hblock⟩ : opensLineComment c next = false ∧
          opensBlockComment c next = false := by simpa [opensComment] using hopens
      have hline' : opensLineComment c none = false := by simp [opensLineComment]
      have hblock' : opensBlockComment c none = false := by simp [opensBlockComment]
      simp [Mode.region, Mode.step, hline, hblock, hline', hblock']
  | quoted mark => exact ⟨rfl, rfl⟩
  | lineComment => exact ⟨rfl, rfl⟩
  | blockOpening => exact ⟨rfl, rfl⟩
  | blockComment star => exact ⟨rfl, rfl⟩

theorem Mode.step_of_region_code {mode : Mode} {c : Char} {next : Option Char}
    (h : mode.region c next = .code) : mode.step c next = .code := by
  cases mode with
  | code =>
    by_cases hquote : isQuote c
    · simp [Mode.region, hquote] at h
    · cases hline : opensLineComment c next <;> cases hblock : opensBlockComment c next <;>
        simp [Mode.region, Mode.step, hquote, hline, hblock] at h ⊢
  | quoted mark => cases h
  | lineComment =>
    by_cases hc : c = '\n'
    · simp [Mode.step, hc]
    · simp [Mode.region, hc] at h
  | blockOpening => cases h
  | blockComment star => cases h

/-- Where the last character of a text does not depend on the one after it, none does. -/
theorem before_eq_of_last (next : Option Char) (mode : Mode) (text : Text)
    (h : ∀ init c, text = init ++ [c] →
      opensComment c next = false ∨ (modeBefore (some c) mode init).region c next ≠ .comment ∨
        (modeBefore (some c) mode init).step c next = .code) :
    marksBefore next mode text = marksBefore none mode text ∧
      modeBefore next mode text = modeBefore none mode text := by
  rcases List.eq_nil_or_concat' text with rfl | ⟨init, c, rfl⟩
  · exact ⟨rfl, rfl⟩
  · obtain ⟨hregion, hstep⟩ := Mode.ahead_eq (h init c rfl)
    constructor
    · simp [marksBefore_append, marksBefore, hregion]
    · simp [modeBefore_append, modeBefore, hstep]

theorem scan_nil : scan [] = [] := rfl

/-- The scan of a text that ends in the code, and of one after it with which no comment begins
before the second. -/
theorem scan_append {front back : Text} (hmode : endMode .code front = .code)
    (hseam : ∀ c ∈ front.getLast?, opensComment c back.head? = false) :
    scan (front ++ back) = scan front ++ scan back := by
  have hfront := before_eq_of_last back.head? .code front
    fun init c h => .inl (hseam c (by simp [h]))
  rw [endMode_eq_modeBefore] at hmode
  simp only [scan_eq_marksBefore, marksBefore_append, Option.or_none, hfront.1, hfront.2, hmode]

theorem opensComment_of_ne {c : Char} {next : Option Char} (h : ∀ d ∈ next, d ≠ '-' ∧ d ≠ '*') :
    opensComment c next = false := by
  cases next with
  | none => simp [opensComment, opensLineComment, opensBlockComment]
  | some d =>
    obtain ⟨hdash, hstar⟩ := h d rfl
    simp [opensComment, opensLineComment, opensBlockComment, hdash, hstar]

theorem opensComment_of_isBlank {c : Char} {next : Option Char} (h : ∀ d ∈ next, Text.isBlank d) :
    opensComment c next = false := by
  refine opensComment_of_ne fun d hd => ⟨?_, ?_⟩
  · rintro rfl
    exact absurd (h '-' hd) (by decide)
  · rintro rfl
    exact absurd (h '*' hd) (by decide)

theorem scan_append_of_blank {front back : Text} (hmode : endMode .code front = .code)
    (hback : ∀ c ∈ back.head?, Text.isBlank c) : scan (front ++ back) = scan front ++ scan back :=
  scan_append hmode fun _ _ => opensComment_of_isBlank hback

/-- A character with which no literal and no comment begins, whatever follows it. -/
def isPlain (c : Char) : Bool := !isQuote c && c ≠ '-' && c ≠ '/'

/-- A class of characters is plain when it holds none of the five that are not. -/
theorem isPlain_of {p : Char → Bool} (hp : ['\'', '"', '`', '-', '/'].all fun c => !p c) {c : Char}
    (h : p c) : isPlain c := by
  by_contra hplain
  have hc : c ∈ ['\'', '"', '`', '-', '/'] := by
    simp only [isPlain, isQuote, Bool.and_eq_true, decide_eq_true_eq] at hplain
    grind
  have hnot := List.all_eq_true.mp hp c hc
  simp [h] at hnot

theorem isPlain_of_isBlank {c : Char} (h : Text.isBlank c) : isPlain c := isPlain_of (by decide) h

theorem isPlain_of_isAlphanumeric {c : Char} (h : Text.isAlphanumeric c) : isPlain c :=
  isPlain_of (by decide) h

def asCode (text : Text) : List Marked := text.map fun c => (c, .code)

@[simp] theorem map_fst_asCode (text : Text) : (asCode text).map Prod.fst = text := by
  simp [asCode, Function.comp_def]

@[simp] theorem length_asCode (text : Text) : (asCode text).length = text.length := by
  simp [asCode]

theorem asCode_append (front back : Text) : asCode (front ++ back) = asCode front ++ asCode back :=
  List.map_append

theorem scan_append_of_plain {front : Text} (back : Text) (h : ∀ c ∈ front, isPlain c) :
    scan (front ++ back) = asCode front ++ scan back := by
  induction front with
  | nil => rfl
  | cons c front ih =>
    obtain ⟨hc, hfront⟩ := List.forall_mem_cons.mp h
    obtain ⟨⟨hquote, hdash⟩, hslash⟩ : (isQuote c = false ∧ c ≠ '-') ∧ c ≠ '/' := by
      simpa [isPlain] using hc
    have hrest := ih hfront
    rw [scan_eq_marksBefore] at hrest ⊢
    simp [marksBefore, Mode.region, Mode.step, hquote, opensLineComment, opensBlockComment, hdash,
      hslash, hrest, asCode]

end Scan

namespace Marked

def isBlank (mark : Marked) : Bool := Text.isBlank mark.1

theorem isVisible_of_isBlank {mark : Marked} (h : mark.isBlank) : mark.isVisible = false := by
  rw [isBlank] at h
  simp [isVisible, h]

theorem isBlank_of_isVisible {mark : Marked} (h : mark.isVisible) : mark.isBlank = false := by
  simp only [isVisible, Bool.and_eq_true, Bool.not_eq_true'] at h
  exact h.2

theorem ne_comment_of_isVisible {mark : Marked} (h : mark.isVisible) : mark.2 ≠ .comment := by
  simp only [isVisible, Bool.and_eq_true, decide_eq_true_eq] at h
  exact h.1

theorem eq_code_of_isWord {mark : Marked} (h : mark.isWord) : mark.2 = .code := by
  simp only [isWord, Bool.and_eq_true, decide_eq_true_eq] at h
  exact h.1

theorem ne_of_isWord {mark : Marked} (h : mark.isWord) {c : Char}
    (hc : Text.isAlphanumeric c = false) (hunder : c ≠ '_') : mark.1 ≠ c := by
  rintro rfl
  simp [isWord, hc, hunder] at h

end Marked

/-- Marks that the scan of their own characters gives. -/
def Scanned (marks : List Marked) : Prop := scan (marks.map Prod.fst) = marks

theorem scanned_scan (text : Text) : Scanned (scan text) := by
  rw [Scanned, Scan.map_fst_scan]

namespace Scanned

open Scan

variable {front back : List Marked}

theorem parts (h : Scanned (front ++ back)) :
    front = marksBefore (back.head?.map Prod.fst) .code (front.map Prod.fst) ∧
      back = marksBefore none
        (modeBefore (back.head?.map Prod.fst) .code (front.map Prod.fst))
        (back.map Prod.fst) := by
  rw [Scanned, scan_eq_marksBefore, List.map_append, marksBefore_append, Option.or_none,
    List.head?_map] at h
  have hboth := List.append_inj h (by simp)
  exact ⟨hboth.1.symm, hboth.2.symm⟩

theorem last_eq (h : Scanned (front ++ back)) {init : List Marked} {mark : Marked}
    (hlast : front = init ++ [mark]) :
    let mode := modeBefore (some mark.1) .code (init.map Prod.fst)
    mark.2 = mode.region mark.1 (back.head?.map Prod.fst) ∧
      modeBefore (back.head?.map Prod.fst) .code (front.map Prod.fst) =
        mode.step mark.1 (back.head?.map Prod.fst) := by
  intro mode
  have hfront := h.parts.1
  subst hlast
  rw [List.map_append, marksBefore_append] at hfront
  have hmark := (List.append_inj hfront (by simp)).2
  simp only [List.map_cons, List.map_nil, marksBefore, List.head?_nil, Option.none_or,
    List.head?_cons, Option.some_or, List.cons.injEq, and_true] at hmark
  constructor
  · exact congrArg Prod.snd hmark
  · rw [List.map_append, modeBefore_append]
    simp [modeBefore, mode]

/-- A part that does not end in a comment reads alone as it does in front of the rest. -/
theorem left_of_last (h : Scanned (front ++ back))
    (hlast : ∀ mark ∈ front.getLast?, mark.2 ≠ .comment) : Scanned front := by
  have hfront := h.parts.1
  rw [Scanned, scan_eq_marksBefore]
  conv_rhs => rw [hfront]
  refine (before_eq_of_last _ _ _ fun init c hinit => .inr (.inl ?_)).1.symm
  obtain ⟨init', last, rfl, rfl, hmark⟩ := List.map_eq_append_iff.mp hinit
  obtain ⟨mark, rfl, rfl⟩ := List.map_eq_singleton_iff.mp hmark
  rw [← (h.last_eq rfl).1]
  exact hlast mark (by simp)

/-- A part reads alone as it does in front of a character that opens no comment. -/
theorem left_of_head (h : Scanned (front ++ back))
    (hhead : ∀ mark ∈ back.head?, mark.1 ≠ '-' ∧ mark.1 ≠ '*') : Scanned front := by
  have hfront := h.parts.1
  rw [Scanned, scan_eq_marksBefore]
  conv_rhs => rw [hfront]
  refine (before_eq_of_last _ _ _ fun init c hinit => .inl (opensComment_of_ne ?_)).1.symm
  intro d hd
  obtain ⟨mark, hmark, rfl⟩ := Option.map_eq_some_iff.mp hd
  exact hhead mark hmark

theorem right_of_mode (h : Scanned (front ++ back))
    (hmode : modeBefore (back.head?.map Prod.fst) .code (front.map Prod.fst) = .code) :
    Scanned back := by
  have hback := h.parts.2
  rw [hmode] at hback
  rw [Scanned, scan_eq_marksBefore]
  exact hback.symm

theorem left_of_blank (h : Scanned (front ++ back)) (hback : ∀ mark ∈ back.head?, mark.isBlank) :
    Scanned front := by
  have hnot : Text.isBlank '-' = false ∧ Text.isBlank '*' = false := by decide
  refine h.left_of_head fun mark hmark => ?_
  have hblank : Text.isBlank mark.1 := hback mark hmark
  constructor
  · intro hdash
    simp [hdash, hnot.1] at hblank
  · intro hstar
    simp [hstar, hnot.2] at hblank

theorem right_of_last {mark : Marked} (h : Scanned (front ++ back))
    (hlast : mark ∈ front.getLast?) (hcode : mark.2 = .code) : Scanned back := by
  obtain ⟨init, hinit⟩ := List.getLast?_eq_some_iff.mp hlast
  obtain ⟨hregion, hmode⟩ := h.last_eq hinit
  apply h.right_of_mode
  rw [hmode]
  exact Mode.step_of_region_code (hregion ▸ hcode)

theorem head_eq {mark : Marked} {rest : List Marked} (h : Scanned (front ++ mark :: rest)) :
    mark.2 = (modeBefore (some mark.1) .code (front.map Prod.fst)).region mark.1
      (rest.head?.map Prod.fst) := by
  have hback := h.parts.2
  simp only [List.map_cons, marksBefore, List.cons.injEq] at hback
  have hmark := congrArg Prod.snd hback.1
  simpa using hmark

end Scanned

namespace Scan

/-- Only a quote, which is visible, begins a literal. -/
theorem modeBefore_of_hidden {next : Option Char} {mode : Mode} {text : Text}
    (hmode : ∀ mark, mode ≠ .quoted mark)
    (h : ∀ mark ∈ marksBefore next mode text, mark.isVisible = false) :
    ∀ mark, modeBefore next mode text ≠ .quoted mark := by
  induction text generalizing mode with
  | nil => exact hmode
  | cons c rest ih =>
    obtain ⟨hc, hrest⟩ := List.forall_mem_cons.mp h
    refine ih ?_ hrest
    cases mode with
    | code =>
      by_cases hquote : isQuote c
      · have hblank : Text.isBlank c = false := by
          simp only [isQuote, Bool.or_eq_true, decide_eq_true_eq] at hquote
          rcases hquote with (rfl | rfl) | rfl <;> decide
        simp [Marked.isVisible, Mode.region, hquote, hblank] at hc
      · intro mark
        simp only [Mode.step, hquote, Bool.false_eq_true, if_false]
        split_ifs <;> simp
    | quoted mark => exact absurd rfl (hmode mark)
    | lineComment =>
      intro mark
      simp only [Mode.step]
      split_ifs <;> simp
    | blockOpening => simp [Mode.step]
    | blockComment star =>
      intro mark
      simp only [Mode.step]
      split_ifs <;> simp

end Scan

/-- What follows white space and comments reads alone as it does after them, from its first
visible character on. -/
theorem Scanned.right_of_hidden {front : List Marked} {mark : Marked} {rest : List Marked}
    (h : Scanned (front ++ mark :: rest)) (hfront : ∀ mark ∈ front, mark.isVisible = false)
    (hvisible : mark.isVisible) : Scanned (mark :: rest) := by
  apply h.right_of_mode
  have hregion := h.head_eq
  rw [h.parts.1] at hfront
  have hquoted := Scan.modeBefore_of_hidden (by simp) hfront
  simp only [List.head?_cons, Option.map_some] at hquoted ⊢
  simp only [Marked.isVisible, Bool.and_eq_true, decide_eq_true_eq, hregion] at hvisible
  cases hmode : Scan.modeBefore (some mark.1) .code (front.map Prod.fst) with
  | code => rfl
  | quoted q => exact absurd hmode (hquoted q)
  | lineComment =>
    by_cases hc : mark.1 = '\n'
    · have hblank : Text.isBlank '\n' := by decide
      simp [hc, hblank] at hvisible
    · simp [hmode, Scan.Mode.region, hc] at hvisible
  | blockOpening => simp [hmode, Scan.Mode.region] at hvisible
  | blockComment star => simp [hmode, Scan.Mode.region] at hvisible

end QueryLint
