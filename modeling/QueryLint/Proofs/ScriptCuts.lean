import Mathlib.Data.List.Basic
import QueryLint.Script

/-!
The two readings of a script. The scan looks one character ahead and enters a comment at its
first character; the cut of a script looks one character back and enters the comment at its
second. Between any two characters they stand in corresponding places, so that they find the same
semicolons.
-/

namespace QueryLint
namespace Script

/-- Corresponding places of the two readings, when `rest` is still to be read. They differ only
where a comment is about to be entered: the scan is already inside. -/
inductive Agrees : Scan.Mode → State → Option Char → Text → Prop
  | code {previous : Option Char} {rest : Text}
      (line : previous = some '-' → rest.head? ≠ some '-')
      (block : previous = some '/' → rest.head? ≠ some '*') :
      Agrees .code .code previous rest
  | quoted {mark : Char} {previous : Option Char} {rest : Text} (isQuote : Scan.isQuote mark) :
      Agrees (.quoted mark) (.quoted mark) previous rest
  | lineOpening {rest : Text} : Agrees .lineComment .code (some '-') ('-' :: rest)
  | lineComment {previous : Option Char} {rest : Text} :
      Agrees .lineComment .lineComment previous rest
  | blockOpening {rest : Text} : Agrees .blockOpening .code (some '/') ('*' :: rest)
  | blockComment {star : Bool} {previous : Option Char} {rest : Text}
      (closing : star = true ↔ previous = some '*') :
      Agrees (.blockComment star) .blockComment previous rest

@[simp] theorem remember_quoted (mark : Char) (previous : Option Char) (c : Char) :
    (State.quoted mark).remember previous c = some c := by
  simp [State.remember, State.opensBlock, State.closesBlock]

@[simp] theorem remember_lineComment (previous : Option Char) (c : Char) :
    State.lineComment.remember previous c = some c := by
  simp [State.remember, State.opensBlock, State.closesBlock]

theorem step_code_quote {previous : Option Char} {c : Char} (h : Scan.isQuote c) :
    State.code.step previous c = .quoted c := by
  simp only [Scan.isQuote] at h
  simp [State.step, h]

/-- In the code the cut stays there at a character that opens no literal and completes the
opening of no comment. -/
theorem step_code_other {previous : Option Char} {c : Char} (h : ¬Scan.isQuote c)
    (line : previous = some '-' → c ≠ '-') (block : previous = some '/' → c ≠ '*') :
    State.code.step previous c = .code ∧ State.code.remember previous c = some c := by
  have hline : ¬(c = '-' ∧ previous = some '-') := fun h => line h.2 h.1
  have hblock : ¬(previous = some '/' ∧ c = '*') := fun h => block h.1 h.2
  simp only [Scan.isQuote] at h
  constructor
  · simp [State.step, State.opensBlock, h, hline, hblock]
  · simp [State.remember, State.opensBlock, State.closesBlock, hblock]

/-- Where the cut stays in the code, the scan may already enter a comment that the next character
opens. -/
theorem Agrees.of_code {c : Char} (h : ¬Scan.isQuote c) (rest : Text) :
    Agrees (Scan.Mode.code.step c rest.head?) .code (some c) rest := by
  cases rest with
  | nil =>
    have hscan : Scan.Mode.code.step c ([] : Text).head? = .code := by
      simp [Scan.Mode.step, Scan.opensLineComment, Scan.opensBlockComment, h]
    rw [hscan]
    exact .code (by simp) (by simp)
  | cons next rest =>
    by_cases hline : c = '-' ∧ next = '-'
    · obtain ⟨rfl, rfl⟩ := hline
      exact .lineOpening
    by_cases hblock : c = '/' ∧ next = '*'
    · obtain ⟨rfl, rfl⟩ := hblock
      exact .blockOpening
    have hscan : Scan.Mode.code.step c (next :: rest).head? = .code := by
      simp [Scan.Mode.step, Scan.opensLineComment, Scan.opensBlockComment, h, hline, hblock]
    rw [hscan]
    exact .code (by simpa using hline) (by simpa using hblock)

/-- The readings keep to corresponding places when both read a character. -/
theorem Agrees.step {mode : Scan.Mode} {state : State} {previous : Option Char} {c : Char}
    {rest : Text} (h : Agrees mode state previous (c :: rest)) :
    Agrees (mode.step c rest.head?) (state.step previous c) (state.remember previous c) rest := by
  cases h with
  | code line block =>
    by_cases hquote : Scan.isQuote c
    · rw [step_code_quote hquote]
      simp only [Scan.Mode.step, hquote, if_true]
      exact .quoted hquote
    · have hstays := step_code_other hquote (by simpa using line) (by simpa using block)
      rw [hstays.1, hstays.2]
      exact of_code hquote rest
  | @quoted mark _ _ isQuote =>
    by_cases hc : c = mark
    · subst hc
      have hline : c ≠ '-' := by rintro rfl; exact absurd isQuote (by decide)
      have hblock : c ≠ '/' := by rintro rfl; exact absurd isQuote (by decide)
      simp only [Scan.Mode.step, State.step, remember_quoted, if_true]
      exact .code (by simp [hline]) (by simp [hblock])
    · simp only [Scan.Mode.step, State.step, hc, if_false]
      exact .quoted isQuote
  | lineOpening => exact .lineComment
  | lineComment =>
    by_cases hc : c = '\n'
    · subst hc
      exact .code (by simp) (by simp)
    · simp only [Scan.Mode.step, State.step, hc, if_false]
      exact .lineComment
  | blockOpening =>
    exact .blockComment (by simp [State.remember, State.opensBlock])
  | @blockComment star _ _ closing =>
    by_cases hclose : previous = some '*' ∧ c = '/'
    · have hstar := closing.mpr hclose.1
      simp only [Scan.Mode.step, State.step, State.remember, State.closesBlock, hstar, hclose]
      exact .code (by simp) (by simp)
    · have hscan : ¬(star = true ∧ c = '/') := fun h => hclose ⟨closing.mp h.1, h.2⟩
      have hremember : State.blockComment.remember previous c = some c := by
        simp [State.remember, State.opensBlock, State.closesBlock, hclose]
      rw [hremember]
      simp only [Scan.Mode.step, State.step, State.closesBlock, Bool.and_eq_true,
        decide_eq_true_eq, hscan, hclose, if_false, true_and, decide_true]
      exact .blockComment (by simp)

theorem Agrees.semicolon {mode : Scan.Mode} {state : State} {previous : Option Char} {c : Char}
    {rest : Text} (h : Agrees mode state previous (c :: rest)) :
    state = .code ∧ c = ';' ↔ mode.region c rest.head? = .code ∧ c = ';' := by
  apply and_congr_left
  rintro rfl
  cases h with
  | code line block => simp [Scan.Mode.region, Scan.isQuote, Scan.opensLineComment,
      Scan.opensBlockComment]
  | quoted => simp [Scan.Mode.region]
  | lineComment => simp [Scan.Mode.region]
  | blockComment => simp [Scan.Mode.region]

theorem Agrees.cutsFrom_eq {mode : Scan.Mode} {state : State} {previous : Option Char}
    {text : Text} (h : Agrees mode state previous text) (position : Nat) :
    cutsFrom state previous position text =
      (text.zip (Scan.regionsFrom mode text)).findIdxs (Marked.isCode · ';') position := by
  induction text generalizing mode state previous position with
  | nil => rfl
  | cons c rest ih =>
    have hrest := ih h.step (position + 1)
    have hc := h.semicolon
    simp only [cutsFrom, Scan.regionsFrom, List.zip_cons_cons, List.findIdxs_cons, hrest,
      Marked.isCode, Bool.and_eq_true, decide_eq_true_eq, hc]

theorem cuts_eq_findIdxs (script : Text) :
    cuts script = (scan script).findIdxs (Marked.isCode · ';') :=
  Agrees.cutsFrom_eq (.code (by simp) (by simp)) 0

/-- Whether a semicolon outside quotes and comments stands at a position. -/
def SemicolonAt (script : Text) (position : Nat) : Prop := (scan script)[position]? = some (';', .code)

theorem mem_cuts_iff {script : Text} {position : Nat} :
    position ∈ cuts script ↔ SemicolonAt script position := by
  rw [cuts_eq_findIdxs, SemicolonAt, List.mem_findIdxs_iff_exists_getElem_pos,
    List.getElem?_eq_some_iff]
  simp only [Marked.isCode_iff]

/-- A script is cut exactly at the semicolons that the scan finds in its code, in ascending
order. -/
theorem cuts_eq_code_semicolons (script : Text) :
    cuts script = (scan script).findIdxs (Marked.isCode · ';') ∧
      (∀ position, position ∈ cuts script ↔ (scan script)[position]? = some (';', .code)) ∧
      (cuts script).Pairwise (· < ·) := by
  refine ⟨cuts_eq_findIdxs script, fun _ => mem_cuts_iff, ?_⟩
  rw [cuts_eq_findIdxs]
  exact List.pairwise_findIdxs

example : cuts "/*/;*/;--;\n;'a'';'-/-;" = [6, 11, 21] := by decide

end Script
end QueryLint
