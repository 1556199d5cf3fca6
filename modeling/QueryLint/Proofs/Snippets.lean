import Mathlib.Data.List.Basic
import QueryLint.Proofs.Outcomes
import QueryLint.Report.Render

/-!
The part of a statement that a rejection is shown with. The caret stands under the character at the
reported position, and keeps its place in the report for people, where all lines of a message are
moved by the same number of characters.
-/

namespace QueryLint

namespace Text

theorem splitLines_append_newline (front back : Text) :
    splitLines (front ++ '\n' :: back) = splitLines front ++ splitLines back := by
  induction front with
  | nil => rfl
  | cons c front ih =>
    by_cases hc : c = '\n'
    · simp [splitLines, hc, ih]
    · obtain ⟨line, lines, hlines⟩ := List.exists_cons_of_ne_nil (splitLines_ne_nil front)
      simp [splitLines, hc, ih, hlines]

theorem splitLines_eq_singleton {line : Text} (h : '\n' ∉ line) : splitLines line = [line] := by
  induction line with
  | nil => rfl
  | cons c line ih =>
    obtain ⟨hc, hrest⟩ := not_or.mp (mt List.mem_cons.mpr h)
    simp [splitLines, Ne.symm hc, ih hrest]

theorem lines_append_newline (front back : Text) :
    lines (front ++ '\n' :: back) = (splitLines front).map dropReturn ++ lines back := by
  have hback := splitLines_ne_nil back
  rw [lines, lines, splitLines_append_newline, List.dropLast_append_of_ne_nil hback,
    List.getLast?_append_of_ne_nil _ hback, List.map_append, List.append_assoc]

theorem lines_line_append {line : Text} (hline : '\n' ∉ line) (hlast : line.getLast? ≠ some '\r')
    (back : Text) : lines (line ++ '\n' :: back) = line :: lines back := by
  rw [lines_append_newline, splitLines_eq_singleton hline, List.map_singleton, dropReturn,
    if_neg hlast, List.singleton_append]

theorem lines_eq_singleton {line : Text} (hne : line ≠ []) (hline : '\n' ∉ line) :
    lines line = [line] := by
  rw [lines, splitLines_eq_singleton hline]
  simp [hne]

/-- Whole lines: a text that is empty or ends with a newline. -/
def WholeLines (text : Text) : Prop := ∀ c ∈ text.getLast?, c = '\n'

namespace WholeLines

variable {text front back : Text}

theorem nil : WholeLines [] := by simp [WholeLines]

theorem concat (text : Text) : WholeLines (text ++ ['\n']) := by simp [WholeLines]

theorem append (hfront : WholeLines front) (hback : WholeLines back) :
    WholeLines (front ++ back) := by
  by_cases hne : back = []
  · rwa [hne, List.append_nil]
  · rwa [WholeLines, List.getLast?_append_of_ne_nil front hne]

theorem flatMap {α : Type} {f : α → Text} {items : List α} (h : ∀ item ∈ items, WholeLines (f item)) :
    WholeLines (items.flatMap f) := by
  induction items with
  | nil => exact nil
  | cons item items ih =>
    obtain ⟨hitem, hitems⟩ := List.forall_mem_cons.mp h
    rw [List.flatMap_cons]
    exact hitem.append (ih hitems)

theorem lines_append (h : WholeLines front) (back : Text) :
    ∃ before, lines (front ++ back) = before ++ lines back := by
  rcases List.eq_nil_or_concat' front with rfl | ⟨init, last, rfl⟩
  · exact ⟨[], rfl⟩
  · obtain rfl : last = '\n' := h last (by simp)
    exact ⟨_, by rw [List.append_assoc, List.singleton_append, lines_append_newline]⟩

end WholeLines

/-- A piece of a text that begins where one of its lines does. -/
def BeginsLine (piece text : Text) : Prop :=
  ∃ front back, text = front ++ (piece ++ back) ∧ WholeLines front

namespace BeginsLine

variable {piece text : Text}

theorem refl (piece : Text) : BeginsLine piece piece := ⟨[], [], by simp, .nil⟩

theorem before (h : BeginsLine piece text) (more : Text) : BeginsLine piece (text ++ more) := by
  obtain ⟨front, back, rfl, hfront⟩ := h
  exact ⟨front, back ++ more, by simp, hfront⟩

theorem behind (h : BeginsLine piece text) {more : Text} (hmore : WholeLines more) :
    BeginsLine piece (more ++ text) := by
  obtain ⟨front, back, rfl, hfront⟩ := h
  exact ⟨more ++ front, back, by simp, hmore.append hfront⟩

theorem flatMap {α : Type} {f : α → Text} {item : α} {items : List α}
    (h : BeginsLine piece (f item)) (hitem : item ∈ items)
    (hwhole : ∀ item ∈ items, WholeLines (f item)) : BeginsLine piece (items.flatMap f) := by
  obtain ⟨earlier, later, rfl⟩ := List.append_of_mem hitem
  have hearlier : WholeLines (earlier.flatMap f) :=
    WholeLines.flatMap fun item hmem => hwhole item (List.mem_append_left _ hmem)
  rw [List.flatMap_append, List.flatMap_cons]
  exact (h.before _).behind hearlier

end BeginsLine

end Text

open Text

namespace Report

theorem wholeLines_indented (indent : Nat) (text : Text) : WholeLines (indented indent text) := by
  apply WholeLines.flatMap
  intro line _
  exact .concat _

theorem wholeLines_bullet (message : Text) : WholeLines (bullet message) := by
  rw [bullet]
  split
  · exact .nil
  · rename_i first more _
    have hmore : WholeLines (more.flatMap fun line => "      " ++ line ++ ['\n']) := by
      apply WholeLines.flatMap
      intro line _
      exact .concat _
    rw [← List.singleton_append, ← List.append_assoc]
    exact WholeLines.append (.concat _) hmore

theorem wholeLines_renderStatement (coloured : Bool) (statement : StatementReport) :
    WholeLines (renderStatement coloured statement) := WholeLines.concat _

theorem beginsLine_bullets {messages : List Text} {message : Text} (hmessage : message ∈ messages)
    (colour : Colour) (coloured : Bool) (label : Text) :
    BeginsLine (bullet message) (bullets colour coloured label messages) := by
  have hbullet : BeginsLine (bullet message) (messages.flatMap bullet) :=
    (BeginsLine.refl _).flatMap hmessage fun message _ => wholeLines_bullet message
  rw [bullets, ← List.singleton_append, ← List.append_assoc]
  exact hbullet.behind (.concat _)

/-- Every problem of a statement that is not valid has a bullet in the report. -/
theorem beginsLine_renderText {report : Report} {statement : StatementReport} {message : Text}
    (hstatement : statement ∈ report.statements) (hinvalid : statement.result.isValid = false)
    (hmessage : message ∈ statement.result.errors) (coloured : Bool) :
    BeginsLine (bullet message) (report.renderText coloured) := by
  have hresult : BeginsLine (bullet message) (renderResult coloured statement.result) := by
    rw [renderResult, hinvalid]
    exact (beginsLine_bullets hmessage _ _ _).before _
  have hrendered : BeginsLine (bullet message) (renderStatement coloured statement) := by
    rw [renderStatement, ← List.singleton_append, ← List.append_assoc]
    apply BeginsLine.before
    apply hresult.behind
    exact WholeLines.append (.concat _) (wholeLines_indented _ _)
  apply BeginsLine.before
  exact hrendered.flatMap hstatement fun statement _ => wholeLines_renderStatement coloured statement

end Report

def shownChar (c : Char) : Char := if c = '\n' || c = '\r' || c = '\t' then ' ' else c

theorem shownChar_ne (c : Char) : shownChar c ≠ '\n' ∧ shownChar c ≠ '\r' := by
  by_cases hbreak : (c = '\n' || c = '\r' || c = '\t') = true
  · simp [shownChar, hbreak]
  · have hshown : shownChar c = c := if_neg hbreak
    rw [hshown]
    simp only [Bool.or_eq_true, decide_eq_true_eq, not_or] at hbreak
    exact hbreak.1

def caretLine (indent : Nat) : Text := List.replicate indent ' ' ++ ['^']

theorem not_mem_caretLine {c : Char} (hspace : c ≠ ' ') (hcaret : c ≠ '^') (indent : Nat) :
    c ∉ caretLine indent := by
  simp [caretLine, hspace, hcaret]

/-- A window of a text in which the character behind `indent` others stands at a position of the
text. -/
structure PointsAt (text : Text) (position : Nat) (window : Text) (indent : Nat) : Prop where
  part : ∃ part, part <:+: text ∧ window = part.map shownChar
  length_le : window.length ≤ 20
  indent_le : indent ≤ 10
  indent_lt : indent < window.length
  char : window[indent]? = text[position]?.map shownChar

namespace PointsAt

variable {text window : Text} {position indent : Nat}

theorem not_newline (h : PointsAt text position window indent) : '\n' ∉ window := by
  obtain ⟨part, -, rfl⟩ := h.part
  intro hmem
  obtain ⟨c, -, hc⟩ := List.mem_map.mp hmem
  exact (shownChar_ne c).1 hc

theorem not_return (h : PointsAt text position window indent) : '\r' ∉ window := by
  obtain ⟨part, -, rfl⟩ := h.part
  intro hmem
  obtain ⟨c, -, hc⟩ := List.mem_map.mp hmem
  exact (shownChar_ne c).2 hc

theorem lines_message (h : PointsAt text position window indent) {first : Text}
    (hfirst : '\n' ∉ first) (hlast : first.getLast? ≠ some '\r') :
    lines (first ++ '\n' :: (window ++ '\n' :: caretLine indent)) =
      [first, window, caretLine indent] := by
  have hwindow : window.getLast? ≠ some '\r' := fun hreturn =>
    h.not_return (List.mem_of_getLast? hreturn)
  have hcaret : '\n' ∉ caretLine indent := not_mem_caretLine (by decide) (by decide) indent
  rw [lines_line_append hfirst hlast, lines_line_append h.not_newline hwindow,
    lines_eq_singleton (by simp [caretLine]) hcaret]

end PointsAt

theorem exists_snippet? {text : Text} {position : Nat} (h : position < text.length) :
    ∃ window indent, snippet? text position = some (window ++ '\n' :: caretLine indent) ∧
      PointsAt text position window indent := by
  set start := position - snippetRadius with hstart
  set stop := min (position + snippetRadius) text.length with hstop
  have hradius : snippetRadius = 10 := rfl
  set part := (Span.mk start stop).slice text with hpart
  have hlength : part.length = stop - start := length_slice (Nat.min_le_right _ _)
  refine ⟨part.map shownChar, position - start, ?_, ⟨part, ?_, rfl⟩, ?_, ?_, ?_, ?_⟩
  · rw [snippet?, if_neg (Nat.not_le.mpr h)]
    rfl
  · exact (List.take_prefix _ _).isInfix.trans (List.drop_suffix _ _).isInfix
  · rw [List.length_map, hlength]
    omega
  · omega
  · rw [List.length_map, hlength]
    omega
  · have hindent : position - start < stop - start := by omega
    have hsum : start + (position - start) = position := by omega
    rw [List.getElem?_map, hpart, Span.slice, List.getElem?_take_of_lt hindent, List.getElem?_drop,
      hsum]

/-- A message that shows a window is three lines below each other, also behind a bullet. -/
theorem lines_bullet_snippet {text window : Text} {position indent : Nat}
    (h : PointsAt text position window indent) (back : Text) :
    lines (Report.bullet ("Syntax error near:\n" ++ (window ++ '\n' :: caretLine indent)) ++ back) =
      ([("    - Syntax error near:" : Text), "      " ++ window, "      " ++ caretLine indent] :
        List Text) ++ lines back := by
  have hfirst : '\n' ∉ ("Syntax error near:" : Text) := by decide
  have hlines := h.lines_message hfirst (by decide)
  have hbullet : Report.bullet ("Syntax error near:\n" ++ (window ++ '\n' :: caretLine indent)) =
      "    - Syntax error near:" ++ '\n' :: (("      " ++ window) ++ '\n' ::
        (("      " ++ caretLine indent) ++ ['\n'])) := by
    have hmessage : ("Syntax error near:\n" : Text) ++ (window ++ '\n' :: caretLine indent) =
        "Syntax error near:" ++ '\n' :: (window ++ '\n' :: caretLine indent) := rfl
    rw [Report.bullet, hmessage, hlines]
    simp
  have hindented : ∀ {line : Text}, '\n' ∉ line → '\r' ∉ line →
      '\n' ∉ ("      " ++ line : Text) ∧ ("      " ++ line : Text).getLast? ≠ some '\r' := by
    intro line hnewline hreturn
    constructor
    · simpa using hnewline
    · intro hlast
      have hmem := List.mem_of_getLast? hlast
      simp [hreturn] at hmem
  obtain ⟨hwindow, hwindowLast⟩ := hindented h.not_newline h.not_return
  obtain ⟨hcaret, hcaretLast⟩ := hindented
    (not_mem_caretLine (by decide) (by decide) indent)
    (not_mem_caretLine (by decide) (by decide) indent)
  calc lines (Report.bullet ("Syntax error near:\n" ++ (window ++ '\n' :: caretLine indent)) ++ back)
      = lines ("    - Syntax error near:" ++ '\n' :: (("      " ++ window) ++ '\n' ::
          (("      " ++ caretLine indent) ++ '\n' :: back))) := by
        rw [hbullet]
        simp only [List.append_assoc, List.cons_append, List.nil_append]
    _ = _ := by
        rw [lines_line_append (by decide) (by decide), lines_line_append hwindow hwindowLast,
          lines_line_append hcaret hcaretLast]
        rfl

/-- A snippet shows a position of a statement exactly when there is one. It is a window of the
statement and a line with a caret, which stands under the character at the position. A check with
plain wording answers a rejection of no known kind with it, and the lines of every report on such an
answer hold the window and the caret below each other. -/
theorem snippet?_points_at (text : Text) (position : Nat) :
    (snippet? text position = none ↔ text.length ≤ position) ∧
      ∀ snippet ∈ snippet? text position, ∃ window indent,
        splitLines snippet = [window, caretLine indent] ∧
        PointsAt text position window indent ∧
        ∀ checker : Checker,
          (checker.settings.wording = .friendly → ¬allBlank text →
            ∀ rejection, checker.grammar text = .rejected rejection →
              rejection.familyWording? = none → rejection.position = some position →
                (checker.check text).errors = ["Syntax error near:\n" ++ snippet]) ∧
          ((checker.check text).errors = ["Syntax error near:\n" ++ snippet] →
            ∀ report : Report, ∀ statement ∈ report.statements,
              statement.result = checker.check text →
                [("    - Syntax error near:" : Text), "      " ++ window,
                  "      " ++ caretLine indent] <:+: lines (report.render .text false)) := by
  constructor
  · rw [snippet?]
    split <;> simp_all
  intro snippet hsnippet
  have hposition : position < text.length := by
    by_contra hle
    rw [snippet?, if_pos (Nat.not_lt.mp hle)] at hsnippet
    cases hsnippet
  obtain ⟨window, indent, hshown, hpoints⟩ := exists_snippet? hposition
  obtain rfl : window ++ '\n' :: caretLine indent = snippet := by
    rw [hshown] at hsnippet
    exact Option.some.inj hsnippet
  have hcaret : '\n' ∉ caretLine indent := not_mem_caretLine (by decide) (by decide) indent
  have hlines : splitLines (window ++ '\n' :: caretLine indent) = [window, caretLine indent] := by
    rw [splitLines_append_newline, splitLines_eq_singleton hpoints.not_newline,
      splitLines_eq_singleton hcaret, List.singleton_append]
  refine ⟨window, indent, hlines, hpoints, fun checker => ⟨?_, ?_⟩⟩
  · intro hwording hblank rejection hgrammar hfamily hat
    rw [Checker.check_rejected hblank hgrammar, CheckResult.ofRejection, hwording]
    simp only [Rejection.friendlyWording, hfamily, hat, Option.bind_some, hshown,
      CheckResult.invalid_errors]
  · intro herrors report statement hstatement hresult
    have hmessage : "Syntax error near:\n" ++ (window ++ '\n' :: caretLine indent) ∈
        statement.result.errors := by
      rw [hresult, herrors]
      exact List.mem_singleton_self _
    have hinvalid : statement.result.isValid = false := by
      rw [hresult, checker.consistent_check text, herrors]
      rfl
    obtain ⟨front, back, hreport, hfront⟩ :=
      Report.beginsLine_renderText hstatement hinvalid hmessage false
    have htext : report.render .text false = report.renderText false := rfl
    obtain ⟨before, hbefore⟩ := hfront.lines_append
      (Report.bullet ("Syntax error near:\n" ++ (window ++ '\n' :: caretLine indent)) ++ back)
    rw [htext, hreport, hbefore, lines_bullet_snippet hpoints]
    exact ⟨before, lines back, List.append_assoc _ _ _⟩

/-- A line break in the window takes the width of a space, so the caret stands under the `F`. -/
theorem snippet?_points_at_line_break :
    let text : Text := "SELECT id\nFROM users WHERE"
    let rejection : Rejection := ⟨"Unterminated string literal", some 10⟩
    let checker : Checker := ⟨{}, fun _ => .rejected rejection⟩
    let report : Report := ⟨[⟨1, 1, text, checker.check text⟩]⟩
    (checker.check text).errors = ["Syntax error near:\nSELECT id FROM users\n          ^".toList] ∧
      [("    - Syntax error near:" : Text), "      SELECT id FROM users", "                ^"] <:+:
        lines (report.render .text false) := by
  intro text rejection checker report
  obtain ⟨-, hpoints⟩ := snippet?_points_at text 10
  obtain ⟨window, indent, hsplit, -, hchecker⟩ :=
    hpoints "SELECT id FROM users\n          ^".toList rfl
  obtain ⟨hrejected, hreport⟩ := hchecker checker
  have hblank : ¬allBlank text := by decide
  have hfamily : rejection.familyWording? = none := by decide +kernel
  have herrors := hrejected rfl hblank rejection rfl hfamily rfl
  have hwindow : ["SELECT id FROM users".toList, "          ^".toList] =
      [window, caretLine indent] := hsplit
  obtain ⟨rfl, hcaret⟩ := List.cons.inj hwindow
  have hlines := hreport herrors report _ (List.mem_singleton_self _) rfl
  rw [← (List.cons.inj hcaret).1] at hlines
  exact ⟨herrors, hlines⟩

end QueryLint
