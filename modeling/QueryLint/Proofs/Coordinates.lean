import Mathlib.Data.List.Basic
import Mathlib.Data.List.TakeWhile
import QueryLint.Rejection.Location

/-!
Positions as lines and columns. Every position of a text, its end included, has one line and one
column, and these lead back to it; other pairs lead nowhere. The position of a column is computed
before the column is compared with the width of its line, so a column far beyond a line can lead to
a number that does not fit a word. Nothing else can.
-/

namespace QueryLint
namespace Rejection

open Text

def lastLineLength (text : Text) : Nat := (text.reverse.takeWhile (· ≠ '\n')).length

/-- The line and the column of a position, both counted from one. A newline ends a line. -/
def coordinates (text : Text) (position : Nat) : Nat × Nat :=
  ((text.take position).count '\n' + 1, lastLineLength (text.take position) + 1)

section LastLine

variable {text : Text}

@[simp] theorem lastLineLength_nil : lastLineLength [] = 0 := rfl

theorem takeWhile_reverse_of_count (h : text.count '\n' = 0) :
    text.reverse.takeWhile (· ≠ '\n') = text.reverse := by
  refine List.takeWhile_eq_self_iff.mpr fun c hc => ?_
  have hne : c ≠ '\n' := by
    rintro rfl
    exact List.count_eq_zero.mp h (List.mem_reverse.mp hc)
  exact decide_eq_true hne

theorem lastLineLength_of_count (h : text.count '\n' = 0) : lastLineLength text = text.length := by
  rw [lastLineLength, takeWhile_reverse_of_count h, List.length_reverse]

theorem lastLineLength_cons {c : Char} (h : c = '\n' ∨ text.count '\n' ≠ 0) :
    lastLineLength (c :: text) = lastLineLength text := by
  by_cases hcount : text.count '\n' = 0
  · obtain rfl := h.resolve_right (not_not.mpr hcount)
    rw [lastLineLength, List.reverse_cons, List.takeWhile_append, takeWhile_reverse_of_count hcount]
    simp [lastLineLength_of_count hcount]
  · have hmem : '\n' ∈ text.reverse := List.mem_reverse.mpr (List.count_pos_iff.mp (by omega))
    have hshort : (text.reverse.takeWhile (· ≠ '\n')).length ≠ text.reverse.length := by
      intro hlength
      have hall := List.takeWhile_eq_self_iff.mp
        ((List.takeWhile_prefix (· ≠ '\n')).eq_of_length hlength) '\n' hmem
      simp at hall
    rw [lastLineLength, List.reverse_cons, List.takeWhile_append, if_neg hshort, lastLineLength]

theorem lastLineLength_le (text : Text) : lastLineLength text ≤ text.length := by
  have h := (List.takeWhile_prefix (l := text.reverse) (· ≠ '\n')).length_le
  rwa [List.length_reverse] at h

theorem coordinates_le (text : Text) (position : Nat) :
    (coordinates text position).1 ≤ text.length + 1 ∧
      (coordinates text position).2 ≤ text.length + 1 := by
  have hcount := List.count_le_length (a := '\n') (l := text.take position)
  have hlast := lastLineLength_le (text.take position)
  rw [List.length_take] at hcount hlast
  simp only [coordinates]
  omega

end LastLine

section Lines

/-- Where the line with the given number, counted from zero, starts, and how many characters it
has; `start` is where the first of the lines starts. -/
def lineBounds? (start : Nat) : List Text → Nat → Option (Nat × Nat)
  | [], _ => none
  | line :: _, 0 => some (start, line.length)
  | line :: lines, number + 1 => lineBounds? (start + line.length + 1) lines number

/-- The position of a column of a line, both counted from zero, in a text that starts at `start`.
The last column of a line is right after it. -/
def ColumnAt (start : Nat) (text : Text) (number column position : Nat) : Prop :=
  ∃ lineStart width, lineBounds? start (splitLines text) number = some (lineStart, width) ∧
    column ≤ width ∧ position = lineStart + column

variable {start number column position : Nat} {text : Text} {c : Char}

theorem columnAt_of_eq {lineStart width : Nat}
    (h : lineBounds? start (splitLines text) number = some (lineStart, width)) :
    ColumnAt start text number column position ↔
      column ≤ width ∧ position = lineStart + column := by
  constructor
  · rintro ⟨lineStart', width', h', hcolumn⟩
    obtain ⟨rfl, rfl⟩ := Prod.mk.inj (Option.some.inj (h.symm.trans h'))
    exact hcolumn
  · exact fun hcolumn => ⟨lineStart, width, h, hcolumn⟩

theorem columnAt_nil :
    ColumnAt start [] number column position ↔ number = 0 ∧ column = 0 ∧ position = start := by
  cases number with
  | zero =>
    have h : lineBounds? start (splitLines []) 0 = some (start, 0) := rfl
    rw [columnAt_of_eq h]
    omega
  | succ number => simp [ColumnAt, splitLines, lineBounds?]

theorem columnAt_newline_zero :
    ColumnAt start ('\n' :: text) 0 column position ↔ column = 0 ∧ position = start := by
  have h : lineBounds? start (splitLines ('\n' :: text)) 0 = some (start, 0) := rfl
  rw [columnAt_of_eq h]
  omega

theorem columnAt_newline_succ :
    ColumnAt start ('\n' :: text) (number + 1) column position ↔
      ColumnAt (start + 1) text number column position := Iff.rfl

theorem exists_splitLines_cons (hc : c ≠ '\n') (text : Text) :
    ∃ line lines, splitLines text = line :: lines ∧
      splitLines (c :: text) = (c :: line) :: lines := by
  obtain ⟨line, lines, h⟩ := List.exists_cons_of_ne_nil (splitLines_ne_nil text)
  exact ⟨line, lines, h, by simp [splitLines, hc, h]⟩

theorem columnAt_cons_zero (hc : c ≠ '\n') :
    ColumnAt start (c :: text) 0 column position ↔
      (column = 0 ∧ position = start) ∨
        ∃ later, column = later + 1 ∧ ColumnAt (start + 1) text 0 later position := by
  obtain ⟨line, lines, htext, hcons⟩ := exists_splitLines_cons hc text
  have hlater : lineBounds? (start + 1) (splitLines text) 0 = some (start + 1, line.length) := by
    rw [htext, lineBounds?]
  have hfirst : lineBounds? start (splitLines (c :: text)) 0 = some (start, line.length + 1) := by
    rw [hcons, lineBounds?, List.length_cons]
  simp only [columnAt_of_eq hlater, columnAt_of_eq hfirst]
  constructor
  · rintro ⟨hle, rfl⟩
    cases column with
    | zero => exact .inl ⟨rfl, rfl⟩
    | succ column => exact .inr ⟨column, rfl, by omega, by omega⟩
  · rintro (⟨rfl, rfl⟩ | ⟨later, rfl, hle, rfl⟩) <;> omega

theorem columnAt_cons_succ (hc : c ≠ '\n') :
    ColumnAt start (c :: text) (number + 1) column position ↔
      ColumnAt (start + 1) text (number + 1) column position := by
  obtain ⟨line, lines, htext, hcons⟩ := exists_splitLines_cons hc text
  have hstart : start + (line.length + 1) + 1 = start + 1 + line.length + 1 := by omega
  rw [ColumnAt, ColumnAt, htext, hcons, lineBounds?, lineBounds?, List.length_cons, hstart]

theorem exists_append_cons_iff {p : Text → Prop} :
    (∃ before after, c :: text = before ++ after ∧ p before) ↔
      p [] ∨ ∃ before after, text = before ++ after ∧ p (c :: before) := by
  constructor
  · rintro ⟨_ | ⟨d, before⟩, after, htext, hp⟩
    · exact .inl hp
    · obtain ⟨rfl, rfl⟩ := List.cons.inj htext
      exact .inr ⟨before, after, rfl, hp⟩
  · rintro (hp | ⟨before, after, rfl, hp⟩)
    · exact ⟨[], c :: text, rfl, hp⟩
    · exact ⟨c :: before, after, rfl, hp⟩

/-- A text that starts at `start` ends at a position, after so many lines and with so many
characters on the last. -/
def EndsAt (start : Nat) (text : Text) (number column position : Nat) : Prop :=
  text.count '\n' = number ∧ lastLineLength text = column ∧ position = start + text.length

theorem endsAt_nil :
    EndsAt start [] number column position ↔ number = 0 ∧ column = 0 ∧ position = start := by
  simp [EndsAt, eq_comm]

theorem not_endsAt_newline_zero : ¬EndsAt start ('\n' :: text) 0 column position := by
  simp [EndsAt]

theorem endsAt_newline_succ :
    EndsAt start ('\n' :: text) (number + 1) column position ↔
      EndsAt (start + 1) text number column position := by
  rw [EndsAt, EndsAt, lastLineLength_cons (.inl rfl), List.count_cons_self, List.length_cons]
  omega

theorem endsAt_cons_zero (hc : c ≠ '\n') :
    EndsAt start (c :: text) 0 column position ↔
      ∃ later, column = later + 1 ∧ EndsAt (start + 1) text 0 later position := by
  have hcount : (c :: text).count '\n' = text.count '\n' := List.count_cons_of_ne hc
  constructor
  · rintro ⟨hzero, rfl, rfl⟩
    have hlength := lastLineLength_of_count hzero
    rw [hcount] at hzero
    refine ⟨text.length, hlength, hzero, lastLineLength_of_count hzero, ?_⟩
    rw [List.length_cons]
    omega
  · rintro ⟨later, rfl, hzero, rfl, rfl⟩
    rw [← hcount] at hzero
    have hlength := lastLineLength_of_count hzero
    rw [hcount] at hzero
    refine ⟨hcount.trans hzero, ?_, ?_⟩
    · rw [hlength, lastLineLength_of_count hzero, List.length_cons]
    · rw [List.length_cons]
      omega

theorem endsAt_cons_succ (hc : c ≠ '\n') :
    EndsAt start (c :: text) (number + 1) column position ↔
      EndsAt (start + 1) text (number + 1) column position := by
  rw [EndsAt, EndsAt, List.count_cons_of_ne hc, List.length_cons]
  refine and_congr_right fun hcount => ?_
  rw [lastLineLength_cons (.inr (by omega))]
  omega

/-- A column of a line is where a front of the text ends that has as many newlines as lines stand
before it, and after them as many characters. -/
theorem columnAt_iff :
    ColumnAt start text number column position ↔
      ∃ before after, text = before ++ after ∧ EndsAt start before number column position := by
  induction text generalizing start number column with
  | nil =>
    rw [columnAt_nil, ← endsAt_nil]
    constructor
    · exact fun h => ⟨[], [], rfl, h⟩
    · rintro ⟨before, after, hnil, h⟩
      obtain ⟨rfl, -⟩ := List.nil_eq_append_iff.mp hnil
      exact h
  | cons c text ih =>
    rw [exists_append_cons_iff, endsAt_nil]
    by_cases hc : c = '\n'
    · subst hc
      cases number with
      | zero => simp [columnAt_newline_zero, not_endsAt_newline_zero]
      | succ number => simp [columnAt_newline_succ, endsAt_newline_succ, ih]
    · cases number with
      | zero =>
        rw [columnAt_cons_zero hc]
        simp only [ih, endsAt_cons_zero hc, true_and]
        refine or_congr_right ⟨?_, ?_⟩
        · rintro ⟨later, rfl, before, after, rfl, h⟩
          exact ⟨before, after, rfl, later, rfl, h⟩
        · rintro ⟨before, after, rfl, later, rfl, h⟩
          exact ⟨later, rfl, before, after, rfl, h⟩
      | succ number => simp [columnAt_cons_succ hc, endsAt_cons_succ hc, ih]

theorem columnAt_iff_coordinates {line : Nat} (hline : line ≠ 0) (hcolumn : column ≠ 0) :
    ColumnAt 0 text (line - 1) (column - 1) position ↔
      position ≤ text.length ∧ coordinates text position = (line, column) := by
  rw [columnAt_iff, coordinates, Prod.mk.injEq]
  constructor
  · rintro ⟨before, after, rfl, hcount, hlast, hposition⟩
    have htake : (before ++ after).take position = before := by
      rw [hposition, Nat.zero_add, List.take_left]
    rw [htake, List.length_append]
    omega
  · rintro ⟨hposition, rfl, rfl⟩
    refine ⟨text.take position, text.drop position, ?_, rfl, rfl, ?_⟩
    · rw [List.take_append_drop]
    · rw [List.length_take]
      omega

theorem exists_of_lineBounds? {lines : List Text} {bounds : Nat × Nat}
    (h : lineBounds? start lines number = some bounds) :
    ∃ l, lines[number]? = some l ∧ bounds.2 = l.length := by
  induction lines generalizing start number with
  | nil => simp [lineBounds?] at h
  | cons l lines ih =>
    cases number with
    | zero =>
      obtain rfl := Option.some.inj h
      exact ⟨l, rfl, rfl⟩
    | succ number => exact ih h

theorem lineBounds?_eq_none_iff {lines : List Text} :
    lineBounds? start lines number = none ↔ lines.length ≤ number := by
  induction lines generalizing start number with
  | nil => simp [lineBounds?]
  | cons l lines ih =>
    cases number with
    | zero => simp [lineBounds?]
    | succ number =>
      rw [lineBounds?, ih, List.length_cons]
      omega

theorem exists_lineBounds?_iff {line : Nat} (hline : line ≠ 0) :
    (∃ width, lineBounds? 0 (splitLines text) (line - 1) = some (start, width)) ↔
      start ≤ text.length ∧ coordinates text start = (line, 1) := by
  rw [← columnAt_iff_coordinates hline Nat.one_ne_zero]
  constructor
  · rintro ⟨width, hbounds⟩
    exact ⟨start, width, hbounds, Nat.zero_le width, rfl⟩
  · rintro ⟨lineStart, width, hbounds, -, rfl⟩
    exact ⟨width, hbounds⟩

end Lines

section Words

/-- The number of characters of some lines, with a newline after each. -/
def linesSize : List Text → Nat
  | [] => 0
  | line :: lines => line.length + 1 + linesSize lines

theorem linesSize_splitLines (text : Text) : linesSize (splitLines text) = text.length + 1 := by
  induction text with
  | nil => rfl
  | cons c text ih =>
    by_cases hc : c = '\n'
    · subst hc
      have hsplit : splitLines ('\n' :: text) = [] :: splitLines text := rfl
      rw [hsplit, linesSize, ih, List.length_nil, List.length_cons]
      omega
    · obtain ⟨line, lines, htext, hcons⟩ := exists_splitLines_cons hc text
      rw [htext, linesSize] at ih
      rw [hcons, linesSize, List.length_cons, List.length_cons]
      omega

variable {line column number start lineStart width : Nat} {lines : List Text}

theorem lineBounds?_add_le (h : lineBounds? start lines number = some (lineStart, width)) :
    lineStart + width + 1 ≤ start + linesSize lines := by
  induction lines generalizing start number with
  | nil => simp [lineBounds?] at h
  | cons text lines ih =>
    rw [linesSize]
    cases number with
    | zero =>
      obtain ⟨rfl, rfl⟩ := Prod.mk.inj (Option.some.inj h)
      omega
    | succ number =>
      have hle := ih h
      omega

/-- On the line that is looked for, the one sum that can leave the range is that of the start of the
line and the column. -/
theorem positionIn?_here (text : Text) (hcolumn : column ≠ 0) (hnumber : number + 1 ≤ maxWord) :
    positionIn? (number + 1) column number start (text :: lines) =
      if start + column ≤ maxWord then
        some (if column - 1 ≤ text.length then some (start + column - 1) else none)
      else none := by
  have hbefore := minus?_eq (Nat.one_le_iff_ne_zero.mpr hcolumn)
  have hposition := minus?_eq (by omega : 1 ≤ start + column)
  by_cases hstop : start + column ≤ maxWord
  · simp [positionIn?, plus?_eq hnumber, hbefore, plus?_eq hstop, hposition, hstop]
  · have hnone := plus?_eq_none (Nat.lt_of_not_le hstop)
    simp [positionIn?, plus?_eq hnumber, hbefore, hnone, hstop]

theorem positionIn?_later (text : Text) (hline : number + 1 ≠ line)
    (hnumber : number + 1 ≤ maxWord) (hstart : start + (text.length + 1) ≤ maxWord) :
    positionIn? line column number start (text :: lines) =
      positionIn? line column (number + 1) (start + (text.length + 1)) lines := by
  have hsize := plus?_eq (Nat.le_trans (Nat.le_add_left (text.length + 1) start) hstart)
  simp [positionIn?, plus?_eq hnumber, hline, hsize, plus?_eq hstart]

/-- Every line has a newline, so the lines passed are no more than the characters passed, and both
stay in range while the text does. -/
theorem positionIn?_eq (later : Nat) (hcolumn : column ≠ 0) (hnumber : number ≤ start)
    (hstart : start + linesSize lines ≤ maxWord) :
    positionIn? (number + later + 1) column number start lines =
      match lineBounds? start lines later with
      | none => some none
      | some (lineStart, width) =>
        if lineStart + column ≤ maxWord then
          some (if column - 1 ≤ width then some (lineStart + column - 1) else none)
        else none := by
  induction lines generalizing later number start with
  | nil => cases later <;> rfl
  | cons text lines ih =>
    rw [linesSize] at hstart
    cases later with
    | zero => exact positionIn?_here text hcolumn (by omega)
    | succ later =>
      have hlines := ih later (Nat.add_le_add hnumber (Nat.le_add_left 1 text.length))
        (by rwa [Nat.add_assoc start])
      have hline : number + (later + 1) + 1 = number + 1 + later + 1 := by omega
      rw [hline, positionIn?_later text (by omega) (by omega) (by omega), hlines]
      rfl

end Words

section Offset

variable {text : Text} {line column position start : Nat}

theorem offset?_zero (h : line = 0 ∨ column = 0) : offset? text line column = some none := by
  simp [offset?, h]

theorem offset?_eq (htext : text.length < maxWord) (hline : line ≠ 0) (hcolumn : column ≠ 0) :
    offset? text line column =
      match lineBounds? 0 (splitLines text) (line - 1) with
      | none => some none
      | some (start, width) =>
        if start + column ≤ maxWord then
          some (if column - 1 ≤ width then some (start + column - 1) else none)
        else none := by
  have hsize : 0 + linesSize (splitLines text) ≤ maxWord := by
    rw [linesSize_splitLines]
    omega
  have hposition := positionIn?_eq (line - 1) hcolumn (Nat.le_refl 0) hsize
  rw [Nat.zero_add, Nat.sub_add_cancel (Nat.one_le_iff_ne_zero.mpr hline)] at hposition
  rw [← hposition]
  simp [offset?, hline, hcolumn]

theorem offset?_eq_some_some_iff (htext : text.length < maxWord) :
    offset? text line column = some (some position) ↔
      position ≤ text.length ∧ coordinates text position = (line, column) := by
  by_cases hzero : line = 0 ∨ column = 0
  · rw [offset?_zero hzero]
    refine iff_of_false (by simp) ?_
    rintro ⟨-, hcoordinates⟩
    obtain ⟨rfl, rfl⟩ := Prod.mk.inj hcoordinates
    omega
  · obtain ⟨hline, hcolumn⟩ := not_or.mp hzero
    rw [← columnAt_iff_coordinates hline hcolumn, offset?_eq htext hline hcolumn]
    cases hbounds : lineBounds? 0 (splitLines text) (line - 1) with
    | none => simp [ColumnAt, hbounds]
    | some bounds =>
      obtain ⟨start, width⟩ := bounds
      have hle := lineBounds?_add_le hbounds
      rw [linesSize_splitLines] at hle
      rw [columnAt_of_eq hbounds]
      simp only [Option.ite_none_right_eq_some, Option.some.injEq]
      omega

/-- The line exists, and the column counted from its start leads to a number that does not fit a
word. -/
def Beyond (text : Text) (line column : Nat) : Prop :=
  ∃ start ≤ text.length, coordinates text start = (line, 1) ∧ maxWord < start + column

theorem beyond_iff (hline : line ≠ 0) :
    Beyond text line column ↔ ∃ start width,
      lineBounds? 0 (splitLines text) (line - 1) = some (start, width) ∧
        maxWord < start + column := by
  constructor
  · rintro ⟨start, hstart, hcoordinates, hbeyond⟩
    obtain ⟨width, hbounds⟩ := (exists_lineBounds?_iff hline).mpr ⟨hstart, hcoordinates⟩
    exact ⟨start, width, hbounds, hbeyond⟩
  · rintro ⟨start, width, hbounds, hbeyond⟩
    obtain ⟨hstart, hcoordinates⟩ := (exists_lineBounds?_iff hline).mp ⟨width, hbounds⟩
    exact ⟨start, hstart, hcoordinates, hbeyond⟩

theorem not_beyond_zero (htext : text.length < maxWord) (h : line = 0 ∨ column = 0) :
    ¬Beyond text line column := by
  rintro ⟨start, hstart, hcoordinates, hbeyond⟩
  obtain rfl | rfl := h
  · cases hcoordinates
  · omega

theorem offset?_eq_none_iff (htext : text.length < maxWord) :
    offset? text line column = none ↔ Beyond text line column := by
  by_cases hzero : line = 0 ∨ column = 0
  · rw [offset?_zero hzero]
    exact iff_of_false (by simp) (not_beyond_zero htext hzero)
  · obtain ⟨hline, hcolumn⟩ := not_or.mp hzero
    rw [beyond_iff hline, offset?_eq htext hline hcolumn]
    cases lineBounds? 0 (splitLines text) (line - 1) with
    | none => simp
    | some bounds =>
      obtain ⟨start, width⟩ := bounds
      simp

theorem offset?_eq_some_none_iff (htext : text.length < maxWord) :
    offset? text line column = some none ↔ ¬Beyond text line column ∧
      (line = 0 ∨ column = 0 ∨ (splitLines text).length < line ∨
        ∃ l, (splitLines text)[line - 1]? = some l ∧ l.length + 1 < column) := by
  rw [← offset?_eq_none_iff htext]
  by_cases hzero : line = 0 ∨ column = 0
  · rw [offset?_zero hzero]
    exact iff_of_true rfl ⟨by simp, by rw [← or_assoc]; exact .inl hzero⟩
  · obtain ⟨hline, hcolumn⟩ := not_or.mp hzero
    rw [offset?_eq htext hline hcolumn]
    simp only [hline, hcolumn, false_or]
    cases hbounds : lineBounds? 0 (splitLines text) (line - 1) with
    | none =>
      have hlength := lineBounds?_eq_none_iff.mp hbounds
      refine iff_of_true rfl ⟨by simp, .inl ?_⟩
      omega
    | some bounds =>
      obtain ⟨l, hl, hwidth⟩ := exists_of_lineBounds? hbounds
      obtain ⟨hlength, -⟩ := List.getElem?_eq_some_iff.mp hl
      have hnot : ¬(splitLines text).length < line := by omega
      simp only [hl, Option.some.injEq, exists_eq_left', hnot, false_or]
      by_cases hword : bounds.1 + column ≤ maxWord
      · simp only [hword, if_true, Option.some.injEq, ite_eq_right_iff, reduceCtorEq, imp_false,
          not_false_eq_true, true_and]
        omega
      · simp [hword]

end Offset

end Rejection
end QueryLint
