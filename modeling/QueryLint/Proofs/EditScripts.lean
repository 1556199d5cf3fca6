import Mathlib.Algebra.Order.Group.Abs
import Mathlib.Algebra.Order.Group.Int
import Mathlib.Order.Bounds.Defs
import QueryLint.Proofs.DistanceTable
import QueryLint.Vocabulary

/-!
The edit distance against scripts of edits. A script changes one character of a text after the
other, wherever it likes; the distance is the length of a shortest script, and a metric on texts.
-/

namespace QueryLint

inductive Change
  | insertion (c : Char)
  | deletion
  | substitution (c : Char)
  deriving DecidableEq, Repr

structure Edit where
  position : Nat
  change : Change
  deriving DecidableEq, Repr

/-- A text with another character before it, or with its first character changed. -/
def Change.perform? : Change → Text → Option Text
  | insertion c, text => some (c :: text)
  | deletion, _ :: text => some text
  | substitution c, _ :: text => some (c :: text)
  | _, [] => none

theorem Change.perform?_append {change : Change} {text text' : Text} (after : Text)
    (h : change.perform? text = some text') :
    change.perform? (text ++ after) = some (text' ++ after) := by
  cases change with
  | insertion c =>
    obtain rfl : c :: text = text' := Option.some.inj h
    rfl
  | deletion =>
    cases text with
    | nil => cases h
    | cons d text =>
      obtain rfl : text = text' := Option.some.inj h
      rfl
  | substitution c =>
    cases text with
    | nil => cases h
    | cons d text =>
      obtain rfl : c :: text = text' := Option.some.inj h
      rfl

namespace Edit

def perform? (edit : Edit) (text : Text) : Option Text :=
  if edit.position ≤ text.length then
    (edit.change.perform? (text.drop edit.position)).map (text.take edit.position ++ ·)
  else none

/-- The text after the edits of a script, one after the other. -/
def performAll? (script : List Edit) (text : Text) : Option Text :=
  script.foldlM (fun text edit => edit.perform? text) text

/-- Whether a script of `n` edits turns one text into another. -/
def Turns (n : Nat) (a b : Text) : Prop :=
  ∃ script, performAll? script a = some b ∧ script.length = n

variable {a b front rest rest' : Text} {n : Nat}

theorem perform?_append {change : Change} (front : Text) (h : change.perform? rest = some rest') :
    perform? ⟨front.length, change⟩ (front ++ rest) = some (front ++ rest') := by
  simp [perform?, h]

theorem exists_of_perform? {edit : Edit} (h : edit.perform? a = some b) :
    ∃ front rest rest', a = front ++ rest ∧ b = front ++ rest' ∧
      edit = ⟨front.length, edit.change⟩ ∧ edit.change.perform? rest = some rest' := by
  rw [perform?] at h
  split at h
  · rename_i hposition
    obtain ⟨rest', hrest, rfl⟩ := Option.map_eq_some_iff.mp h
    have hlength : (a.take edit.position).length = edit.position := by simpa using hposition
    exact ⟨_, _, rest', (List.take_append_drop edit.position a).symm, rfl,
      by rw [hlength], hrest⟩
  · cases h

namespace Turns

theorem refl (a : Text) : Turns 0 a a := ⟨[], rfl, rfl⟩

theorem before (h : Turns n a b) (after : Text) : Turns n (a ++ after) (b ++ after) := by
  obtain ⟨script, hscript, hlength⟩ := h
  refine ⟨script, ?_, hlength⟩
  clear hlength
  induction script generalizing a with
  | nil =>
    obtain rfl : a = b := Option.some.inj hscript
    rfl
  | cons edit script ih =>
    obtain ⟨next, hedit, hscript⟩ := Option.bind_eq_some_iff.mp hscript
    obtain ⟨front, rest, rest', rfl, rfl, hplace, hchange⟩ := exists_of_perform? hedit
    have hfirst := perform?_append front (Change.perform?_append after hchange)
    rw [← hplace, ← List.append_assoc, ← List.append_assoc] at hfirst
    exact Option.bind_eq_some_iff.mpr ⟨_, hfirst, ih hscript⟩

theorem edited (change : Change) (h : Turns n a (front ++ rest))
    (hchange : change.perform? rest = some rest') : Turns (n + 1) a (front ++ rest') := by
  obtain ⟨script, hscript, rfl⟩ := h
  refine ⟨script ++ [⟨front.length, change⟩], ?_, by simp⟩
  rw [performAll?, List.foldlM_append]
  refine Option.bind_eq_some_iff.mpr ⟨_, hscript, ?_⟩
  exact Option.bind_eq_some_iff.mpr ⟨_, perform?_append front hchange, rfl⟩

theorem inserted (h : Turns n a b) (d : Char) : Turns (n + 1) a (b ++ [d]) := by
  rw [← List.append_nil b] at h
  exact h.edited (.insertion d) rfl

theorem deleted (h : Turns n a b) (c : Char) : Turns (n + 1) (a ++ [c]) b := by
  have hdeleted := (h.before [c]).edited .deletion rfl
  rwa [List.append_nil] at hdeleted

theorem substituted (h : Turns n a b) (c d : Char) : Turns (n + 1) (a ++ [c]) (b ++ [d]) :=
  (h.before [c]).edited (.substitution d) rfl

end Turns
end Edit

namespace EditDistance

open Edit

theorem turns_cell (a b : Text) : Turns (cell a b) a.reverse b.reverse := by
  induction a, b using cell.induct with
  | case1 b =>
    rw [cell_nil_left]
    induction b with
    | nil => exact .refl []
    | cons d b ih =>
      rw [List.reverse_cons]
      exact ih.inserted d
  | case2 c a =>
    rw [cell_nil_right]
    induction c :: a with
    | nil => exact .refl []
    | cons c a ih =>
      rw [List.reverse_cons]
      exact ih.deleted c
  | case3 c a d b hdiagonal hleft habove =>
    rw [cell_cons_cons, List.reverse_cons, List.reverse_cons]
    rw [List.reverse_cons] at hleft habove
    -- the cell is one more than a neighbour, or it is the diagonal one when nothing has to be done
    rcases min_choice (min (cell a b + if c = d then 0 else 1) (cell (c :: a) b + 1))
      (cell a (d :: b) + 1) with h | h
    · rw [h]
      rcases min_choice (cell a b + if c = d then 0 else 1) (cell (c :: a) b + 1) with h | h
      · rw [h]
        split_ifs with hcd
        · subst hcd
          exact hdiagonal.before [c]
        · exact hdiagonal.substituted c d
      · rw [h]
        exact hleft.inserted d
    · rw [h]
      exact habove.deleted c

/-- An edit is one step in the table. -/
theorem cell_le_one {change : Change} {rest rest' : Text} (front : Text)
    (h : change.perform? rest = some rest') :
    cell (front ++ rest).reverse (front ++ rest').reverse ≤ 1 := by
  set before := front.reverse with hbefore
  have hsame : cell before before = 0 := cell_self before
  cases change with
  | insertion c =>
    obtain rfl : c :: rest = rest' := Option.some.inj h
    have hend := cell_append_append_le rest.reverse before (c :: before)
    have hstep := cell_cons_right_le c before before
    simp only [List.reverse_append, List.reverse_cons, List.append_assoc, List.singleton_append,
      ← hbefore]
    omega
  | deletion =>
    cases rest with
    | nil => cases h
    | cons d rest =>
      obtain rfl : rest = rest' := Option.some.inj h
      have hend := cell_append_append_le rest.reverse (d :: before) before
      have hstep := cell_cons_left_le d before before
      simp only [List.reverse_append, List.reverse_cons, List.append_assoc, List.singleton_append,
        ← hbefore]
      omega
  | substitution c =>
    cases rest with
    | nil => cases h
    | cons d rest =>
      obtain rfl : c :: rest = rest' := Option.some.inj h
      have hend := cell_append_append_le rest.reverse (d :: before) (c :: before)
      have hstep := cell_cons_cons_le d c before before
      have hcost : (if d = c then 0 else 1) ≤ 1 := by split_ifs <;> simp
      simp only [List.reverse_append, List.reverse_cons, List.append_assoc, List.singleton_append,
        ← hbefore]
      omega

/-- No script is shorter than the cell of the table says. -/
theorem cell_le_of_turns {n : Nat} {a b : Text} (h : Turns n a b) :
    cell a.reverse b.reverse ≤ n := by
  obtain ⟨script, hscript, rfl⟩ := h
  induction script generalizing a with
  | nil =>
    obtain rfl : a = b := Option.some.inj hscript
    simp
  | cons edit script ih =>
    obtain ⟨next, hedit, hscript⟩ := Option.bind_eq_some_iff.mp hscript
    obtain ⟨front, rest, rest', rfl, rfl, -, hchange⟩ := exists_of_perform? hedit
    have hfirst := cell_le_one front hchange
    have hlater := ih hscript
    have htriangle := cell_triangle (front ++ rest).reverse (front ++ rest').reverse b.reverse
    rw [List.length_cons]
    omega

end EditDistance

open EditDistance Edit

/-- The edit distance is the length of a shortest script that turns one text into the other. -/
theorem editDistance_isLeast (a b : Text) :
    IsLeast {n | ∃ script, performAll? script a = some b ∧ script.length = n} (editDistance a b) := by
  rw [editDistance_eq_cell]
  constructor
  · have hturns := turns_cell a.reverse b.reverse
    rwa [List.reverse_reverse, List.reverse_reverse] at hturns
  · intro n hn
    exact cell_le_of_turns hn

example : performAll? [⟨0, .substitution 's'⟩, ⟨4, .substitution 'i'⟩, ⟨6, .insertion 'g'⟩]
    "kitten" = some "sitting".toList ∧ editDistance "kitten" "sitting" = 3 := by
  decide

theorem editDistance_comm (a b : Text) : editDistance a b = editDistance b a := by
  rw [editDistance_eq_cell, cell_comm, ← editDistance_eq_cell]

theorem editLimit_comm (length length' : Nat) : editLimit length length' = editLimit length' length := by
  rw [editLimit, editLimit, min_comm, max_comm length]

theorem isMisspelling_comm (a b : Text) : isMisspelling a b = isMisspelling b a := by
  rw [isMisspelling, isMisspelling, editDistance_comm, editLimit_comm]
  congr 1
  exact decide_eq_decide.mpr ne_comm

/-- The edit distance is a metric. It is not less than the difference of the lengths and not more
than the greater of them; and a word is a misspelling of another if the other is one of it. -/
theorem editDistance_metric :
    (∀ a b, editDistance a b = 0 ↔ a = b) ∧
      (∀ a b, editDistance a b = editDistance b a) ∧
      (∀ a b c, editDistance a c ≤ editDistance a b + editDistance b c) ∧
      (∀ a b : Text, |(a.length : Int) - b.length| ≤ editDistance a b ∧
        editDistance a b ≤ max a.length b.length) ∧
      ∀ a b, isMisspelling a b = isMisspelling b a := by
  refine ⟨fun a b => ?_, editDistance_comm, fun a b c => ?_, fun a b => ?_, isMisspelling_comm⟩
  · rw [editDistance_eq_cell, cell_eq_zero_iff, List.reverse_inj]
  · rw [editDistance_eq_cell, editDistance_eq_cell, editDistance_eq_cell]
    exact cell_triangle a.reverse b.reverse c.reverse
  · obtain ⟨hleft, hright, hmax⟩ := cell_bounds a.reverse b.reverse
    rw [List.length_reverse, List.length_reverse] at hleft hright hmax
    rw [editDistance_eq_cell, abs_le]
    omega

end QueryLint
