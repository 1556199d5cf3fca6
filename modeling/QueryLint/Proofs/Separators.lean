import Mathlib.Data.List.Basic
import QueryLint.ItemList

/-!
Spans between separators. Separators that ascend cut a text into spans that lie in it one after
the other; the commas of a list are such separators.
-/

namespace QueryLint

theorem Span.eq_append_slice_append (span : Span) (text : Text) (h : span.start ≤ span.stop) :
    text = text.take span.start ++ (span.slice text ++ text.drop span.stop) := by
  have hdrop : text.drop span.stop = (text.drop span.start).drop (span.stop - span.start) := by
    rw [List.drop_drop, Nat.add_sub_of_le h]
  rw [Span.slice, hdrop, List.take_append_drop, List.take_append_drop]

def Span.Covers (span : Span) (position : Nat) : Prop :=
  span.start ≤ position ∧ position < span.stop

/-- The span that lies `offset` positions further on. -/
def Span.moved (span : Span) (offset : Nat) : Span := ⟨span.start + offset, span.stop + offset⟩

theorem Span.slice_append_left {span : Span} {front : Text} (h : span.stop ≤ front.length)
    (back : Text) : span.slice (front ++ back) = span.slice front := by
  by_cases hle : span.start ≤ span.stop
  · have hdrop : (front ++ back).drop span.start = front.drop span.start ++ back :=
      List.drop_append_of_le_length (Nat.le_trans hle h)
    rw [Span.slice, Span.slice, hdrop, List.take_append_of_le_length (by simp; omega)]
  · have hnone : span.stop - span.start = 0 := by omega
    rw [Span.slice, Span.slice, hnone, List.take_zero, List.take_zero]

theorem Span.slice_moved (span : Span) (offset : Nat) (text : Text) :
    (span.moved offset).slice text = span.slice (text.drop offset) := by
  rw [Span.slice, Span.slice, List.drop_drop, Span.moved, Nat.add_sub_add_right, Nat.add_comm]

theorem Span.slice_append_right (span : Span) (front back : Text) :
    (span.moved front.length).slice (front ++ back) = span.slice back := by
  rw [Span.slice_moved, List.drop_left]

/-- Separators in ascending order, from `start` on and before `stop`. -/
structure Separators (start stop : Nat) (cuts : List Nat) : Prop where
  ascending : cuts.Pairwise (· < ·)
  bounds : ∀ cut ∈ cuts, start ≤ cut ∧ cut < stop

namespace Separators

variable {start stop cut : Nat} {cuts : List Nat}

theorem le_head (h : Separators start stop (cut :: cuts)) : start ≤ cut ∧ cut < stop :=
  h.bounds cut List.mem_cons_self

theorem tail (h : Separators start stop (cut :: cuts)) : Separators (cut + 1) stop cuts where
  ascending := h.ascending.of_cons
  bounds := fun later hlater => by
    have hlt := List.rel_of_pairwise_cons h.ascending hlater
    exact ⟨hlt, (h.bounds later (List.mem_cons_of_mem _ hlater)).2⟩

/-- A span between separators begins at the start or after a separator, lies in the bounds and
holds no separator. -/
theorem of_mem_spansBetween (h : Separators start stop cuts) (hle : start ≤ stop) {span : Span}
    (hspan : span ∈ spansBetween start stop cuts) :
    (start ≤ span.start ∧ span.start ≤ span.stop ∧ span.stop ≤ stop) ∧
      (span.start = start ∨ ∃ cut ∈ cuts, span.start = cut + 1) ∧
      ∀ cut ∈ cuts, ¬(span.start ≤ cut ∧ cut < span.stop) := by
  induction cuts generalizing start with
  | nil =>
    obtain rfl : span = ⟨start, stop⟩ := by simpa [spansBetween] using hspan
    simp [hle]
  | cons cut cuts ih =>
    have hcut := h.le_head
    rcases List.mem_cons.mp hspan with rfl | hspan
    · refine ⟨by simp; omega, .inl rfl, ?_⟩
      intro other hother
      rcases List.mem_cons.mp hother with rfl | hother
      · simp
      · have := (h.tail.bounds other hother).1
        simp; omega
    · obtain ⟨hbounds, hstart, hfree⟩ := ih h.tail (by omega) hspan
      refine ⟨by omega, ?_, ?_⟩
      · rcases hstart with hstart | ⟨later, hlater, hstart⟩
        · exact .inr ⟨cut, List.mem_cons_self, hstart⟩
        · exact .inr ⟨later, List.mem_cons_of_mem _ hlater, hstart⟩
      · intro other hother
        rcases List.mem_cons.mp hother with rfl | hother
        · omega
        · exact hfree other hother

theorem pairwise_spansBetween (h : Separators start stop cuts) (hle : start ≤ stop) :
    (spansBetween start stop cuts).Pairwise (·.stop < ·.start) := by
  induction cuts generalizing start with
  | nil => simp [spansBetween]
  | cons cut cuts ih =>
    have hcut := h.le_head
    refine List.pairwise_cons.mpr ⟨fun span hspan => ?_, ih h.tail (by omega)⟩
    have := (h.tail.of_mem_spansBetween (by omega) hspan).1
    simp; omega

theorem stop_of_mem_spansBetween {span : Span} (hspan : span ∈ spansBetween start stop cuts) :
    span.stop = stop ∨ span.stop ∈ cuts := by
  induction cuts generalizing start with
  | nil =>
    obtain rfl : span = ⟨start, stop⟩ := by simpa [spansBetween] using hspan
    exact .inl rfl
  | cons cut cuts ih =>
    rcases List.mem_cons.mp hspan with rfl | hspan
    · exact .inr List.mem_cons_self
    · exact (ih hspan).imp_right (List.mem_cons_of_mem _)

/-- A position within the bounds is a separator or lies in one of the spans between them. -/
theorem mem_or_exists_covers (h : Separators start stop cuts) {position : Nat}
    (hstart : start ≤ position) (hstop : position < stop) :
    position ∈ cuts ∨ ∃ span ∈ spansBetween start stop cuts, span.Covers position := by
  induction cuts generalizing start with
  | nil => exact .inr ⟨⟨start, stop⟩, by simp [spansBetween], hstart, hstop⟩
  | cons cut cuts ih =>
    by_cases hfirst : position < cut
    · exact .inr ⟨⟨start, cut⟩, List.mem_cons_self, hstart, hfirst⟩
    by_cases hcut : position = cut
    · exact .inl (hcut ▸ List.mem_cons_self)
    rcases ih h.tail (by omega) with hmem | ⟨span, hspan, hcovers⟩
    · exact .inl (List.mem_cons_of_mem _ hmem)
    · exact .inr ⟨span, List.mem_cons_of_mem _ hspan, hcovers⟩

end Separators

/-- The spans of a text that a separator cuts in two are those before it and those after it. -/
theorem spansBetween_append_cons (start stop cut : Nat) (cuts later : List Nat) :
    spansBetween start stop (cuts ++ cut :: later) =
      spansBetween start cut cuts ++ spansBetween (cut + 1) stop later := by
  induction cuts generalizing start with
  | nil => rfl
  | cons first cuts ih => simp [spansBetween, ih]

theorem spansBetween_map_add (start stop offset : Nat) (cuts : List Nat) :
    spansBetween (start + offset) (stop + offset) (cuts.map (· + offset)) =
      (spansBetween start stop cuts).map (·.moved offset) := by
  induction cuts generalizing start with
  | nil => rfl
  | cons cut cuts ih =>
    have hrest := ih (cut + 1)
    rw [Nat.add_right_comm] at hrest
    simp only [List.map_cons, spansBetween, hrest]
    rfl

theorem separators_commasFrom {text : Text} {position : Nat} {marks : List Marked} (depth : Nat)
    (h : text.drop position = marks.map Prod.fst) :
    Separators position text.length (commasFrom position depth marks) ∧
      ∀ cut ∈ commasFrom position depth marks, ∃ rest, text.drop cut = ',' :: rest := by
  induction marks generalizing position depth with
  | nil => exact ⟨⟨by simp [commasFrom], by simp [commasFrom]⟩, by simp [commasFrom]⟩
  | cons mark marks ih =>
    have hlength := congrArg List.length h
    simp only [List.length_drop, List.length_map, List.length_cons] at hlength
    have hdrop : text.drop (position + 1) = marks.map Prod.fst := Text.drop_succ h
    have hrest (depth : Nat) :
        Separators position text.length (commasFrom (position + 1) depth marks) ∧
          ∀ cut ∈ commasFrom (position + 1) depth marks, ∃ rest, text.drop cut = ',' :: rest := by
      obtain ⟨hseparators, hcommas⟩ := ih depth hdrop
      refine ⟨⟨hseparators.ascending, fun cut hcut => ?_⟩, hcommas⟩
      have := hseparators.bounds cut hcut
      omega
    simp only [commasFrom]
    split
    · exact hrest _
    split
    · exact hrest _
    split
    · rename_i hcomma
      rw [Bool.and_eq_true, Marked.isCode_iff] at hcomma
      obtain ⟨hseparators, hcommas⟩ := ih depth hdrop
      refine ⟨⟨List.pairwise_cons.mpr ⟨fun cut hcut => (hseparators.bounds cut hcut).1,
        hseparators.ascending⟩, ?_⟩, ?_⟩
      · exact List.forall_mem_cons.mpr ⟨by omega, (hrest depth).1.bounds⟩
      · exact List.forall_mem_cons.mpr ⟨⟨marks.map Prod.fst, by rw [h, hcomma.1]; rfl⟩, hcommas⟩
    · exact hrest _

end QueryLint
