import Mathlib.Data.List.Forall2
import QueryLint.Proofs.CommaMarks

/-!
The places for items in a comma-separated list, as lists of marks. The items of a text are what
trimming leaves of these places; white space and comments around a list do not change them, and
neither does an exchange of pieces that touches no item.
-/

namespace QueryLint

def depthAfter (depth : Nat) (mark : Marked) : Nat :=
  if mark.isCode '(' then depth + 1 else if mark.isCode ')' then depth - 1 else depth

/-- The marks between the commas outside parentheses, when `depth` parentheses are open. -/
def segmentsFrom : Nat → List Marked → List (List Marked)
  | _, [] => [[]]
  | depth, mark :: rest =>
    if mark.isCode ',' && depth = 0 then [] :: segmentsFrom depth rest
    else (segmentsFrom (depthAfter depth mark) rest).modifyHead (mark :: ·)

def itemsOf (marks : List Marked) : List Text :=
  ((segmentsFrom 0 marks).map fun segment => trimCode (segment.map Prod.fst)).filter
    fun item => !item.isEmpty

variable {text : Text} {front marks marks' back : List Marked} {depth start stop : Nat}

theorem segmentsFrom_ne_nil (depth : Nat) (marks : List Marked) : segmentsFrom depth marks ≠ [] := by
  induction marks generalizing depth with
  | nil => simp [segmentsFrom]
  | cons mark marks ih =>
    simp only [segmentsFrom]
    split_ifs
    · simp
    · simpa using ih (depthAfter depth mark)

theorem commasFrom_cons (position depth : Nat) (mark : Marked) (marks : List Marked) :
    commasFrom position depth (mark :: marks) =
      if mark.isCode ',' && depth = 0 then position :: commasFrom (position + 1) depth marks
      else commasFrom (position + 1) (depthAfter depth mark) marks := by
  by_cases hopen : mark.isCode '('
  · obtain rfl := Marked.isCode_iff.mp hopen
    simp [commasFrom, depthAfter, Marked.isCode]
  by_cases hclose : mark.isCode ')'
  · obtain rfl := Marked.isCode_iff.mp hclose
    simp [commasFrom, depthAfter, Marked.isCode]
  simp [commasFrom, depthAfter, hopen, hclose]

/-- The pieces between the commas of a text are its segments; `front` has been read already. -/
theorem map_slice_spansBetween (start depth : Nat) (front : List Marked)
    (htext : text.drop start = (front ++ marks).map Prod.fst)
    (hstop : stop = start + (front ++ marks).length) :
    (spansBetween start stop (commasFrom (start + front.length) depth marks)).map
        (fun span => span.slice text) =
      ((segmentsFrom depth marks).modifyHead (front ++ ·)).map fun segment =>
        segment.map Prod.fst := by
  induction marks generalizing start front depth with
  | nil =>
    have hslice := Keyword.slice_of_drop_eq htext
    rw [List.append_nil] at hstop
    simp [commasFrom, spansBetween, segmentsFrom, hstop, hslice]
  | cons mark marks ih =>
    have hfirst : text.drop start = ((front ++ [mark]) ++ marks).map Prod.fst := by simpa using htext
    rw [commasFrom_cons]
    by_cases hcomma : (mark.isCode ',' && depth = 0) = true
    · have hrest := ih (start + (front.length + 1)) depth []
        (by simpa using Keyword.drop_of_drop_eq hfirst)
        (by rw [hstop]; simp only [List.length_append, List.length_cons, List.nil_append]; omega)
      have hslice := Keyword.slice_of_drop_eq htext
      simp only [List.length_nil, Nat.add_zero, List.nil_append, ← Nat.add_assoc] at hrest
      rw [if_pos hcomma, segmentsFrom, if_pos hcomma, spansBetween, List.map_cons, hslice, hrest]
      obtain ⟨segment, segments, hsegments⟩ :=
        List.exists_cons_of_ne_nil (segmentsFrom_ne_nil depth marks)
      simp [hsegments]
    · have hrest := ih start (depthAfter depth mark) (front ++ [mark]) hfirst
        (by rw [hstop]; simp only [List.length_append, List.length_cons, List.length_nil]; omega)
      rw [List.length_append, ← Nat.add_assoc] at hrest
      rw [if_neg hcomma, segmentsFrom, if_neg hcomma]
      obtain ⟨segment, segments, hsegments⟩ :=
        List.exists_cons_of_ne_nil (segmentsFrom_ne_nil (depthAfter depth mark) marks)
      simpa [hsegments] using hrest

theorem splitItems_eq (text : Text) : splitItems text = itemsOf (scan text) := by
  have htext : text.drop 0 = ([] ++ scan text).map Prod.fst := drop_zero_eq_scan text
  have hpieces : (spansBetween 0 text.length (commasFrom 0 0 (scan text))).map
      (fun span => span.slice text) =
        (segmentsFrom 0 (scan text)).map fun segment => segment.map Prod.fst := by
    obtain ⟨segment, segments, hsegments⟩ :=
      List.exists_cons_of_ne_nil (segmentsFrom_ne_nil 0 (scan text))
    simpa [hsegments] using map_slice_spansBetween 0 0 [] htext (by simp)
  have htrim := congrArg (List.map trimCode) hpieces
  rw [List.map_map, List.map_map] at htrim
  exact congrArg (List.filter fun item => !item.isEmpty) htrim

theorem Scanned.around_comma {front rest : List Marked}
    (h : Scanned (front ++ (',', .code) :: rest)) : Scanned front ∧ Scanned rest := by
  constructor
  · refine h.left_of_head fun mark hmark => ?_
    obtain rfl : (',', .code) = mark := by simpa using hmark
    simp
  · have hcomma : Scanned ((front ++ [(',', .code)]) ++ rest) := by simpa using h
    exact hcomma.right_of_last List.getLast?_concat rfl

theorem scanned_segments (front : List Marked) (depth : Nat) (h : Scanned (front ++ marks)) :
    ∀ segment ∈ (segmentsFrom depth marks).modifyHead (front ++ ·), Scanned segment := by
  induction marks generalizing front depth with
  | nil =>
    rw [List.append_nil] at h
    simpa [segmentsFrom] using h
  | cons mark marks ih =>
    by_cases hcomma : (mark.isCode ',' && depth = 0) = true
    · obtain rfl : mark = (',', .code) :=
        Marked.isCode_iff.mp (Bool.and_eq_true_iff.mp hcomma).1
      obtain ⟨hfront, hafter⟩ := h.around_comma
      have hrest := ih [] depth hafter
      obtain ⟨segment, segments, hsegments⟩ :=
        List.exists_cons_of_ne_nil (segmentsFrom_ne_nil depth marks)
      rw [segmentsFrom, if_pos hcomma]
      simpa [hsegments, hfront] using hrest
    · have hfirst : Scanned ((front ++ [mark]) ++ marks) := by simpa using h
      have hrest := ih (front ++ [mark]) (depthAfter depth mark) hfirst
      obtain ⟨segment, segments, hsegments⟩ :=
        List.exists_cons_of_ne_nil (segmentsFrom_ne_nil (depthAfter depth mark) marks)
      rw [segmentsFrom, if_neg hcomma]
      simpa [hsegments] using hrest

theorem scanned_of_mem_segments {segment : List Marked} (h : Scanned marks)
    (hsegment : segment ∈ segmentsFrom depth marks) : Scanned segment := by
  refine scanned_segments [] depth h segment ?_
  obtain ⟨first, segments, hsegments⟩ :=
    List.exists_cons_of_ne_nil (segmentsFrom_ne_nil depth marks)
  simpa [hsegments] using hsegment

section Around

theorem segmentsFrom_append_left (depth : Nat) (marks : List Marked)
    (hfront : ∀ mark ∈ front, mark.isListMark = false) :
    segmentsFrom depth (front ++ marks) = (segmentsFrom depth marks).modifyHead (front ++ ·) := by
  induction front with
  | nil =>
    obtain ⟨segment, segments, hsegments⟩ :=
      List.exists_cons_of_ne_nil (segmentsFrom_ne_nil depth marks)
    simp [hsegments]
  | cons mark front ih =>
    obtain ⟨hmark, hfront⟩ := List.forall_mem_cons.mp hfront
    obtain ⟨⟨hopen, hclose⟩, hcomma⟩ :
        (mark.isCode '(' = false ∧ mark.isCode ')' = false) ∧ mark.isCode ',' = false := by
      simpa [Marked.isListMark] using hmark
    obtain ⟨segment, segments, hsegments⟩ :=
      List.exists_cons_of_ne_nil (segmentsFrom_ne_nil depth marks)
    simp [segmentsFrom, depthAfter, hopen, hclose, hcomma, ih hfront, hsegments]

theorem segmentsFrom_append_right (depth : Nat) (marks : List Marked)
    (hback : ∀ mark ∈ back, mark.isListMark = false) :
    ∃ init last, segmentsFrom depth marks = init ++ [last] ∧
      segmentsFrom depth (marks ++ back) = init ++ [last ++ back] := by
  induction marks generalizing depth with
  | nil =>
    refine ⟨[], [], rfl, ?_⟩
    have hall := segmentsFrom_append_left depth [] hback
    simpa [segmentsFrom] using hall
  | cons mark marks ih =>
    by_cases hcomma : (mark.isCode ',' && depth = 0) = true
    · obtain ⟨init, last, hmarks, hboth⟩ := ih depth
      refine ⟨[] :: init, last, ?_, ?_⟩
      · rw [segmentsFrom, if_pos hcomma, hmarks, List.cons_append]
      · rw [List.cons_append, segmentsFrom, if_pos hcomma, hboth, List.cons_append]
    · obtain ⟨init, last, hmarks, hboth⟩ := ih (depthAfter depth mark)
      cases init with
      | nil =>
        refine ⟨[], mark :: last, ?_, ?_⟩
        · rw [segmentsFrom, if_neg hcomma, hmarks]
          rfl
        · rw [List.cons_append, segmentsFrom, if_neg hcomma, hboth]
          rfl
      | cons segment init =>
        refine ⟨(mark :: segment) :: init, last, ?_, ?_⟩
        · rw [segmentsFrom, if_neg hcomma, hmarks]
          rfl
        · rw [List.cons_append, segmentsFrom, if_neg hcomma, hboth]
          rfl

theorem trimCode_around {segment : List Marked} (hsegment : Scanned segment)
    (hall : Scanned (front ++ (segment ++ back))) (hfront : ∀ mark ∈ front, mark.isVisible = false)
    (hback : ∀ mark ∈ back, mark.isVisible = false) :
    trimCode ((front ++ (segment ++ back)).map Prod.fst) = trimCode (segment.map Prod.fst) := by
  obtain ⟨before, middle, after, hsplit, hvisible⟩ := exists_visibleWithin segment
  have hwide : VisibleWithin (front ++ before) middle (after ++ back) :=
    ⟨List.forall_mem_append.mpr ⟨hfront, hvisible.before⟩, hvisible.first, hvisible.last,
      List.forall_mem_append.mpr ⟨hvisible.after, hback⟩⟩
  rw [trimCode_eq (hsegment.trans hsplit) hvisible]
  exact trimCode_eq (hall.trans (by simp [hsplit])) hwide

theorem itemsOf_append_left (hmarks : Scanned marks) (hall : Scanned (front ++ marks))
    (hfront : ∀ mark ∈ front, mark.isVisible = false) :
    itemsOf (front ++ marks) = itemsOf marks := by
  have hlist : ∀ mark ∈ front, mark.isListMark = false := fun mark hmark =>
    Marked.isListMark_of_hidden (.inl (hfront mark hmark))
  have hsegmentsAll := segmentsFrom_append_left 0 marks hlist
  obtain ⟨segment, segments, hsegments⟩ :=
    List.exists_cons_of_ne_nil (segmentsFrom_ne_nil 0 marks)
  rw [hsegments, List.modifyHead_cons] at hsegmentsAll
  have hsegment : Scanned segment :=
    scanned_of_mem_segments hmarks (hsegments ▸ List.mem_cons_self)
  have hsegmentAll : Scanned (front ++ (segment ++ [])) := by
    rw [List.append_nil]
    exact scanned_of_mem_segments hall (hsegmentsAll ▸ List.mem_cons_self)
  have htrim := trimCode_around hsegment hsegmentAll hfront (by simp)
  rw [List.append_nil] at htrim
  rw [itemsOf, itemsOf, hsegmentsAll, hsegments, List.map_cons, List.map_cons, htrim]

theorem itemsOf_append_right (hmarks : Scanned marks) (hall : Scanned (marks ++ back))
    (hback : ∀ mark ∈ back, mark.isVisible = false) :
    itemsOf (marks ++ back) = itemsOf marks := by
  have hlist : ∀ mark ∈ back, mark.isListMark = false := fun mark hmark =>
    Marked.isListMark_of_hidden (.inl (hback mark hmark))
  obtain ⟨init, last, hsegments, hsegmentsAll⟩ := segmentsFrom_append_right 0 marks hlist
  have hlast : Scanned last := scanned_of_mem_segments hmarks (by rw [hsegments]; simp)
  have hlastAll : Scanned ([] ++ (last ++ back)) :=
    scanned_of_mem_segments hall (by rw [hsegmentsAll]; simp)
  have htrim := trimCode_around hlast hlastAll (by simp) hback
  rw [List.nil_append] at htrim
  rw [itemsOf, itemsOf, hsegments, hsegmentsAll, List.map_append, List.map_append, List.map_singleton,
    List.map_singleton, htrim]

end Around

/-- Pieces without parentheses and commas of the code stand inside the places for items. -/
theorem Rewritten.segments {Swap : List Marked → List Marked → Prop}
    (hp : Avoids Marked.isListMark Swap) (depth : Nat) (h : Rewritten Swap marks marks') :
    List.Forall₂ (Rewritten Swap) (segmentsFrom depth marks) (segmentsFrom depth marks') := by
  have hhead : ∀ {front front' : List Marked} {segments segments' : List (List Marked)},
      Rewritten Swap front front' → List.Forall₂ (Rewritten Swap) segments segments' →
        List.Forall₂ (Rewritten Swap) (segments.modifyHead (front ++ ·))
          (segments'.modifyHead (front' ++ ·)) := by
    intro front front' segments segments' hfront hsegments
    cases hsegments with
    | nil => exact .nil
    | cons hsegment hsegments => exact .cons (hfront.append hsegment) hsegments
  induction h generalizing depth with
  | nil => exact .cons .nil .nil
  | keep mark h ih =>
    rw [segmentsFrom, segmentsFrom]
    split_ifs
    · exact .cons .nil (ih depth)
    · exact hhead (.keep mark .nil) (ih (depthAfter depth mark))
  | @swap piece piece' marks marks' hpiece h ih =>
    rw [segmentsFrom_append_left depth _ (hp.left _ _ hpiece).2,
      segmentsFrom_append_left depth _ (hp.right _ _ hpiece).2]
    have hpieces : Rewritten Swap piece piece' := by simpa using Rewritten.swap hpiece .nil
    exact hhead hpieces (ih depth)

end QueryLint
