import QueryLint.Proofs.ItemSegments

/-!
Comments in place of white space. The bodies of a clause with and without its comments have the
same visible marks; where no comment stands inside an item, they have the same items, and where
none stands in the trimmed body, they are the same text.
-/

namespace QueryLint

def Uncommented (text : Text) : Prop := ∀ mark ∈ scan text, mark.2 ≠ .comment

/-- A comment, perhaps with the newline that ends it, in place of one white space character. -/
structure CommentSwap (piece piece' : List Marked) : Prop where
  first : ∃ mark ∈ piece.head?, mark.2 = .comment ∧ mark.isBlank = false
  hidden : ∀ mark ∈ piece, mark.isVisible = false
  last : ∀ mark ∈ piece.getLast?, mark.1 ≠ ';'
  blank : ∃ c, Text.isBlank c ∧ piece' = [(c, .code)]

namespace CommentSwap

theorem ne_nil {piece piece' : List Marked} (h : CommentSwap piece piece') : piece ≠ [] := by
  obtain ⟨mark, hmark, -⟩ := h.first
  rintro rfl
  cases hmark

theorem isBlank_right {piece piece' : List Marked} (h : CommentSwap piece piece') :
    piece' ≠ [] ∧ ∀ mark ∈ piece', mark.isBlank := by
  obtain ⟨c, hc, rfl⟩ := h.blank
  exact ⟨by simp, by simpa [Marked.isBlank] using hc⟩

theorem avoids {p : Marked → Bool} (hp : ∀ mark, p mark → mark.isVisible) :
    Avoids p CommentSwap := by
  have hnot : ∀ {mark : Marked}, mark.isVisible = false → p mark = false := by
    intro mark hmark
    by_contra h
    have hvisible := hp mark (by simpa using h)
    simp [hmark] at hvisible
  constructor
  · intro piece piece' h
    exact ⟨h.ne_nil, fun mark hmark => hnot (h.hidden mark hmark)⟩
  · intro piece' piece h
    obtain ⟨hne, hblank⟩ := isBlank_right h
    exact ⟨hne, fun mark hmark => hnot (Marked.isVisible_of_isBlank (hblank mark hmark))⟩

theorem avoids_isVisible : Avoids Marked.isVisible CommentSwap := avoids fun _ h => h

theorem avoids_isListMark : Avoids Marked.isListMark CommentSwap := by
  refine avoids fun mark hmark => ?_
  by_contra h
  have hnot := Marked.isListMark_of_hidden (.inl (by simpa using h))
  simp [hmark] at hnot

/-- No piece fits into white space, and the white space that replaces one stands for hidden
marks. -/
theorem unnoticed : Unnoticed CommentSwap fun mark => !mark.isVisible where
  words := avoids fun _ h => Marked.isVisible_of_isWord h
  forward := by
    refine ⟨fun _ h => h, fun piece piece' h hall => ?_⟩
    obtain ⟨mark, hmark, -, hblank⟩ := h.first
    simp [hall mark (List.mem_of_mem_head? hmark)] at hblank
  backward := by
    refine ⟨fun mark hmark => ?_, fun piece' piece h _ mark hmark => ?_⟩
    · simp [Marked.isVisible_of_isBlank hmark]
    · simp [h.hidden mark hmark]

end CommentSwap

namespace Rewritten

variable {Swap : List Marked → List Marked → Prop}
  {before middle after marks marks' : List Marked}

theorem hidden (hp : Avoids Marked.isVisible Swap) (h : Rewritten Swap marks marks')
    (hmarks : ∀ mark ∈ marks, mark.isVisible = false) : ∀ mark ∈ marks', mark.isVisible = false := by
  have hgap : Carries Swap (fun mark => !mark.isVisible) fun mark => !mark.isVisible :=
    ⟨fun _ hmark => hmark, fun piece piece' hpiece _ mark hmark => by
      simp [(hp.right piece' piece hpiece).2 mark hmark]⟩
  intro mark hmark
  simpa using h.forall_gap hgap (by simpa using hmarks) mark hmark

theorem visibleWithin (hp : Avoids Marked.isVisible Swap)
    (h : Rewritten Swap (before ++ (middle ++ after)) marks')
    (hvisible : VisibleWithin before middle after) :
    ∃ before' middle' after', marks' = before' ++ (middle' ++ after') ∧
      Rewritten Swap middle middle' ∧ VisibleWithin before' middle' after' := by
  cases middle with
  | nil =>
    refine ⟨marks', [], [], by simp, .nil, h.hidden hp ?_, by simp, by simp, by simp⟩
    exact List.forall_mem_append.mpr ⟨hvisible.before, hvisible.after⟩
  | cons first more =>
    have hfirst : first.isVisible := hvisible.first first rfl
    obtain ⟨before', rest', rfl, hbefore, hrest⟩ := h.split_of_misses hp.left
      (.inr fun mark hmark => by
        obtain rfl : first = mark := by simpa using hmark
        exact hfirst)
    obtain ⟨middle', after', rfl, hmiddle, hafter⟩ := hrest.split_of_misses hp.left
      (.inl hvisible.last)
    refine ⟨before', middle', after', rfl, hmiddle, hbefore.hidden hp hvisible.before, ?_, ?_,
      hafter.hidden hp hvisible.after⟩
    · obtain ⟨more', rfl⟩ := hmiddle.exists_cons hp.left hfirst
      simpa using hfirst
    · obtain ⟨init, last, hlast⟩ := (List.eq_nil_or_concat' (first :: more)).resolve_left (by simp)
      have hlastVisible : last.isVisible := hvisible.last last (by rw [hlast]; simp)
      rw [hlast] at hmiddle
      obtain ⟨init', rfl⟩ := hmiddle.exists_concat hp.left hlastVisible
      simpa using hlastVisible

end Rewritten

variable {marks marks' body body' core core' : List Marked} {result result' : Text}

/-- Where no mark of a comment is more than white space, no comment was replaced. -/
theorem eq_of_uncommented (h : Rewritten CommentSwap marks marks')
    (hmarks : ∀ mark ∈ marks, mark.2 = .comment → mark.isBlank) : marks' = marks := by
  refine h.eq_of_none fun piece piece' hpiece hwithin => ?_
  obtain ⟨mark, hmark, hcomment, hblank⟩ := hpiece.first
  have hmem := hwithin.subset (List.mem_of_mem_head? hmark)
  simp [hmarks mark hmem hcomment] at hblank

theorem trimCode_rewritten (h : Rewritten CommentSwap marks marks') (hmarks : Scanned marks)
    (hmarks' : Scanned marks') (hitem : Uncommented (trimCode (marks.map Prod.fst))) :
    trimCode (marks'.map Prod.fst) = trimCode (marks.map Prod.fst) := by
  obtain ⟨before, middle, after, hsplit, hvisible⟩ := exists_visibleWithin marks
  rw [hsplit] at h
  obtain ⟨before', middle', after', hsplit', hmiddle, hvisible'⟩ :=
    h.visibleWithin CommentSwap.avoids_isVisible hvisible
  have hscan := scan_trimCode (hmarks.trans hsplit) hvisible
  rw [Uncommented, hscan] at hitem
  rw [trimCode_eq (hmarks.trans hsplit) hvisible, trimCode_eq (hmarks'.trans hsplit') hvisible',
    eq_of_uncommented hmiddle fun mark hmark hcomment => absurd hcomment (hitem mark hmark)]

theorem map_trimCode_rewritten {segments segments' : List (List Marked)}
    (h : List.Forall₂ (Rewritten CommentSwap) segments segments')
    (hsegments : ∀ segment ∈ segments, Scanned segment)
    (hsegments' : ∀ segment ∈ segments', Scanned segment)
    (hitems : ∀ segment ∈ segments, Uncommented (trimCode (segment.map Prod.fst))) :
    segments'.map (fun segment => trimCode (segment.map Prod.fst)) =
      segments.map fun segment => trimCode (segment.map Prod.fst) := by
  induction h with
  | nil => rfl
  | cons hsegment _ ih =>
    obtain ⟨hfirst, hrest⟩ := List.forall_mem_cons.mp hsegments
    obtain ⟨hfirst', hrest'⟩ := List.forall_mem_cons.mp hsegments'
    obtain ⟨hitem, hothers⟩ := List.forall_mem_cons.mp hitems
    rw [List.map_cons, List.map_cons, trimCode_rewritten hsegment hfirst hfirst' hitem,
      ih hrest hrest' hothers]

/-- A list has the same items without its comments when none of them stands inside an item. -/
theorem itemsOf_rewritten (h : Rewritten CommentSwap marks marks') (hmarks : Scanned marks)
    (hmarks' : Scanned marks') (hitems : ∀ item ∈ itemsOf marks, Uncommented item) :
    itemsOf marks' = itemsOf marks := by
  have hsegments : ∀ segment ∈ segmentsFrom 0 marks,
      Uncommented (trimCode (segment.map Prod.fst)) := by
    intro segment hsegment
    by_cases hempty : trimCode (segment.map Prod.fst) = []
    · rw [hempty]
      intro mark hmark
      cases hmark
    · refine hitems _ (List.mem_filter.mpr ⟨List.mem_map_of_mem hsegment, ?_⟩)
      simpa using hempty
  rw [itemsOf, itemsOf, map_trimCode_rewritten (h.segments CommentSwap.avoids_isListMark 0)
    (fun _ => scanned_of_mem_segments hmarks) (fun _ => scanned_of_mem_segments hmarks') hsegments]

namespace CoreOf

theorem splitItems_eq (h : CoreOf result core) : splitItems result = itemsOf core := by
  obtain ⟨blanks, hcore, hblank⟩ := h.exists_blanks
  rw [QueryLint.splitItems_eq, hcore]
  refine (itemsOf_append_right (scanned_scan result) (hcore ▸ h.scanned) fun mark hmark => ?_).symm
  exact Marked.isVisible_of_isBlank (hblank mark hmark)

end CoreOf

/-- Two trimmed clause bodies that are the same but for comments in place of white space. -/
def SameButComments (result result' : Text) : Prop :=
  ∃ core core', Rewritten CommentSwap core core' ∧ CoreOf result core ∧ CoreOf result' core'

namespace SameButComments

theorem eq_of_uncommented (h : SameButComments result result') (hresult : Uncommented result) :
    result' = result := by
  obtain ⟨core, core', hcores, hcore, hcore'⟩ := h
  obtain ⟨blanks, hsplit, hblank⟩ := hcore.exists_blanks
  have hsame : core' = core := by
    refine QueryLint.eq_of_uncommented hcores fun mark hmark hcomment => ?_
    rw [hsplit] at hmark
    rcases List.mem_append.mp hmark with hkept | hcut
    · exact absurd hcomment (hresult mark hkept)
    · exact hblank mark hcut
  rw [← hcore.trimmed, ← hcore'.trimmed, hsame]

theorem splitItems_eq (h : SameButComments result result')
    (hitems : ∀ item ∈ splitItems result, Uncommented item) :
    splitItems result' = splitItems result := by
  obtain ⟨core, core', hcores, hcore, hcore'⟩ := h
  rw [hcore.splitItems_eq] at hitems ⊢
  rw [hcore'.splitItems_eq, itemsOf_rewritten hcores hcore.scanned hcore'.scanned hitems]

/-- Replaced comments stand in front of the semicolons that are cut off a clause body. -/
theorem of_rewritten (h : Rewritten CommentSwap body body') (hbody : Scanned body)
    (hbody' : Scanned body') :
    SameButComments (trimClause (body.map Prod.fst)) (trimClause (body'.map Prod.fst)) := by
  obtain ⟨before, core, cut, after, rfl, hvisible, hcut, hlast⟩ := exists_core body
  obtain ⟨before', middle', after', rfl, hmiddle, hvisible'⟩ :=
    h.visibleWithin CommentSwap.avoids_isVisible hvisible
  have hpiece : ∀ {piece piece' left right : List Marked}, CommentSwap piece piece' →
      piece = left ++ right → right ≠ [] → ¬∀ mark ∈ right, mark.1 = ';' := by
    rintro piece piece' left right hswap rfl hright hall
    obtain ⟨init, last, rfl⟩ := (List.eq_nil_or_concat' right).resolve_left hright
    exact hswap.last last (by simp) (hall last (by simp))
  obtain ⟨core', cut', rfl, hcores, hcuts⟩ := hmiddle.split
    fun left right piece' hswap _ hright _ hwithin =>
      hpiece hswap rfl hright fun mark hmark => hcut mark (hwithin.subset hmark)
  obtain rfl : cut' = cut := hcuts.eq_of_none fun piece piece' hswap hwithin =>
    hpiece hswap (List.nil_append piece).symm hswap.ne_nil fun mark hmark =>
      hcut mark (hwithin.subset hmark)
  refine ⟨core, core', hcores, .of_visible hbody hvisible hcut hlast,
    .of_visible hbody' hvisible' hcut fun mark hmark => ?_⟩
  have hsemicolon : Misses (fun mark => mark.1 = ';') (flip CommentSwap) := by
    intro blank piece hswap
    obtain ⟨c, hc, rfl⟩ := CommentSwap.blank hswap
    refine ⟨by simp, ?_⟩
    have hne : c ≠ ';' := by
      rintro rfl
      exact absurd hc (by decide)
    simpa using hne
  simpa using hcores.last hsemicolon (by simpa using hlast) mark hmark

end SameButComments

end QueryLint
