import QueryLint.Proofs.ItemSplitting
import QueryLint.Proofs.SortSuffixes
import QueryLint.Proofs.TextParts
import QueryLint.Proofs.Trimming

/-!
The places of sort keys in a statement. A key stands in one of the places for items of the ORDER BY
body, and what is written right behind it belongs to it, as long as that holds no separator and ends
in a visible character.
-/

namespace QueryLint

open Text Scan

def itemSpans (list : Text) : List Span :=
  ((spansBetween 0 list.length (topLevelCommas list)).map fun span =>
    (visibleSpan (span.slice list)).moved span.start).filter fun span => span.start < span.stop

def sortKeys (text : Text) : List Span :=
  match clauseSpan? text Clause.ordering.opening Clause.ordering.boundaries with
  | none => []
  | some span =>
    (itemSpans (trimClause (span.slice text))).map
      (·.moved (span.start + (visibleSpan (span.slice text)).start))

theorem stop_le_of_mem_itemSpans {list : Text} {item : Span} (h : item ∈ itemSpans list) :
    item.stop ≤ list.length := by
  obtain ⟨hmem, hlt⟩ := List.mem_filter.mp h
  obtain ⟨span, -, rfl⟩ := List.mem_map.mp hmem
  have hbounds := (visibleSpan_bounds (span.slice list)).2
  have hlength : (span.slice list).length ≤ list.length - span.start := by
    rw [Span.slice, List.length_take, List.length_drop]
    exact Nat.min_le_right _ _
  have hvisible : (visibleSpan (span.slice list)).start < (visibleSpan (span.slice list)).stop := by
    simpa [Span.moved] using hlt
  simp only [Span.moved]
  omega

theorem map_slice_itemSpans (list : Text) : (itemSpans list).map (·.slice list) = splitItems list := by
  have hitem : ∀ span : Span, ((visibleSpan (span.slice list)).moved span.start).slice list =
      trimCode (span.slice list) := by
    intro span
    rw [Span.slice_moved, trimCode]
    exact Span.slice_of_isPrefix (List.take_prefix _ _) (visibleSpan_bounds _).2
  have hkept : ∀ span : Span, decide (((visibleSpan (span.slice list)).moved span.start).start <
      ((visibleSpan (span.slice list)).moved span.start).stop) =
        !(trimCode (span.slice list)).isEmpty := by
    intro span
    have hlength := length_slice (visibleSpan_bounds (span.slice list)).2
    rw [← trimCode] at hlength
    rw [Bool.eq_iff_iff, decide_eq_true_eq, Bool.not_eq_true', List.isEmpty_eq_false_iff,
      ← List.length_pos_iff, hlength]
    simp only [Span.moved]
    omega
  rw [itemSpans, splitItems, List.filter_map, List.filter_map, List.map_map]
  simp only [Function.comp_def, hitem, hkept]

/-- The places of the sort keys of a statement hold the items of its ORDER BY body. -/
theorem map_slice_sortKeys {text body : Text}
    (h : ClauseReader.lexical.clause text .ordering = some body) :
    (sortKeys text).map (·.slice text) = splitItems body := by
  obtain ⟨span, hspan, rfl⟩ := Option.map_eq_some_iff.mp h
  have hbody : trimClause (span.slice text) <+:
      text.drop (span.start + (visibleSpan (span.slice text)).start) := by
    rw [← List.drop_drop]
    calc trimClause (span.slice text)
      _ <+: trimCode (span.slice text) :=
        (dropWhileEnd_isPrefix _ _).trans (dropWhileEnd_isPrefix _ _)
      _ <+: (span.slice text).drop (visibleSpan (span.slice text)).start := List.take_prefix _ _
      _ <+: (text.drop span.start).drop (visibleSpan (span.slice text)).start :=
        (List.take_prefix _ _).drop _
  simp only [sortKeys, hspan, List.map_map, ← map_slice_itemSpans]
  apply List.map_congr_left
  intro item hitem
  show (item.moved _).slice text = _
  rw [Span.slice_moved]
  exact Span.slice_of_isPrefix hbody (stop_le_of_mem_itemSpans hitem)

theorem bounds_of_mem_sortKeys {text : Text} {ordering key : Span}
    (hordering : clauseSpan? text Clause.ordering.opening Clause.ordering.boundaries = some ordering)
    (h : key ∈ sortKeys text) : ordering.start ≤ key.start ∧ key.start < key.stop := by
  rw [sortKeys, hordering] at h
  obtain ⟨item, hitem, rfl⟩ := List.mem_map.mp h
  have hlt : item.start < item.stop := by
    simpa using (List.mem_filter.mp hitem).2
  simp only [Span.moved]
  omega

section Segments

variable {front back more segment marks : List Marked} {segments : List (List Marked)}
  {depth : Nat}

theorem Segmented.segmentsFrom_eq (h : Segmented marks segments) : segmentsFrom 0 marks = segments := by
  induction h with
  | last hmarks => exact hmarks
  | @next segment rest segments hsegment hdepth hrest ih =>
    rw [segmentsFrom_append _ hsegment, hdepth, segmentsFrom, if_pos (by decide), ih,
      List.modifyHead_cons, List.append_nil]

theorem segmentsFrom_insert (hmore : ∀ mark ∈ more, mark.isListMark = false)
    (h : segmentsFrom depth (front ++ back) = [front ++ back]) :
    segmentsFrom depth (front ++ (more ++ back)) = [front ++ (more ++ back)] := by
  induction front generalizing depth with
  | nil =>
    rw [List.nil_append] at h
    rw [List.nil_append, segmentsFrom_append_left depth back hmore, h, List.modifyHead_cons]
  | cons mark front ih =>
    rw [List.cons_append, segmentsFrom] at h
    split_ifs at h with hcomma
    · simp at h
    · obtain ⟨segment, segments, hsegments⟩ :=
        List.exists_cons_of_ne_nil (segmentsFrom_ne_nil (depthAfter depth mark) (front ++ back))
      have hrest : segmentsFrom (depthAfter depth mark) (front ++ back) = [front ++ back] := by
        rw [hsegments] at h ⊢
        simpa using h
      rw [List.cons_append, segmentsFrom, if_neg hcomma, ih hrest, List.modifyHead_cons]

theorem commasFrom_append (position : Nat) (back : List Marked)
    (h : segmentsFrom depth front = [front]) :
    commasFrom position depth (front ++ back) =
      commasFrom (position + front.length) (depthFrom depth front) back := by
  induction front generalizing position depth with
  | nil => rfl
  | cons mark front ih =>
    rw [segmentsFrom] at h
    split_ifs at h with hcomma
    · simp at h
    · obtain ⟨segment, segments, hsegments⟩ :=
        List.exists_cons_of_ne_nil (segmentsFrom_ne_nil (depthAfter depth mark) front)
      have hfront : segmentsFrom (depthAfter depth mark) front = [front] := by
        rw [hsegments] at h ⊢
        simpa using h
      rw [List.cons_append, commasFrom_cons, if_neg hcomma, ih _ hfront, List.length_cons,
        Nat.add_right_comm, Nat.add_assoc]
      rfl

/-- A place for an item stands alone: other marks in it leave the other places as they are. -/
theorem Segmented.exists_of_mem_spans {start : Nat} {span : Span} (h : Segmented marks segments)
    (hspan : span ∈ spansBetween start (start + marks.length) (commasFrom start 0 marks)) :
    ∃ front segment back earlier later, marks = front ++ (segment ++ back) ∧
      span = ⟨start + front.length, start + front.length + segment.length⟩ ∧
      segments = earlier ++ segment :: later ∧ Undivided segment ∧
      ∀ segment', Undivided segment' → depthFrom 0 segment' = depthFrom 0 segment →
        Segmented (front ++ (segment' ++ back)) (earlier ++ segment' :: later) := by
  induction h generalizing start with
  | @last marks hmarks =>
    have hnone : commasFrom start 0 marks = [] := by
      have hall := commasFrom_append start [] hmarks
      rwa [List.append_nil] at hall
    rw [hnone, spansBetween, List.mem_singleton] at hspan
    refine ⟨[], marks, [], [], [], by simp, by simpa using hspan, rfl, hmarks, ?_⟩
    intro segment' hsegment' _
    simpa using Segmented.last hsegment'
  | @next segment rest segments hsegment hdepth hrest ih =>
    have hcommas : commasFrom start 0 (segment ++ (',', .code) :: rest) =
        (start + segment.length) :: commasFrom (start + segment.length + 1) 0 rest := by
      rw [commasFrom_append _ _ hsegment, hdepth, commasFrom_cons, if_pos (by decide)]
    have hstop : start + (segment ++ (',', .code) :: rest).length =
        start + segment.length + 1 + rest.length := by
      simp only [List.length_append, List.length_cons]
      omega
    rw [hcommas, spansBetween, hstop] at hspan
    rcases List.mem_cons.mp hspan with rfl | hlater
    · refine ⟨[], segment, (',', .code) :: rest, [], segments, rfl, by simp, rfl, hsegment, ?_⟩
      intro segment' hsegment' hdepth'
      exact .next hsegment' (hdepth'.trans hdepth) hrest
    · obtain ⟨front, middle, back, earlier, later, rfl, rfl, rfl, hmiddle, hswap⟩ := ih hlater
      refine ⟨segment ++ (',', .code) :: front, middle, back, segment :: earlier, later, by simp,
        ?_, rfl, hmiddle, ?_⟩
      · simp only [List.length_append, List.length_cons, Span.mk.injEq]
        omega
      · intro segment' hsegment' hdepth'
        have hnext := Segmented.next hsegment hdepth (hswap segment' hsegment' hdepth')
        simpa using hnext

end Segments

theorem trimCode_insert {before item after more : List Marked}
    (hvisible : VisibleWithin before item after) (hne : item ≠ [])
    (hlast : ∀ mark ∈ more.getLast?, mark.isVisible)
    (h : Scanned (before ++ ((item ++ more) ++ after))) :
    trimCode ((before ++ ((item ++ more) ++ after)).map Prod.fst) = (item ++ more).map Prod.fst := by
  refine trimCode_eq h ⟨hvisible.before, ?_, ?_, hvisible.after⟩
  · rw [List.head?_append_of_ne_nil _ hne]
    exact hvisible.first
  · by_cases hmore : more = []
    · rw [hmore, List.append_nil]
      exact hvisible.last
    · rw [List.getLast?_append_of_ne_nil _ hmore]
      exact hlast

theorem exists_visible {segment : List Marked} (h : Scanned segment)
    (hvisible : (visibleSpan (segment.map Prod.fst)).start <
      (visibleSpan (segment.map Prod.fst)).stop) :
    ∃ before item after, segment = before ++ (item ++ after) ∧ VisibleWithin before item after ∧
      item ≠ [] ∧
      visibleSpan (segment.map Prod.fst) = ⟨before.length, before.length + item.length⟩ := by
  obtain ⟨before, item, after, hsplit, hwithin⟩ := exists_visibleWithin segment
  have hne : item ≠ [] := by
    rintro rfl
    have hhidden : visibleSpan (segment.map Prod.fst) = ⟨0, 0⟩ := by
      apply visibleSpan_of_hidden
      rw [h, hsplit]
      intro mark hmark
      exact (List.mem_append.mp hmark).elim (hwithin.before mark) (hwithin.after mark)
    rw [hhidden] at hvisible
    exact Nat.lt_irrefl 0 hvisible
  exact ⟨before, item, after, hsplit, hwithin, hne,
    visibleSpan_of_visibleWithin (h.trans hsplit) hwithin hne⟩

theorem itemsOf_of_segments {marks segment item : List Marked} {earlier later : List (List Marked)}
    (hsegments : segmentsFrom 0 marks = earlier ++ segment :: later)
    (hitem : trimCode (segment.map Prod.fst) = item.map Prod.fst) (hne : item ≠ []) :
    itemsOf marks =
      (earlier.map fun segment => trimCode (segment.map Prod.fst)).filter (!·.isEmpty) ++
        item.map Prod.fst ::
          (later.map fun segment => trimCode (segment.map Prod.fst)).filter (!·.isEmpty) := by
  rw [itemsOf, hsegments, List.map_append, List.map_cons, hitem, List.filter_append,
    List.filter_cons_of_pos (by simp [hne])]

/-- An item in its place among the marks and the items of a list. Marks that hold no separator and
end visibly can be put behind the item, and belong to it. -/
structure ItemAt (list : Text) (place : Span) (front item back : List Marked)
    (earlier later : List Text) : Prop where
  split : scan list = front ++ (item ++ back)
  ne_nil : item ≠ []
  last : ∀ mark ∈ item.getLast?, mark.isVisible
  place_eq : place = ⟨front.length, front.length + item.length⟩
  items : splitItems list = earlier ++ item.map Prod.fst :: later
  insert : ∀ more, (∀ mark ∈ more, mark.isListMark = false) →
    (∀ mark ∈ more.getLast?, mark.isVisible) → Scanned (front ++ (item ++ (more ++ back))) →
      itemsOf (front ++ (item ++ (more ++ back))) = earlier ++ (item ++ more).map Prod.fst :: later

theorem exists_itemAt {list : Text} {place : Span} (h : place ∈ itemSpans list) :
    ∃ front item back earlier later, ItemAt list place front item back earlier later := by
  obtain ⟨hmem, hnonempty⟩ := List.mem_filter.mp h
  obtain ⟨span, hspan, rfl⟩ := List.mem_map.mp hmem
  rw [topLevelCommas, ← Nat.zero_add list.length, ← length_scan] at hspan
  obtain ⟨front, segment, back, earlier, later, hsplit, rfl, hsegments, hundivided, hswap⟩ :=
    (segmented_segmentsFrom (scan list)).exists_of_mem_spans hspan
  have hslice : Span.slice ⟨0 + front.length, 0 + front.length + segment.length⟩ list =
      segment.map Prod.fst := by
    rw [Nat.zero_add]
    exact Keyword.slice_of_drop_eq (Keyword.drop_of_scan_eq hsplit)
  have hsegment : Scanned segment :=
    scanned_of_mem_segments (scanned_scan list) (by rw [hsegments]; simp)
  rw [hslice] at hnonempty ⊢
  obtain ⟨before, item, after, rfl, hvisible, hne, hplace⟩ :=
    exists_visible hsegment (by simpa [Span.moved] using hnonempty)
  refine ⟨front ++ before, item, after ++ back, _, _, by simp [hsplit], hne, hvisible.last, ?_,
    (splitItems_eq list).trans (itemsOf_of_segments hsegments (trimCode_eq hsegment hvisible) hne),
    fun more hmore hlast hscanned => ?_⟩
  · rw [hplace]
    simp only [Span.moved, List.length_append, Span.mk.injEq]
    omega
  · have hlong : Undivided (before ++ ((item ++ more) ++ after)) := by
      have hcut : segmentsFrom 0 ((before ++ item) ++ after) = [(before ++ item) ++ after] := by
        simpa [Undivided] using hundivided
      have hinsert := segmentsFrom_insert hmore hcut
      simpa [Undivided] using hinsert
    have hdepth : depthFrom 0 (before ++ ((item ++ more) ++ after)) =
        depthFrom 0 (before ++ (item ++ after)) := by
      simp only [depthFrom_append, depthFrom_of_not_listMark _ hmore]
    have hall := (hswap _ hlong hdepth).segmentsFrom_eq
    have hsame : front ++ before ++ (item ++ (more ++ (after ++ back))) =
        front ++ ((before ++ ((item ++ more) ++ after)) ++ back) := by simp
    rw [hsame] at hscanned ⊢
    have hread : Scanned (before ++ ((item ++ more) ++ after)) :=
      scanned_of_mem_segments hscanned (by rw [hall]; simp)
    exact itemsOf_of_segments hall (trimCode_insert hvisible hne hlast hread) (by simp [hne])

theorem getLast?_insert {P : Marked → Prop} (front : List Marked) {front' more back : List Marked}
    (hne : more ≠ []) (hmore : ∀ mark ∈ more.getLast?, P mark)
    (hback : ∀ mark ∈ (front ++ back).getLast?, P mark) :
    ∀ mark ∈ (front' ++ (more ++ back)).getLast?, P mark := by
  have hboth : more ++ back ≠ [] := by simp [hne]
  rw [List.getLast?_append_of_ne_nil _ hboth]
  by_cases hnil : back = []
  · rwa [hnil, List.append_nil]
  · rw [List.getLast?_append_of_ne_nil _ hnil] at hback ⊢
    exact hback

namespace TrimmedBody

variable {lead kept blanks cut trail front back more : List Marked}

/-- What is put behind the first visible mark of a body, in marks that end visibly and with no
semicolon, is not trimmed off. -/
theorem insert (h : TrimmedBody lead (front ++ back) blanks cut trail) (hne : front ≠ [])
    (hmore : ∃ mark ∈ more.getLast?, mark.isVisible ∧ mark.1 ≠ ';') :
    TrimmedBody lead (front ++ (more ++ back)) blanks cut trail := by
  obtain ⟨last, hlast, hvisible, hplain⟩ := hmore
  have hmoreNe : more ≠ [] := by
    rintro rfl
    cases hlast
  have hends : ∀ {P : Marked → Prop}, P last → ∀ mark ∈ more.getLast?, P mark := by
    intro P hP mark hmark
    rwa [Option.mem_unique hmark hlast]
  have hblank : last.isBlank = false := Marked.isBlank_of_isVisible hvisible
  have hfirst := h.visible.first
  have hseen := h.visible.last
  have hcore := h.plain
  simp only [List.append_assoc, List.head?_append_of_ne_nil _ hne] at hfirst hseen hcore
  refine ⟨⟨h.visible.before, ?_, ?_, h.visible.after⟩, ?_, h.blank, h.cut, ?_⟩
  · simpa only [List.append_assoc, List.head?_append_of_ne_nil _ hne] using hfirst
  · simpa only [List.append_assoc] using getLast?_insert front hmoreNe (hends hvisible) hseen
  · exact getLast?_insert front hmoreNe (hends hblank) h.last
  · simpa only [List.append_assoc] using getLast?_insert front hmoreNe (hends hplain) hcore

end TrimmedBody

/-- A sort key in its place among the marks and the items of a statement: the marks before the
ORDER BY body, those of the body before and after the key, and those after the body. Marks that hold
no separator and end visibly, and not with a semicolon, can be put behind the key, and belong to
it. -/
structure SortKeyAt (text : Text) (place : Span) (before keyword front key back rest : List Marked)
    (ordering : Text) (earlier later : List Text) : Prop where
  split : scan text = before ++ (keyword ++ ((front ++ (key ++ back)) ++ rest))
  clauseAt : ClauseAt Clause.ordering.opening Clause.ordering.boundaries before keyword
    (front ++ (key ++ back)) rest
  ne_nil : key ≠ []
  last : ∀ mark ∈ key.getLast?, mark.isVisible
  place_eq : place = ⟨(before ++ (keyword ++ front)).length,
    (before ++ (keyword ++ front)).length + key.length⟩
  clause : ClauseReader.lexical.clause text .ordering = some ordering
  items : splitItems ordering = earlier ++ key.map Prod.fst :: later
  insert : ∀ more, (∀ mark ∈ more, mark.isListMark = false) →
    (∃ mark ∈ more.getLast?, mark.isVisible ∧ mark.1 ≠ ';') →
      Scanned (front ++ (key ++ (more ++ back))) →
        splitItems (trimClause ((front ++ (key ++ (more ++ back))).map Prod.fst)) =
          earlier ++ (key ++ more).map Prod.fst :: later

theorem exists_sortKeyAt {text : Text} {place : Span} (h : place ∈ sortKeys text) :
    ∃ before keyword front key back rest ordering earlier later,
      SortKeyAt text place before keyword front key back rest ordering earlier later := by
  rcases clauseSpan?_cases text Clause.ordering.opening Clause.ordering.boundaries with
    ⟨hnone, -⟩ | ⟨before, keyword, body, rest, hsplit, hclause, hspan⟩
  · rw [sortKeys, hnone] at h
    cases h
  have hslice : Span.slice ⟨(before ++ keyword).length, (before ++ keyword).length + body.length⟩ text =
      body.map Prod.fst := by
    rw [← List.append_assoc] at hsplit
    exact Keyword.slice_of_drop_eq (Keyword.drop_of_scan_eq hsplit)
  have hbody : Scanned body := hclause.scanned_body (hsplit ▸ scanned_scan text)
  obtain ⟨lead, kept, blanks, cut, trail, hparts, hkept, htrimmed⟩ := exists_trimmedBody hbody
  rw [sortKeys, hspan] at h
  simp only [hslice] at h
  obtain ⟨inner, hinner, rfl⟩ := List.mem_map.mp h
  obtain ⟨front, key, back, earlier, later, hkey⟩ := exists_itemAt hinner
  obtain rfl := hkept.trans hkey.split
  have hmiddle : ((front ++ (key ++ back)) ++ blanks) ++ cut ≠ [] := by simp [hkey.ne_nil]
  have hlead : visibleSpan (body.map Prod.fst) =
      ⟨lead.length, lead.length + (((front ++ (key ++ back)) ++ blanks) ++ cut).length⟩ :=
    visibleSpan_of_visibleWithin (hbody.trans hparts) htrimmed.visible hmiddle
  have hbodySplit : body = (lead ++ front) ++ (key ++ (back ++ (blanks ++ (cut ++ trail)))) := by
    simp [hparts]
  refine ⟨before, keyword, lead ++ front, key, back ++ (blanks ++ (cut ++ trail)), rest,
    trimClause (body.map Prod.fst), earlier, later, hbodySplit ▸ hsplit, hbodySplit ▸ hclause,
    hkey.ne_nil, hkey.last, ?_, extractClause_eq_some hsplit hclause, hkey.items,
    fun more hmore hlast hscanned => ?_⟩
  · rw [hlead, hkey.place_eq]
    simp only [Span.moved, List.length_append, Span.mk.injEq]
    omega
  · have hlonger : TrimmedBody lead (front ++ (key ++ (more ++ back))) blanks cut trail := by
      rw [← List.append_assoc] at htrimmed ⊢
      exact htrimmed.insert (by simp [hkey.ne_nil]) hlast
    have hmarks : (lead ++ front) ++ (key ++ (more ++ (back ++ (blanks ++ (cut ++ trail))))) =
        lead ++ (((front ++ (key ++ (more ++ back)) ++ blanks) ++ cut) ++ trail) := by
      simp
    rw [hmarks] at hscanned ⊢
    obtain ⟨hread, htrim⟩ := hlonger.trimmed hscanned
    rw [htrim, splitItems_eq, hread]
    refine hkey.insert more hmore (fun mark hmark => ?_) hread
    obtain ⟨last, hmoreLast, hvisible, -⟩ := hlast
    rwa [Option.mem_unique hmark hmoreLast]

end QueryLint
