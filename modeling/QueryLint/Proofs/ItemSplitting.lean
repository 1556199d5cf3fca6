import QueryLint.Proofs.HiddenText
import QueryLint.Proofs.ItemSegments

/-!
A comma-separated list and its items. The places for items are the marks between the commas outside
parentheses; every place but the last ends in the code with no parenthesis open, so that an item
reads on its own as it does in its list, and in front of another item as well.
-/

namespace QueryLint

open Scan

/-- The number of open parentheses after marks; one that closes none leaves it at zero. -/
def depthFrom (depth : Nat) (marks : List Marked) : Nat := marks.foldl depthAfter depth

/-- The characters that are no white space and in no comment. -/
def visibleChars (marks : List Marked) : Text := (marks.filter Marked.isVisible).map Prod.fst

def withoutSeparators (text : Text) : List Marked :=
  ((scan text).zipIdx.filter fun entry => entry.2 ∉ topLevelCommas text).map Prod.fst

theorem depthFrom_append (depth : Nat) (front back : List Marked) :
    depthFrom depth (front ++ back) = depthFrom (depthFrom depth front) back :=
  List.foldl_append

variable {marks segment front back rest : List Marked} {segments : List (List Marked)}
  {depth position : Nat}

def Undivided (marks : List Marked) : Prop := segmentsFrom 0 marks = [marks]

/-- A list of marks with the places for its items. Every comma between items stands in the code,
where no parenthesis is open. -/
inductive Segmented : List Marked → List (List Marked) → Prop
  | last {marks : List Marked} (hmarks : Undivided marks) : Segmented marks [marks]
  | next {segment rest : List Marked} {segments : List (List Marked)}
      (hsegment : Undivided segment) (hdepth : depthFrom 0 segment = 0)
      (hrest : Segmented rest segments) :
      Segmented (segment ++ (',', .code) :: rest) (segment :: segments)

theorem segmentsFrom_append (back : List Marked) (h : segmentsFrom depth front = [front]) :
    segmentsFrom depth (front ++ back) =
      (segmentsFrom (depthFrom depth front) back).modifyHead (front ++ ·) := by
  induction front generalizing depth with
  | nil =>
    obtain ⟨segment, segments, hsegments⟩ :=
      List.exists_cons_of_ne_nil (segmentsFrom_ne_nil depth back)
    simp [depthFrom, hsegments]
  | cons mark front ih =>
    obtain ⟨segment, segments, hsegments⟩ :=
      List.exists_cons_of_ne_nil (segmentsFrom_ne_nil (depthAfter depth mark) front)
    rw [segmentsFrom] at h
    split_ifs at h with hcomma
    · simp at h
    · have hfront : segmentsFrom (depthAfter depth mark) front = [front] := by
        rw [hsegments] at h ⊢
        simpa using h
      rw [List.cons_append, segmentsFrom, if_neg hcomma, ih hfront, List.modifyHead_modifyHead]
      rfl

theorem segmented_append (hfront : Undivided front) (marks : List Marked) :
    Segmented (front ++ marks)
      ((segmentsFrom (depthFrom 0 front) marks).modifyHead (front ++ ·)) := by
  induction marks generalizing front with
  | nil =>
    rw [List.append_nil]
    simpa [segmentsFrom] using Segmented.last hfront
  | cons mark marks ih =>
    rw [segmentsFrom]
    split_ifs with hcomma
    · obtain ⟨hmark, hdepth⟩ : mark = (',', .code) ∧ depthFrom 0 front = 0 := by
        simpa [Marked.isCode_iff] using hcomma
      have hnil : Undivided [] := rfl
      have hrest := ih hnil
      obtain ⟨segment, segments, hsegments⟩ :=
        List.exists_cons_of_ne_nil (segmentsFrom_ne_nil 0 marks)
      simp only [depthFrom, List.foldl_nil, hsegments, List.modifyHead_cons, List.nil_append] at hrest
      rw [hmark, hdepth, hsegments, List.modifyHead_cons, List.append_nil]
      exact .next hfront hdepth hrest
    · have hlonger : Undivided (front ++ [mark]) := by
        rw [Undivided, segmentsFrom_append [mark] hfront]
        simp [segmentsFrom, hcomma]
      have hrest := ih hlonger
      rw [depthFrom, List.foldl_append, List.append_assoc] at hrest
      rw [List.modifyHead_modifyHead]
      simpa [Function.comp_def, depthFrom] using hrest

theorem segmented_segmentsFrom (marks : List Marked) : Segmented marks (segmentsFrom 0 marks) := by
  obtain ⟨segment, segments, hsegments⟩ :=
    List.exists_cons_of_ne_nil (segmentsFrom_ne_nil 0 marks)
  have hnil : Undivided [] := rfl
  have h := segmented_append hnil marks
  simpa [depthFrom, hsegments] using h

section Commas

/-- A comma separates items where it stands in the code and no parenthesis is open. -/
theorem mem_commasFrom_iff {cut : Nat} :
    cut ∈ commasFrom position depth marks ↔
      ∃ front rest, marks = front ++ (',', .code) :: rest ∧ cut = position + front.length ∧
        depthFrom depth front = 0 := by
  induction marks generalizing position depth with
  | nil => simp [commasFrom]
  | cons mark marks ih =>
    -- a later comma stands behind the first mark
    have hlater : cut ∈ commasFrom (position + 1) (depthAfter depth mark) marks ↔
        ∃ front rest, mark :: marks = (mark :: front) ++ (',', .code) :: rest ∧
          cut = position + (mark :: front).length ∧ depthFrom depth (mark :: front) = 0 := by
      simp only [ih, List.cons_append, List.cons.injEq, true_and, List.length_cons, depthFrom,
        List.foldl_cons]
      simp only [Nat.add_assoc, Nat.add_comm 1]
    rw [commasFrom_cons]
    split_ifs with hcomma
    · obtain ⟨rfl, rfl⟩ : mark = (',', .code) ∧ depth = 0 := by
        simpa [Marked.isCode_iff] using hcomma
      have hdepth : depthAfter 0 (',', .code) = 0 := rfl
      rw [hdepth] at hlater
      rw [List.mem_cons, hlater]
      constructor
      · rintro (rfl | ⟨front, rest, h⟩)
        · exact ⟨[], marks, rfl, rfl, rfl⟩
        · exact ⟨_, rest, h⟩
      · rintro ⟨front, rest, hmarks, hcut, hdepth⟩
        cases front with
        | nil => exact .inl hcut
        | cons first front =>
          obtain ⟨rfl, -⟩ := List.cons.inj hmarks
          exact .inr ⟨front, rest, hmarks, hcut, hdepth⟩
    · rw [hlater]
      constructor
      · rintro ⟨front, rest, h⟩
        exact ⟨_, rest, h⟩
      · rintro ⟨front, rest, hmarks, hcut, hdepth⟩
        cases front with
        | nil =>
          obtain ⟨rfl, -⟩ := List.cons.inj hmarks
          exact absurd (by simpa [Marked.isCode_iff, depthFrom] using hdepth) hcomma
        | cons first front =>
          obtain ⟨rfl, -⟩ := List.cons.inj hmarks
          exact ⟨front, rest, hmarks, hcut, hdepth⟩

theorem length_segmentsFrom (position depth : Nat) (marks : List Marked) :
    (segmentsFrom depth marks).length = (commasFrom position depth marks).length + 1 := by
  induction marks generalizing position depth with
  | nil => rfl
  | cons mark marks ih =>
    rw [segmentsFrom, commasFrom_cons]
    split_ifs
    · rw [List.length_cons, List.length_cons, ← ih (position + 1)]
    · rw [List.length_modifyHead, ← ih (position + 1)]

theorem flatten_segmentsFrom (position depth : Nat) (marks : List Marked) :
    ((marks.zipIdx position).filter fun entry => entry.2 ∉ commasFrom position depth marks).map
        Prod.fst = (segmentsFrom depth marks).flatten := by
  induction marks generalizing position depth with
  | nil => rfl
  | cons mark marks ih =>
    have hle : ∀ entry ∈ marks.zipIdx (position + 1), position ≠ entry.2 := by
      intro entry hentry
      have := List.le_snd_of_mem_zipIdx hentry
      omega
    rw [List.zipIdx_cons, segmentsFrom, commasFrom_cons]
    split_ifs with hcomma
    · rw [List.flatten_cons, List.nil_append, ← ih (position + 1), List.filter_cons_of_neg (by simp)]
      congr 1
      refine List.filter_congr fun entry hentry => ?_
      simp [(hle entry hentry).symm]
    · have hfirst : position ∉ commasFrom (position + 1) (depthAfter depth mark) marks := by
        rw [mem_commasFrom_iff]
        rintro ⟨front, rest, -, hposition, -⟩
        omega
      obtain ⟨segment, segments, hsegments⟩ :=
        List.exists_cons_of_ne_nil (segmentsFrom_ne_nil (depthAfter depth mark) marks)
      have hrest := ih (position + 1) (depthAfter depth mark)
      rw [List.filter_cons_of_pos (by simpa using hfirst), List.map_cons, hrest, hsegments,
        List.modifyHead_cons, List.flatten_cons, List.flatten_cons, List.cons_append]

end Commas

section Closed

theorem Scan.modeBefore_quoted_of_hidden {next : Option Char} {mark : Char} {text : Text}
    (hmark : isQuote mark)
    (h : ∀ hidden ∈ marksBefore next (.quoted mark) text, hidden.isVisible = false) :
    modeBefore next (.quoted mark) text = .quoted mark := by
  induction text with
  | nil => rfl
  | cons c rest ih =>
    obtain ⟨hc, hrest⟩ := List.forall_mem_cons.mp h
    have hne : c ≠ mark := by
      rintro rfl
      have hblank : Text.isBlank c := by simpa [Marked.isVisible, Mode.region] using hc
      have hplain := isPlain_of_isBlank hblank
      simp [isPlain, hmark] at hplain
    have hstep : (Mode.quoted mark).step c (rest.head?.or next) = .quoted mark := if_neg hne
    rw [hstep] at hrest
    rw [modeBefore, hstep]
    exact ih hrest

theorem Scan.Mode.step_of_isVisible {mode : Mode} {c : Char} {next : Option Char}
    (h : Marked.isVisible (c, mode.region c next)) :
    mode.step c next = .code ∨ ∃ mark, mode.step c next = .quoted mark := by
  cases hregion : mode.region c next with
  | code => exact .inl (Mode.step_of_region_code hregion)
  | comment => simp [Marked.isVisible, hregion] at h
  | quoted =>
    cases mode with
    | code =>
      by_cases hquote : isQuote c
      · exact .inr ⟨c, if_pos hquote⟩
      · simp only [Mode.region, hquote, Bool.false_eq_true, if_false] at hregion
        split_ifs at hregion
    | quoted mark =>
      by_cases hc : c = mark
      · exact .inl (if_pos hc)
      · exact .inr ⟨mark, if_neg hc⟩
    | lineComment =>
      simp only [Mode.region] at hregion
      split_ifs at hregion
    | blockOpening => cases hregion
    | blockComment star => cases hregion

theorem modeBefore_of_comma (h : Scanned (front ++ (',', .code) :: rest)) :
    modeBefore (some ',') .code (front.map Prod.fst) = .code := by
  have hregion := h.head_eq
  cases hmode : modeBefore (some ',') .code (front.map Prod.fst) with
  | code => rfl
  | quoted mark => simp [hmode, Mode.region] at hregion
  | lineComment => simp [hmode, Mode.region] at hregion
  | blockOpening => simp [hmode, Mode.region] at hregion
  | blockComment star => simp [hmode, Mode.region] at hregion

/-- In front of white space and comments that a comma of the code follows, marks that end with a
visible character end in the code. -/
theorem endMode_of_comma {init hidden : List Marked} {last : Marked}
    (h : Scanned ((init ++ [last]) ++ (hidden ++ (',', .code) :: rest)))
    (hlast : last.isVisible) (hhidden : ∀ mark ∈ hidden, mark.isVisible = false) :
    endMode .code ((init ++ [last]).map Prod.fst) = .code := by
  set text := (init ++ [last]).map Prod.fst with htext
  set next := (hidden.map Prod.fst).head?.or (some ',') with hnext
  have hhead : (hidden ++ (',', .code) :: rest).head?.map Prod.fst = next := by
    rw [hnext]
    cases hidden <;> rfl
  obtain ⟨hregion, hstep⟩ := h.last_eq rfl
  rw [hhead] at hregion hstep
  have hmode : modeBefore next .code text = .code := by
    have hvisible : Marked.isVisible (last.1, (modeBefore (some last.1) .code
        (init.map Prod.fst)).region last.1 next) := by
      rwa [← hregion]
    rcases Mode.step_of_isVisible hvisible with hcode | ⟨mark, hquoted⟩
    · exact hstep.trans hcode
    · -- a literal would still be open before the comma
      exfalso
      have hopen : modeBefore next .code text = .quoted mark := hstep.trans hquoted
      have hmark : isQuote mark := isQuote_of_modeBefore (by simp) mark hopen
      have hmarks := h.parts.2
      rw [hhead, ← htext, hopen, List.map_append, List.map_cons, marksBefore_append] at hmarks
      have hread : hidden = marksBefore (some ',') (.quoted mark) (hidden.map Prod.fst) :=
        (List.append_inj hmarks (by simp)).1
      rw [hread] at hhidden
      rw [← List.append_assoc] at h
      have hcomma := modeBefore_of_comma h
      rw [List.map_append, modeBefore_append, ← hnext, ← htext, hopen,
        modeBefore_quoted_of_hidden hmark hhidden] at hcomma
      cases hcomma
  rw [endMode_eq_modeBefore, ← (before_eq_of_last next .code text ?_).2]
  · exact hmode
  · intro init' c hinit
    rw [htext, List.map_append, List.map_singleton] at hinit
    obtain ⟨rfl, hc⟩ := List.append_inj' hinit rfl
    obtain rfl : last.1 = c := by simpa using hc
    refine .inr (.inl ?_)
    rw [← hregion]
    exact Marked.ne_comment_of_isVisible hlast

end Closed

section Items

/-- An item of a list: a text that begins and ends with a visible character and holds no separating
comma. -/
structure ListItem (item : Text) : Prop where
  ne_nil : item ≠ []
  visible : VisibleWithin [] (scan item) []
  undivided : Undivided (scan item)

/-- An item after which the scan is in the code and no parenthesis is open. -/
structure ClosedItem (item : Text) : Prop where
  mode : endMode .code item = .code
  depth : depthFrom 0 (scan item) = 0

theorem depthFrom_of_not_listMark (depth : Nat) (h : ∀ mark ∈ marks, mark.isListMark = false) :
    depthFrom depth marks = depth := by
  induction marks with
  | nil => rfl
  | cons mark marks ih =>
    obtain ⟨hmark, hmarks⟩ := List.forall_mem_cons.mp h
    obtain ⟨⟨hopen, hclose⟩, -⟩ :
        (mark.isCode '(' = false ∧ mark.isCode ')' = false) ∧ mark.isCode ',' = false := by
      simpa [Marked.isListMark] using hmark
    have hdepth : depthAfter depth mark = depth := by simp [depthAfter, hopen, hclose]
    rw [depthFrom, List.foldl_cons, hdepth]
    exact ih hmarks

theorem Undivided.middle {before middle after : List Marked}
    (h : Undivided (before ++ (middle ++ after)))
    (hbefore : ∀ mark ∈ before, mark.isListMark = false)
    (hafter : ∀ mark ∈ after, mark.isListMark = false) : Undivided middle := by
  obtain ⟨init, last, hmiddle, hboth⟩ := segmentsFrom_append_right 0 middle hafter
  rw [Undivided, segmentsFrom_append_left 0 _ hbefore, hboth] at h
  cases init with
  | nil =>
    rw [Undivided, hmiddle]
    simpa using h
  | cons first init => simp at h

theorem VisibleWithin.not_listMark {before middle after : List Marked}
    (h : VisibleWithin before middle after) :
    (∀ mark ∈ before, mark.isListMark = false) ∧ ∀ mark ∈ after, mark.isListMark = false :=
  ⟨fun mark hmark => Marked.isListMark_of_hidden (.inl (h.before mark hmark)),
    fun mark hmark => Marked.isListMark_of_hidden (.inl (h.after mark hmark))⟩

section Trimmed

variable (h : Scanned segment)
include h

theorem exists_trimmed :
    ∃ before middle after, segment = before ++ (middle ++ after) ∧
      VisibleWithin before middle after ∧ trimCode (segment.map Prod.fst) = middle.map Prod.fst ∧
      scan (trimCode (segment.map Prod.fst)) = middle := by
  obtain ⟨before, middle, after, hsplit, hvisible⟩ := exists_visibleWithin segment
  exact ⟨before, middle, after, hsplit, hvisible, trimCode_eq (h.trans hsplit) hvisible,
    scan_trimCode (h.trans hsplit) hvisible⟩

theorem visibleChars_trimCode :
    visibleChars (scan (trimCode (segment.map Prod.fst))) = visibleChars segment := by
  obtain ⟨before, middle, after, hsplit, hvisible, -, hscan⟩ := exists_trimmed h
  have hnone : ∀ {hidden : List Marked}, (∀ mark ∈ hidden, mark.isVisible = false) →
      hidden.filter Marked.isVisible = [] := by
    intro hidden hall
    rw [List.filter_eq_nil_iff]
    intro mark hmark
    simp [hall mark hmark]
  rw [hscan, hsplit, visibleChars, visibleChars, List.filter_append, List.filter_append,
    hnone hvisible.before, hnone hvisible.after, List.nil_append, List.append_nil]

theorem listItem_trimCode (hundivided : Undivided segment)
    (hne : trimCode (segment.map Prod.fst) ≠ []) :
    ListItem (trimCode (segment.map Prod.fst)) := by
  obtain ⟨before, middle, after, rfl, hvisible, -, hscan⟩ := exists_trimmed h
  obtain ⟨hbefore, hafter⟩ := hvisible.not_listMark
  refine ⟨hne, ?_, ?_⟩
  · rw [hscan]
    exact ⟨by simp, hvisible.first, hvisible.last, by simp⟩
  · rw [hscan]
    exact hundivided.middle hbefore hafter

theorem closedItem_trimCode (hcomma : Scanned (segment ++ (',', .code) :: rest))
    (hdepth : depthFrom 0 segment = 0) (hne : trimCode (segment.map Prod.fst) ≠ []) :
    ClosedItem (trimCode (segment.map Prod.fst)) := by
  obtain ⟨before, middle, after, rfl, hvisible, htrim, hscan⟩ := exists_trimmed h
  obtain ⟨hbefore, hafter⟩ := hvisible.not_listMark
  constructor
  · have hmiddle : middle ≠ [] := by
      rintro rfl
      exact hne htrim
    obtain ⟨first, more, hfirst⟩ := List.exists_cons_of_ne_nil hmiddle
    obtain ⟨init, last, hlast⟩ := (List.eq_nil_or_concat' middle).resolve_left hmiddle
    have hright : Scanned (middle ++ (after ++ (',', .code) :: rest)) := by
      rw [List.append_assoc, List.append_assoc, hfirst] at hcomma
      rw [hfirst]
      exact hcomma.right_of_hidden hvisible.before (hvisible.first first (by rw [hfirst]; rfl))
    rw [htrim]
    rw [hlast] at hright ⊢
    exact endMode_of_comma hright (hvisible.last last (by rw [hlast]; simp)) hvisible.after
  · rw [depthFrom_append, depthFrom_append, depthFrom_of_not_listMark 0 hbefore,
      depthFrom_of_not_listMark _ hafter] at hdepth
    rw [hscan, hdepth]

end Trimmed

/-- The items of a list, of which all but the last can stand in front of others. -/
structure ListItems (items : List Text) : Prop where
  each : ∀ item ∈ items, ListItem item
  closed : ∀ item ∈ items.dropLast, ClosedItem item

theorem ListItems.nil : ListItems [] := ⟨by simp, by simp⟩

theorem ListItems.cons {item : Text} {items : List Text} (hitem : ListItem item)
    (hclosed : items ≠ [] → ClosedItem item) (hitems : ListItems items) :
    ListItems (item :: items) := by
  refine ⟨List.forall_mem_cons.mpr ⟨hitem, hitems.each⟩, ?_⟩
  cases items with
  | nil => simp
  | cons next items =>
    exact List.forall_mem_cons.mpr ⟨hclosed (by simp), hitems.closed⟩

theorem Segmented.listItems (h : Segmented marks segments) (hmarks : Scanned marks) :
    ListItems ((segments.map fun segment => trimCode (segment.map Prod.fst)).filter
      fun item => !item.isEmpty) := by
  induction h with
  | @last marks hundivided =>
    by_cases hempty : trimCode (marks.map Prod.fst) = []
    · simpa [hempty] using ListItems.nil
    · have hitem := listItem_trimCode hmarks hundivided hempty
      simpa [hempty] using ListItems.nil.cons hitem (by simp)
  | @next segment rest segments hundivided hdepth hrest ih =>
    obtain ⟨hsegment, hafter⟩ := hmarks.around_comma
    by_cases hempty : trimCode (segment.map Prod.fst) = []
    · simpa [hempty] using ih hafter
    · have hitem := listItem_trimCode hsegment hundivided hempty
      have hclosed := closedItem_trimCode hsegment hmarks hdepth hempty
      rw [List.map_cons, List.filter_cons_of_pos (by simpa using hempty)]
      exact (ih hafter).cons hitem fun _ => hclosed

theorem listItems_splitItems (text : Text) : ListItems (splitItems text) := by
  rw [splitItems_eq]
  exact (segmented_segmentsFrom (scan text)).listItems (scanned_scan text)

/-- The items hold the visible characters of a list, in their order, but for its separators. -/
theorem flatMap_visibleChars_splitItems (text : Text) :
    (splitItems text).flatMap (fun item => visibleChars (scan item)) =
      visibleChars (withoutSeparators text) := by
  have hempty : ∀ items : List Text,
      (items.filter fun item => !item.isEmpty).flatMap (fun item => visibleChars (scan item)) =
        items.flatMap fun item => visibleChars (scan item) := by
    intro items
    induction items with
    | nil => rfl
    | cons item items ih =>
      cases item with
      | nil => exact ih
      | cons c item =>
        rw [List.filter_cons_of_pos (by simp), List.flatMap_cons, List.flatMap_cons, ih]
  have hsegments : ∀ segments : List (List Marked), (∀ segment ∈ segments, Scanned segment) →
      segments.flatMap (fun segment => visibleChars (scan (trimCode (segment.map Prod.fst)))) =
        visibleChars segments.flatten := by
    intro segments hsegments
    induction segments with
    | nil => rfl
    | cons segment segments ih =>
      obtain ⟨hfirst, hrest⟩ := List.forall_mem_cons.mp hsegments
      rw [List.flatMap_cons, List.flatten_cons, visibleChars_trimCode hfirst, ih hrest,
        visibleChars, visibleChars, visibleChars, List.filter_append, List.map_append]
  rw [splitItems_eq, itemsOf, hempty, List.flatMap_map, hsegments _ fun segment =>
    scanned_of_mem_segments (scanned_scan text), withoutSeparators, topLevelCommas,
    flatten_segmentsFrom]

theorem ListItem.trimCode_eq {item : Text} (h : ListItem item) : trimCode item = item := by
  have hscan : scan item = [] ++ (scan item ++ []) := by simp
  rw [QueryLint.trimCode_eq hscan h.visible, Scan.map_fst_scan]

theorem ListItem.splitItems_eq {item : Text} (h : ListItem item) : splitItems item = [item] := by
  rw [QueryLint.splitItems_eq, itemsOf, h.undivided, List.map_singleton, Scan.map_fst_scan,
    h.trimCode_eq, List.filter_cons_of_pos (by simpa using h.ne_nil), List.filter_nil]

theorem ListItem.hasTopLevelComma_eq {item : Text} (h : ListItem item) :
    hasTopLevelComma item = false := by
  have hlength := length_segmentsFrom 0 0 (scan item)
  rw [h.undivided] at hlength
  have hnone : topLevelCommas item = [] := List.eq_nil_of_length_eq_zero (by
    rw [topLevelCommas]
    simpa using hlength.symm)
  rw [hasTopLevelComma, hnone]
  rfl

theorem splitItems_cons {item rest : Text} (hitem : ListItem item) (hclosed : ClosedItem item) :
    splitItems (item ++ (", " ++ rest)) = item :: splitItems rest := by
  have hscan : scan (item ++ (", " ++ rest)) =
      scan item ++ (',', .code) :: ([(' ', .code)] ++ scan rest) := by
    rw [scan_append hclosed.mode (by simp [opensComment, opensLineComment, opensBlockComment])]
    have hplain : ∀ c ∈ (", " : Text), isPlain c := List.all_eq_true.mp (by decide)
    rw [scan_append_of_plain rest hplain]
    rfl
  have hspace : Scanned ([(' ', .code)] ++ scan rest) := by
    have hall := scanned_scan (item ++ (", " ++ rest))
    rw [hscan] at hall
    exact hall.around_comma.2
  have hrest := itemsOf_append_left (scanned_scan rest) hspace (by decide)
  rw [QueryLint.splitItems_eq rest, ← hrest, QueryLint.splitItems_eq, hscan, itemsOf, itemsOf,
    segmentsFrom_append _ hitem.undivided, hclosed.depth, segmentsFrom,
    if_pos (by decide), List.modifyHead_cons, List.append_nil, List.map_cons, Scan.map_fst_scan,
    hitem.trimCode_eq, List.filter_cons_of_pos (by simpa using hitem.ne_nil)]

theorem ListItems.splitItems_join {items : List Text} (h : ListItems items) :
    splitItems (Text.join ", " items) = items := by
  induction items with
  | nil => decide
  | cons item items ih =>
    obtain ⟨hitem, hitems⟩ := List.forall_mem_cons.mp h.each
    cases items with
    | nil => exact hitem.splitItems_eq
    | cons next items =>
      obtain ⟨hclosed, hothers⟩ := List.forall_mem_cons.mp h.closed
      have hjoin : Text.join ", " (item :: next :: items) =
          item ++ (", " ++ Text.join ", " (next :: items)) := List.append_assoc _ _ _
      rw [hjoin, splitItems_cons hitem hclosed, ih ⟨hitems, hothers⟩]

theorem length_spansBetween (start stop : Nat) (cuts : List Nat) :
    (spansBetween start stop cuts).length = cuts.length + 1 := by
  induction cuts generalizing start with
  | nil => rfl
  | cons cut cuts ih => rw [spansBetween, List.length_cons, ih, List.length_cons]

theorem length_splitItems_le (text : Text) :
    (splitItems text).length ≤ (topLevelCommas text).length + 1 := by
  refine Nat.le_trans (List.length_filter_le _ _) ?_
  rw [List.length_map, length_spansBetween]

end Items

/-- The items of a list. Commas of the code outside parentheses separate them, where a closing
parenthesis that nothing opened is ignored. The items hold the visible characters of the list in
their order, without the separators. Each is split into itself and so is the list that is written
with the items; and there are no more items than places between the separators. -/
theorem splitItems_faithful (text : Text) :
    (∀ cut, cut ∈ topLevelCommas text ↔ ∃ front rest, scan text = front ++ (',', .code) :: rest ∧
      cut = front.length ∧ depthFrom 0 front = 0) ∧
      (splitItems text).flatMap (fun item => visibleChars (scan item)) =
        visibleChars (withoutSeparators text) ∧
      (∀ item ∈ splitItems text,
        item ≠ [] ∧ hasTopLevelComma item = false ∧ splitItems item = [item]) ∧
      splitItems (Text.join ", " (splitItems text)) = splitItems text ∧
      (splitItems text).length ≤ (topLevelCommas text).length + 1 := by
  have hitems := listItems_splitItems text
  refine ⟨fun cut => ?_, flatMap_visibleChars_splitItems text, fun item hitem => ?_,
    hitems.splitItems_join, length_splitItems_le text⟩
  · rw [topLevelCommas, mem_commasFrom_iff]
    simp only [Nat.zero_add]
  · have hitem := hitems.each item hitem
    exact ⟨hitem.ne_nil, hitem.hasTopLevelComma_eq, hitem.splitItems_eq⟩

end QueryLint
