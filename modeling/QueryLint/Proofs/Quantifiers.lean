import QueryLint.Proofs.CommentPieces
import QueryLint.Proofs.KeywordWords
import QueryLint.Proofs.Trimming

/-!
The word DISTINCT or ALL in front of a SELECT list. It is dropped where white space follows it; a
comment in place of that white space keeps it, and then it is a word of the first item.
-/

namespace QueryLint

open Scan Keyword

def isQuantifier (word : Text) : Bool :=
  Text.sameLetters word "DISTINCT" || Text.sameLetters word "ALL"

theorem isAlphanumeric_of_isQuantifier {word : Text} (h : isQuantifier word) :
    word ≠ [] ∧ ∀ c ∈ word, Text.isAlphanumeric c := by
  rcases Bool.or_eq_true_iff.mp h with hword | hword
  · exact isAlphanumeric_of_sameLetters hword (by decide)
  · exact isAlphanumeric_of_sameLetters hword (by decide)

theorem isWord_asCode {word : Text} (hword : ∀ c ∈ word, Text.isAlphanumeric c) :
    ∀ mark ∈ asCode word, mark.isWord := by
  intro mark hmark
  obtain ⟨c, hc, rfl⟩ := List.mem_map.mp hmark
  simp [Marked.isWord, hword c hc]

theorem scan_word_append {word : Text} (hword : ∀ c ∈ word, Text.isAlphanumeric c) (text : Text) :
    scan (word ++ text) = asCode word ++ scan text :=
  scan_append_of_plain text fun c hc => isPlain_of_isAlphanumeric (hword c hc)

theorem scan_eq_trimStart (text : Text) :
    scan text = asCode (text.takeWhile Text.isBlank) ++ scan (Text.trimStart text) := by
  conv_lhs => rw [← List.takeWhile_append_dropWhile (p := Text.isBlank) (l := text)]
  exact scan_append_of_plain _ fun c hc => isPlain_of_isBlank (List.mem_takeWhile_imp hc)

section Drop

variable {word rest selection : Text}

theorem dropQuantifier_of_quantifier (hword : isQuantifier word)
    (hrest : ∃ c ∈ rest.head?, Text.isBlank c) :
    dropQuantifier (word ++ rest) = Text.trimStart rest := by
  obtain ⟨c, hc, hblank⟩ := hrest
  obtain ⟨more, rfl⟩ := List.head?_eq_some_iff.mp hc
  have hvisible : ∀ c ∈ word, (!Text.isBlank c) = true := by
    intro c hc
    by_contra h
    have hnot := (Text.not_isAlphanumeric_of_isBlank (by simpa using h)).1
    simp [(isAlphanumeric_of_isQuantifier hword).2 c hc] at hnot
  rw [dropQuantifier, List.takeWhile_append_of_pos hvisible, List.dropWhile_append_of_pos hvisible]
  simp only [List.takeWhile_cons, List.dropWhile_cons, hblank, Bool.not_true, Bool.false_eq_true,
    if_false, List.append_nil]
  exact if_pos hword

theorem dropQuantifier_cases (selection : Text) :
    (∃ word rest, selection = word ++ rest ∧ isQuantifier word ∧
      ∃ c ∈ rest.head?, Text.isBlank c) ∨ dropQuantifier selection = selection := by
  rw [dropQuantifier]
  split_ifs with h
  · obtain ⟨hrest, hword⟩ := Bool.and_eq_true_iff.mp h
    refine .inl ⟨_, _, List.takeWhile_append_dropWhile.symm, hword, ?_⟩
    obtain ⟨c, more, hmore⟩ := List.exists_cons_of_ne_nil
      (show selection.dropWhile (fun c => !Text.isBlank c) ≠ [] by simpa using hrest)
    have hhead := List.head?_dropWhile_not (fun c => !Text.isBlank c) selection
    rw [hmore] at hhead
    exact ⟨c, by rw [hmore]; rfl, by simpa using hhead⟩
  · exact .inr rfl

end Drop

/-- The marks of a SELECT list with such a word that is dropped, and something after it. -/
structure Quantified (core : List Marked) (word : Text) (rest : List Marked) : Prop where
  split : core = asCode word ++ rest
  word : isQuantifier word
  head : ∃ mark ∈ rest.head?, mark.isBlank
  more : ∃ mark ∈ rest, mark.isBlank = false

variable {core core' rest rest' : List Marked} {word result result' : Text}

theorem Scanned.right_of_word (hword : isQuantifier word) (h : Scanned (asCode word ++ rest)) :
    Scanned rest := by
  obtain ⟨hne, -⟩ := isAlphanumeric_of_isQuantifier hword
  obtain ⟨init, c, rfl⟩ := (List.eq_nil_or_concat' word).resolve_left hne
  have hlast : (c, .code) ∈ (asCode (init ++ [c])).getLast? := by simp [asCode]
  exact h.right_of_last hlast rfl

namespace CoreOf

theorem splitItems_quantified (h : CoreOf result core) (hq : Quantified core word rest) :
    splitItems (dropQuantifier result) = itemsOf rest := by
  obtain ⟨rfl, hword, hhead, hmore⟩ := hq
  have hrest : Scanned rest := h.scanned.right_of_word hword
  set chars := rest.map Prod.fst with hchars
  have hvisible : ∃ c ∈ chars, Text.isBlank c = false := by
    obtain ⟨mark, hmark, hblank⟩ := hmore
    exact ⟨mark.1, List.mem_map_of_mem hmark, hblank⟩
  have hresult : result = word ++ Text.trimEnd chars := by
    rw [← h.trimmed, List.map_append, map_fst_asCode, Text.trimEnd_append hvisible]
  have hfront : ∃ c ∈ (Text.trimEnd chars).head?, Text.isBlank c := by
    obtain ⟨mark, hmark, hblank⟩ := hhead
    obtain ⟨others, rfl⟩ := List.head?_eq_some_iff.mp hmark
    have hothers : ∃ c ∈ others.map Prod.fst, Text.isBlank c = false := by
      obtain ⟨c, hc, hnot⟩ := hvisible
      rcases List.mem_cons.mp hc with rfl | hmem
      · rw [Marked.isBlank, hnot] at hblank
        cases hblank
      · exact ⟨c, hmem, hnot⟩
    rw [hchars, List.map_cons, ← List.singleton_append, Text.trimEnd_append hothers]
    exact ⟨mark.1, rfl, hblank⟩
  have hdrop : dropQuantifier result = Text.trim chars := by
    rw [hresult, dropQuantifier_of_quantifier hword hfront, Text.trimStart_trimEnd]
  have hcore : CoreOf (Text.trim chars) (scan (Text.trimStart chars)) :=
    ⟨scanned_scan _, by rw [Scan.map_fst_scan, Text.trim]⟩
  have hmarks : asCode (chars.takeWhile Text.isBlank) ++ scan (Text.trimStart chars) = rest := by
    rw [← scan_eq_trimStart, hchars, hrest]
  rw [hdrop, hcore.splitItems_eq, ← hmarks]
  refine (itemsOf_append_left (scanned_scan _) (hmarks ▸ hrest) fun mark hmark => ?_).symm
  obtain ⟨c, hc, rfl⟩ := List.mem_map.mp hmark
  have hblank : Text.isBlank c := List.mem_takeWhile_imp hc
  exact Marked.isVisible_of_isBlank hblank

theorem quantified_or (h : CoreOf result core) :
    (∃ word rest, Quantified core word rest) ∨ dropQuantifier result = result := by
  rcases dropQuantifier_cases result with ⟨word, rest, rfl, hword, hrest⟩ | hsame
  · obtain ⟨blanks, hcore, -⟩ := h.exists_blanks
    rw [scan_word_append (isAlphanumeric_of_isQuantifier hword).2, List.append_assoc] at hcore
    refine .inl ⟨word, _, hcore, hword, ?_, ?_⟩
    · obtain ⟨c, hc, hblank⟩ := hrest
      obtain ⟨more, rfl⟩ := List.head?_eq_some_iff.mp hc
      exact ⟨_, rfl, hblank⟩
    · have hne : rest ≠ [] := by
        rintro rfl
        simp at hrest
      obtain ⟨init, c, rfl⟩ := (List.eq_nil_or_concat' rest).resolve_left hne
      obtain ⟨mark, hmark, hsame⟩ : ∃ mark ∈ scan (init ++ [c]), mark.1 = c := by
        rw [← List.mem_map, Scan.map_fst_scan]
        simp
      refine ⟨mark, List.mem_append_left _ hmark, ?_⟩
      have hlast : c ∈ (Text.trimEnd (core.map Prod.fst)).getLast? := by
        rw [h.trimmed, ← List.append_assoc]
        simp
      rw [Marked.isBlank, hsame]
      exact Text.getLast_trimEnd hlast
  · exact .inr hsame

end CoreOf

/-- The first item of a list that begins with the word goes on to the last visible mark of its
segment. -/
theorem head?_itemsOf_word (visible hidden : List Marked) {others : List (List Marked)}
    (hword : isQuantifier word) (h : Scanned (asCode word ++ rest))
    (hrest : segmentsFrom 0 rest = (visible ++ hidden) :: others)
    (hlast : ∀ mark ∈ visible.getLast?, mark.isVisible)
    (hhidden : ∀ mark ∈ hidden, mark.isVisible = false) :
    ∃ item ∈ (itemsOf (asCode word ++ rest)).head?,
      item = word ++ visible.map Prod.fst ∧ scan item = asCode word ++ visible := by
  obtain ⟨hne, hall⟩ := isAlphanumeric_of_isQuantifier hword
  have hwords := isWord_asCode hall
  have hne' : asCode word ≠ [] := by simpa [asCode] using hne
  have hsegments := segmentsFrom_append_left 0 rest fun mark hmark =>
    Marked.isListMark_of_isWord (hwords mark hmark)
  rw [hrest, List.modifyHead_cons, ← List.append_assoc] at hsegments
  have hsegment : Scanned ([] ++ ((asCode word ++ visible) ++ hidden)) :=
    scanned_of_mem_segments h (hsegments ▸ List.mem_cons_self)
  have hwithin : VisibleWithin [] (asCode word ++ visible) hidden := by
    refine ⟨by simp, fun mark hmark => ?_, fun mark hmark => ?_, hhidden⟩
    · rw [List.head?_append_of_ne_nil _ hne'] at hmark
      exact Marked.isVisible_of_isWord (hwords mark (List.mem_of_mem_head? hmark))
    · rcases List.eq_nil_or_concat' visible with rfl | ⟨init, last, rfl⟩
      · rw [List.append_nil] at hmark
        exact Marked.isVisible_of_isWord (hwords mark (List.mem_of_getLast? hmark))
      · obtain rfl : last = mark := by simpa using hmark
        exact hlast last (by simp)
  have hitem : trimCode (((asCode word ++ visible) ++ hidden).map Prod.fst) =
      word ++ visible.map Prod.fst :=
    (trimCode_eq hsegment hwithin).trans (by simp)
  refine ⟨_, ?_, hitem, scan_trimCode hsegment hwithin⟩
  rw [itemsOf, hsegments, List.map_cons, hitem]
  simp [hne]

theorem Rewritten.split_quantifier {Swap : List Marked → List Marked → Prop}
    (hw : Misses Marked.isWord Swap) (hword : isQuantifier word)
    (h : Rewritten Swap (asCode word ++ rest) core') :
    ∃ rest', core' = asCode word ++ rest' ∧ Rewritten Swap rest rest' := by
  have hall := isWord_asCode (isAlphanumeric_of_isQuantifier hword).2
  obtain ⟨word', rest', rfl, hwords, hrest⟩ := h.split_of_misses hw
    (.inl fun mark hmark => hall mark (List.mem_of_getLast? hmark))
  exact ⟨rest', by rw [hwords.eq_of_forall hw hall], hrest⟩

theorem Quantified.rewritten (hrest : Rewritten CommentSwap rest rest')
    (hq : Quantified core word rest) (hmore : ∃ mark ∈ rest', mark.isBlank = false) :
    Quantified (asCode word ++ rest') word rest' := by
  refine ⟨rfl, hq.word, ?_, hmore⟩
  obtain ⟨mark, hmark, hblank⟩ := hq.head
  cases hrest with
  | nil => cases hmark
  | keep first _ =>
    obtain rfl : first = mark := by simpa using hmark
    exact ⟨first, rfl, hblank⟩
  | @swap piece piece' _ _ hpiece _ =>
    obtain ⟨c, hc, rfl⟩ := hpiece.blank
    exact ⟨(c, .code), rfl, hc⟩

theorem Quantified.exists_visible (h : Scanned core) (hq : Quantified core word rest)
    (hfirst : ∀ item ∈ (itemsOf core).head?, isQuantifier item = false) :
    ∃ mark ∈ rest, mark.isVisible := by
  by_contra hall
  have hhidden : ∀ mark ∈ rest, mark.isVisible = false := by
    intro mark hmark
    by_contra hvisible
    exact hall ⟨mark, hmark, by simpa using hvisible⟩
  obtain ⟨rfl, hword, -, -⟩ := hq
  have hsegments := segmentsFrom_append_left 0 [] fun mark hmark =>
    Marked.isListMark_of_hidden (.inl (hhidden mark hmark))
  rw [List.append_nil] at hsegments
  obtain ⟨item, hitem, rfl, -⟩ := head?_itemsOf_word [] rest hword h
    (by simpa [segmentsFrom] using hsegments) (by simp) hhidden
  have hnot := hfirst _ hitem
  simp [hword] at hnot

/-- Where the word is no item, and no comment stands in the first item, none follows the word. -/
theorem not_swap_after_word {piece piece' back : List Marked} (hpiece : CommentSwap piece piece')
    (hword : isQuantifier word) (h : Scanned (asCode word ++ (piece ++ back)))
    (hitems : ∀ item ∈ itemsOf (asCode word ++ (piece ++ back)), Uncommented item)
    (hfirst : ∀ item ∈ (itemsOf (asCode word ++ (piece ++ back))).head?,
      isQuantifier item = false) : False := by
  have hsegments := segmentsFrom_append_left 0 back fun mark hmark =>
    Marked.isListMark_of_hidden (.inl (hpiece.hidden mark hmark))
  obtain ⟨segment, others, hback⟩ := List.exists_cons_of_ne_nil (segmentsFrom_ne_nil 0 back)
  obtain ⟨before, middle, after, rfl, hvisible⟩ := exists_visibleWithin segment
  rw [hback, List.modifyHead_cons] at hsegments
  cases middle with
  | nil =>
    obtain ⟨item, hitem, rfl, -⟩ := head?_itemsOf_word [] _ hword h hsegments (by simp)
      (List.forall_mem_append.mpr ⟨hpiece.hidden, List.forall_mem_append.mpr ⟨hvisible.before,
        hvisible.after⟩⟩)
    have hnot := hfirst _ hitem
    simp [hword] at hnot
  | cons first more =>
    obtain ⟨item, hitem, -, hscan⟩ := head?_itemsOf_word (piece ++ (before ++ first :: more)) after
      hword h (by simpa using hsegments) (by simpa using hvisible.last) hvisible.after
    obtain ⟨mark, hmark, hcomment, -⟩ := hpiece.first
    refine hitems item (List.mem_of_mem_head? hitem) mark ?_ hcomment
    rw [hscan]
    simp [List.mem_of_mem_head? hmark]

/-- Without the comments, white space follows the word only where it did with them. -/
theorem Quantified.exists_of_rewritten (h : Scanned core)
    (hcores : Rewritten CommentSwap core core') (hitems : ∀ item ∈ itemsOf core, Uncommented item)
    (hfirst : ∀ item ∈ (itemsOf core).head?, isQuantifier item = false)
    (hq : Quantified core' word rest') : ∃ rest, Quantified core word rest := by
  obtain ⟨rfl, hword, hhead, mark', hmark', hblank'⟩ := hq
  have hw : Avoids Marked.isWord CommentSwap := CommentSwap.unnoticed.words
  obtain ⟨rest, rfl, hrests⟩ := hcores.symm.split_quantifier hw.flip.left hword
  have hforth : Rewritten CommentSwap rest rest' := hrests.symm
  have hmore : ∃ mark ∈ rest, mark.isBlank = false := by
    by_contra hall
    have hblank := hforth.forall_gap CommentSwap.unnoticed.forward
      (fun mark hmark => by
        by_contra hblank
        exact hall ⟨mark, hmark, by simpa using hblank⟩) mark' hmark'
    simp [hblank'] at hblank
  cases hforth with
  | nil => simp at hhead
  | keep mark _ => exact ⟨_, rfl, hword, hhead, hmore⟩
  | swap hpiece _ => exact (not_swap_after_word hpiece hword h hitems hfirst).elim

/-- A SELECT list has the same items without its comments when none stands inside an item, also
without the word DISTINCT or ALL, when this word is no item. -/
theorem SameButComments.splitItems_dropQuantifier_eq (hsame : SameButComments result result')
    (hitems : ∀ item ∈ splitItems (dropQuantifier result), Uncommented item)
    (hfirst : ∀ item ∈ (splitItems result).head?, isQuantifier item = false) :
    splitItems (dropQuantifier result') = splitItems (dropQuantifier result) := by
  obtain ⟨core, core', hcores, h, h'⟩ := hsame
  rw [h.splitItems_eq] at hfirst
  by_cases hq : ∃ word rest, Quantified core word rest
  · obtain ⟨word, rest, hq⟩ := hq
    obtain ⟨mark, hmark, hvisible⟩ := hq.exists_visible h.scanned hfirst
    have hitemsRest := h.splitItems_quantified hq
    obtain rfl := hq.split
    obtain ⟨rest', rfl, hrests⟩ :=
      hcores.split_quantifier CommentSwap.unnoticed.words.left hq.word
    have hmark' : mark ∈ rest'.filter Marked.isVisible := by
      rw [← hrests.filter_eq CommentSwap.avoids_isVisible]
      exact List.mem_filter.mpr ⟨hmark, hvisible⟩
    have hq' := hq.rewritten hrests
      ⟨mark, (List.mem_filter.mp hmark').1, Marked.isBlank_of_isVisible hvisible⟩
    rw [hitemsRest] at hitems ⊢
    rw [h'.splitItems_quantified hq', itemsOf_rewritten hrests (h.scanned.right_of_word hq.word)
      (h'.scanned.right_of_word hq.word) hitems]
  · have hkept := h.quantified_or.resolve_left hq
    rw [hkept] at hitems ⊢
    have hkept' : dropQuantifier result' = result' := by
      refine h'.quantified_or.resolve_left ?_
      rintro ⟨word, rest', hq'⟩
      rw [h.splitItems_eq] at hitems
      exact hq ⟨word, hq'.exists_of_rewritten h.scanned hcores hitems hfirst⟩
    rw [hkept', SameButComments.splitItems_eq ⟨core, core', hcores, h, h'⟩ hitems]

end QueryLint
