import Mathlib.Data.List.Basic
import QueryLint.Clause

/-!
The words of a text stand in it one after the other, with something between any two; so do the
keywords that they spell, and a clause begins where its opening ends and before its boundary.
-/

namespace QueryLint

/-- The runs of `true` ascend, with something between any two, and none is empty. -/
theorem Text.runsFrom_spec (offset : Nat) (flags : List Bool) :
    (runsFrom offset flags).Pairwise (·.stop < ·.start) ∧
      ∀ run ∈ runsFrom offset flags,
        offset ≤ run.start ∧ run.start < run.stop ∧ run.stop ≤ offset + flags.length := by
  induction flags generalizing offset with
  | nil => simp [runsFrom]
  | cons flag flags ih =>
    obtain ⟨hpairwise, hbounds⟩ := ih (offset + 1)
    cases flag with
    | false =>
      refine ⟨hpairwise, fun run hrun => ?_⟩
      have := hbounds run hrun
      simp only [List.length_cons]
      omega
    | true =>
      simp only [runsFrom, List.length_cons]
      cases hruns : runsFrom (offset + 1) flags with
      | nil => simp
      | cons run runs =>
        rw [hruns] at hpairwise hbounds
        have hrun := hbounds run List.mem_cons_self
        have hlater : ∀ later ∈ runs, run.stop < later.start := fun later h =>
          List.rel_of_pairwise_cons hpairwise h
        have hrest : ∀ later ∈ runs, offset ≤ later.start ∧ later.start < later.stop ∧
            later.stop ≤ offset + (flags.length + 1) := by
          intro later h
          have := hbounds later (List.mem_cons_of_mem _ h)
          omega
        by_cases hadjacent : run.start = offset + 1
        · simp only [hadjacent, if_true]
          refine ⟨List.pairwise_cons.mpr ⟨hlater, hpairwise.of_cons⟩, ?_⟩
          exact List.forall_mem_cons.mpr ⟨by simp; omega, hrest⟩
        · simp only [hadjacent, if_false]
          refine ⟨List.pairwise_cons.mpr ⟨?_, hpairwise⟩, ?_⟩
          · refine List.forall_mem_cons.mpr ⟨by simp; omega, fun later h => ?_⟩
            have := hlater later h
            simp; omega
          · exact List.forall_mem_cons.mpr ⟨by simp,
              List.forall_mem_cons.mpr ⟨by omega, hrest⟩⟩

/-- A run of `true` that ends where it is written to end is the first span. -/
theorem Text.runsFrom_run_append (offset : Nat) {run rest : List Bool} (hne : run ≠ [])
    (hrun : ∀ flag ∈ run, flag = true) (hrest : ∀ flag ∈ rest.head?, flag = false) :
    runsFrom offset (run ++ rest) =
      ⟨offset, offset + run.length⟩ :: runsFrom (offset + run.length) rest := by
  induction run generalizing offset with
  | nil => exact absurd rfl hne
  | cons flag run ih =>
    obtain ⟨rfl, htail⟩ := List.forall_mem_cons.mp hrun
    simp only [List.cons_append, runsFrom, List.length_cons]
    by_cases hnil : run = []
    · subst hnil
      -- the next run, if any, does not begin right after this one
      have hlater : ∀ later ∈ runsFrom (offset + 1) rest, later.start ≠ offset + 1 := by
        cases rest with
        | nil => simp [runsFrom]
        | cons next rest =>
          have hnext : next = false := hrest next rfl
          intro later hlater
          simp only [hnext, runsFrom] at hlater
          have hbounds := (runsFrom_spec (offset + 1 + 1) rest).2 later hlater
          omega
      simp only [List.nil_append, List.length_nil, Nat.zero_add]
      cases hruns : runsFrom (offset + 1) rest with
      | nil => rfl
      | cons later runs =>
        have hstart := hlater later (by simp [hruns])
        simp [hstart]
    · rw [ih (offset + 1) hnil htail]
      simp only [if_true]
      congr 2 <;> omega

/-- Spans that can be the words of a text: none is empty, and something stands between any two. -/
structure WordList (text : Text) (words : List Span) : Prop where
  ascending : words.Pairwise (·.stop < ·.start)
  within : ∀ word ∈ words, word.start < word.stop ∧ word.stop ≤ text.length

theorem wordList_wordSpans (text : Text) : WordList text (wordSpans text) := by
  obtain ⟨hpairwise, hbounds⟩ := Text.runsFrom_spec 0 ((scan text).map Marked.isWord)
  refine ⟨hpairwise, fun word hword => ?_⟩
  have := hbounds word hword
  simp only [List.length_map, length_scan] at this
  omega

namespace WordList

variable {text : Text} {word next : Span} {words : List Span}

theorem sublist {fewer : List Span} (h : WordList text words) (hfewer : fewer.Sublist words) :
    WordList text fewer :=
  ⟨h.ascending.sublist hfewer, fun word hword => h.within word (hfewer.subset hword)⟩

theorem tail (h : WordList text (word :: words)) : WordList text words :=
  h.sublist (List.sublist_cons_self word words)

theorem head (h : WordList text (word :: words)) :
    word.start < word.stop ∧ word.stop ≤ text.length :=
  h.within word List.mem_cons_self

theorem lt_next (h : WordList text (word :: next :: words)) : word.stop < next.start :=
  List.rel_of_pairwise_cons h.ascending List.mem_cons_self

theorem keywordStop_bounds {parts : List Text} {stop : Nat} (h : WordList text (word :: words))
    (hstop : keywordStop? text parts (word :: words) = some stop) :
    word.start < stop ∧ stop ≤ text.length := by
  induction parts generalizing word words with
  | nil => cases hstop
  | cons part parts ih =>
    cases parts with
    | nil =>
      simp only [keywordStop?] at hstop
      split at hstop
      · cases hstop
        exact h.head
      · cases hstop
    | cons other parts =>
      cases words with
      | nil => cases hstop
      | cons next words =>
        simp only [keywordStop?] at hstop
        split at hstop
        · have hrest := ih h.tail hstop
          have hword := h.head
          have hnext := h.lt_next
          omega
        · cases hstop

theorem findParts_bounds {parts : List Text} {found : Span} (h : WordList text words)
    (hfound : findParts? text parts words = some found) :
    found.start < found.stop ∧ found.stop ≤ text.length ∧
      ∃ word ∈ words, found.start = word.start := by
  induction words with
  | nil => cases hfound
  | cons word words ih =>
    simp only [findParts?] at hfound
    split at hfound
    · rename_i stop hstop
      cases hfound
      have hbounds := h.keywordStop_bounds hstop
      exact ⟨hbounds.1, hbounds.2, word, List.mem_cons_self, rfl⟩
    · obtain ⟨hlt, hle, other, hother, hstart⟩ := ih h.tail hfound
      exact ⟨hlt, hle, other, List.mem_cons_of_mem _ hother, hstart⟩

theorem keywordStarts_bounds {keywords : List Text} {position : Nat} (h : WordList text words)
    (hposition : position ∈ keywords.filterMap fun keyword =>
      (findKeyword? text words keyword).map (·.start)) :
    position ≤ text.length ∧ ∃ word ∈ words, position = word.start := by
  obtain ⟨keyword, -, hkeyword⟩ := List.mem_filterMap.mp hposition
  obtain ⟨found, hfound, rfl⟩ := Option.map_eq_some_iff.mp hkeyword
  obtain ⟨hlt, hle, hword⟩ := h.findParts_bounds hfound
  exact ⟨by omega, hword⟩

theorem le_start_of_mem_dropWhile (h : WordList text words) {position : Nat}
    (hword : word ∈ words.dropWhile (·.start < position)) : position ≤ word.start := by
  induction words with
  | nil => cases hword
  | cons first words ih =>
    by_cases hfirst : first.start < position
    · rw [List.dropWhile_cons_of_pos (by simpa using hfirst)] at hword
      exact ih h.tail hword
    · rw [List.dropWhile_cons_of_neg (by simpa using hfirst)] at hword
      rcases List.mem_cons.mp hword with rfl | hword
      · omega
      · have := List.rel_of_pairwise_cons h.ascending hword
        have := h.head
        omega

end WordList

theorem visibleSpan_eq (text : Text) :
    visibleSpan text =
      match (scan text).findIdx? Marked.isVisible,
        (scan text).reverse.findIdx? Marked.isVisible with
      | some first, some fromEnd => ⟨first, text.length - fromEnd⟩
      | _, _ => ⟨0, 0⟩ := by
  rw [visibleSpan, List.findIdx?_map, ← List.map_reverse, List.findIdx?_map]
  rfl

theorem visibleSpan_bounds (text : Text) :
    (visibleSpan text).start ≤ (visibleSpan text).stop ∧
      (visibleSpan text).stop ≤ text.length := by
  rw [visibleSpan_eq]
  split
  · rename_i first fromEnd hfirst hlast
    obtain ⟨hlength, _, hbefore⟩ := List.findIdx?_eq_some_iff_getElem.mp hfirst
    obtain ⟨hlength', hvisible, _⟩ := List.findIdx?_eq_some_iff_getElem.mp hlast
    simp only [List.length_reverse, length_scan] at hlength hlength'
    rw [List.getElem_reverse] at hvisible
    have hle : ¬(scan text).length - 1 - fromEnd < first := fun h => hbefore _ h hvisible
    rw [length_scan] at hle
    simp only
    omega
  · simp

/-- The first of several positions, or the end when there is none, lies where they all lie. -/
theorem first_bounds {positions : List Nat} {start stop : Nat} (hle : start ≤ stop)
    (h : ∀ position ∈ positions, start ≤ position ∧ position ≤ stop) :
    start ≤ positions.min?.getD stop ∧ positions.min?.getD stop ≤ stop := by
  cases hmin : positions.min? with
  | none => exact ⟨hle, Nat.le_refl stop⟩
  | some position => exact h position (List.min?_mem hmin)

theorem clauseSpan_bounds {text opening : Text} {boundaries : List Text} {span : Span}
    (h : clauseSpan? text opening boundaries = some span) :
    span.start ≤ span.stop ∧ span.stop ≤ text.length := by
  obtain ⟨found, hfound, rfl⟩ := Option.map_eq_some_iff.mp h
  have hwords := wordList_wordSpans text
  have hopening := hwords.findParts_bounds hfound
  refine first_bounds hopening.2.1 ?_
  intro position hposition
  have hlater := hwords.sublist (List.dropWhile_sublist (·.start < found.stop))
  obtain ⟨hle, word, hword, rfl⟩ := hlater.keywordStarts_bounds hposition
  exact ⟨hwords.le_start_of_mem_dropWhile hword, hle⟩

end QueryLint
