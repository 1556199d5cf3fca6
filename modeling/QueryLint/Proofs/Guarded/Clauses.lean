import QueryLint.Proofs.Utf8
import QueryLint.Proofs.WordList

/-!
The reading of clauses on byte offsets. Every piece of a text is taken by `Utf8.slice?`, so that
offsets inside a character or out of order give `none`. Each definition is followed by the theorem
that this happens nowhere, and that the result is the one found on positions.
-/

namespace QueryLint.Guarded

open Text Utf8

/-- The characters outside comments with their byte offsets, when the first character is at
`start`. -/
def codeCharsFrom (start : Nat) : List Marked → List (Nat × Marked)
  | [] => []
  | mark :: marks =>
    if mark.2 = .comment then codeCharsFrom (start + mark.1.utf8Size) marks
    else (start, mark) :: codeCharsFrom (start + mark.1.utf8Size) marks

def codeChars (text : Text) : List (Nat × Marked) := codeCharsFrom 0 (scan text)

/-- The words that code characters make: characters that follow one another without a gap. -/
def joinWords : List (Nat × Marked) → List Span
  | [] => []
  | (start, mark) :: rest =>
    if mark.isWord then
      match joinWords rest with
      | [] => [⟨start, start + mark.1.utf8Size⟩]
      | word :: words =>
        if word.start = start + mark.1.utf8Size then ⟨start, word.stop⟩ :: words
        else ⟨start, start + mark.1.utf8Size⟩ :: word :: words
    else joinWords rest

def wordSpans (text : Text) : List Span := joinWords (codeChars text)

variable {text : Text}

/-- The byte offsets of adjacent characters are adjacent, and a comment leaves a gap. -/
theorem joinWords_codeCharsFrom {position : Nat} {marks : List Marked}
    (h : text.drop position = marks.map Prod.fst) :
    joinWords (codeCharsFrom (offset text position) marks) =
      (runsFrom position (marks.map Marked.isWord)).map (bytes text) := by
  induction marks generalizing position with
  | nil => rfl
  | cons mark marks ih =>
    have hposition := congrArg List.length h
    simp only [List.length_drop, List.length_map, List.length_cons] at hposition
    have hoffset : offset text position + mark.1.utf8Size = offset text (position + 1) :=
      (offset_succ h).symm
    have hrest := ih (Text.drop_succ h)
    cases hword : mark.isWord with
    | false =>
      -- outside the code the character is skipped, or it is kept and makes no word
      rw [codeCharsFrom, hoffset, List.map_cons, hword, runsFrom, ← hrest]
      split
      · rfl
      · simp [joinWords, hword]
    | true =>
      have hcode : mark.2 ≠ .comment := by
        rintro hcomment
        simp [Marked.isWord, hcomment] at hword
      rw [codeCharsFrom, if_neg hcode, hoffset, List.map_cons, hword, joinWords, hword, if_pos rfl,
        hrest, runsFrom, hoffset]
      cases hruns : runsFrom (position + 1) (marks.map Marked.isWord) with
      | nil => rfl
      | cons run runs =>
        have hbounds := (runsFrom_spec (position + 1) (marks.map Marked.isWord)).2
        have hrun := hbounds run (by simp [hruns])
        rw [List.length_map] at hrun
        -- the next word goes on from this character when it begins at the next byte offset
        have hadjacent : (bytes text run).start = offset text (position + 1) ↔
            run.start = position + 1 := offset_inj (by omega) (by omega)
        simp only [List.map_cons, hadjacent]
        split <;> rfl

theorem wordSpans_eq (text : Text) :
    wordSpans text = (QueryLint.wordSpans text).map (bytes text) := by
  have hwords := joinWords_codeCharsFrom (drop_zero_eq_scan text)
  rwa [offset_zero] at hwords

def keywordStop? (text : Text) : List Text → List Span → Option (Option Nat)
  | [], _ => some none
  | _ :: _, [] => some none
  | [part], word :: _ => do
    let piece ← slice? text word.start word.stop
    return if sameLetters piece part then some word.stop else none
  | part :: parts, word :: next :: words => do
    let piece ← slice? text word.start word.stop
    let gap ← slice? text word.stop next.start
    let stop ← keywordStop? text parts (next :: words)
    return if sameLetters piece part && allBlank gap then stop else none
  | _ :: _, [_] => some none

theorem slice?_bytes {span : Span} (h : span.start ≤ span.stop)
    (hstop : span.stop ≤ text.length) :
    slice? text (bytes text span).start (bytes text span).stop = some (span.slice text) :=
  slice?_offset text h hstop

theorem keywordStop?_eq (parts : List Text) {words : List Span} (h : WordList text words) :
    keywordStop? text parts (words.map (bytes text)) =
      some ((QueryLint.keywordStop? text parts words).map (offset text)) := by
  induction parts generalizing words with
  | nil => rfl
  | cons part parts ih =>
    cases words with
    | nil => cases parts <;> rfl
    | cons word words =>
      have hpiece := slice?_bytes (Nat.le_of_lt h.head.1) h.head.2
      cases parts with
      | nil =>
        simp only [List.map_cons, keywordStop?, QueryLint.keywordStop?, hpiece,
          Option.bind_eq_bind, Option.bind_some, apply_ite (Option.map (offset text))]
        rfl
      | cons other parts =>
        cases words with
        | nil => rfl
        | cons next words =>
          have hbetween := h.lt_next
          have hnext := h.tail.head
          have hgap : slice? text (bytes text word).stop (bytes text next).start =
              some ((Span.mk word.stop next.start).slice text) :=
            slice?_offset text (by omega) (by omega)
          have hrest := ih h.tail
          simp only [List.map_cons] at hrest
          simp only [List.map_cons, keywordStop?, QueryLint.keywordStop?, hpiece, hgap, hrest,
            Option.bind_eq_bind, Option.bind_some, apply_ite (Option.map (offset text))]
          rfl

def findParts? (text : Text) (parts : List Text) : List Span → Option (Option Span)
  | [] => some none
  | word :: words => do
    match ← keywordStop? text parts (word :: words) with
    | some stop => return some ⟨word.start, stop⟩
    | none => findParts? text parts words

def findKeyword? (text : Text) (words : List Span) (keyword : Text) : Option (Option Span) :=
  findParts? text (fields keyword) words

theorem findParts?_eq {parts : List Text} {words : List Span} (h : WordList text words) :
    findParts? text parts (words.map (bytes text)) =
      some ((QueryLint.findParts? text parts words).map (bytes text)) := by
  induction words with
  | nil => rfl
  | cons word words ih =>
    have hstop := keywordStop?_eq parts h
    rw [List.map_cons] at hstop
    rw [List.map_cons, findParts?, hstop, QueryLint.findParts?]
    cases QueryLint.keywordStop? text parts (word :: words) with
    | none => exact ih h.tail
    | some stop => rfl

theorem findKeyword?_eq {words : List Span} (h : WordList text words) (keyword : Text) :
    findKeyword? text (words.map (bytes text)) keyword =
      some ((QueryLint.findKeyword? text words keyword).map (bytes text)) :=
  findParts?_eq h

def visibleChars (chars : List (Nat × Marked)) : List (Nat × Marked) :=
  chars.filter fun char => !isBlank char.2.1

def trimCode? (text : Text) : Option Text :=
  let visible := visibleChars (codeChars text)
  match visible.head?, visible.getLast? with
  | some first, some last => slice? text first.1 (last.1 + last.2.1.utf8Size)
  | _, _ => some []

def trimClause? (body : Text) : Option Text := do
  let code ← trimCode? body
  return trimEnd (dropWhileEnd (· = ';') code)

theorem visibleChars_cons (start : Nat) (mark : Marked) (marks : List Marked) :
    visibleChars (codeCharsFrom start (mark :: marks)) =
      if mark.isVisible then
        (start, mark) :: visibleChars (codeCharsFrom (start + mark.1.utf8Size) marks)
      else visibleChars (codeCharsFrom (start + mark.1.utf8Size) marks) := by
  by_cases hcomment : mark.2 = .comment
  · simp [codeCharsFrom, Marked.isVisible, hcomment]
  · by_cases hblank : isBlank mark.1
    · simp [codeCharsFrom, visibleChars, Marked.isVisible, hcomment, hblank]
    · simp [codeCharsFrom, visibleChars, Marked.isVisible, hcomment, hblank]

theorem head?_visibleChars {position : Nat} {marks : List Marked}
    (h : text.drop position = marks.map Prod.fst) :
    (visibleChars (codeCharsFrom (offset text position) marks)).head?.map (·.1) =
      (marks.findIdx? Marked.isVisible).map fun i => offset text (position + i) := by
  induction marks generalizing position with
  | nil => rfl
  | cons mark marks ih =>
    have hrest := ih (Text.drop_succ h)
    rw [visibleChars_cons, ← offset_succ h, List.findIdx?_cons]
    cases mark.isVisible with
    | true => simp
    | false =>
      simp only [Bool.false_eq_true, if_false, hrest, Option.map_map]
      congr 1
      funext i
      simp only [Function.comp_apply]
      congr 1
      omega

theorem getLast?_visibleChars {position : Nat} {marks : List Marked}
    (h : text.drop position = marks.map Prod.fst) :
    (visibleChars (codeCharsFrom (offset text position) marks)).getLast?.map
        (fun last => last.1 + last.2.1.utf8Size) =
      (marks.reverse.findIdx? Marked.isVisible).map fun i =>
        offset text (position + marks.length - i) := by
  induction marks generalizing position with
  | nil => rfl
  | cons mark marks ih =>
    have hrest := ih (Text.drop_succ h)
    have hlength : position + (mark :: marks).length = position + 1 + marks.length := by
      rw [List.length_cons]
      omega
    rw [visibleChars_cons, ← offset_succ h, List.reverse_cons, List.findIdx?_append, hlength]
    -- the last visible character is among the later ones, or else it is this one
    cases hfound : marks.reverse.findIdx? Marked.isVisible with
    | some i =>
      rw [hfound] at hrest
      obtain ⟨last, hlast, hstop⟩ := Option.map_eq_some_iff.mp hrest
      cases mark.isVisible with
      | true => simp [List.getLast?_cons, hlast, hstop]
      | false => simp [hlast, hstop]
    | none =>
      rw [hfound, Option.map_none, Option.map_eq_none_iff, List.getLast?_eq_none_iff] at hrest
      have hoffset := offset_succ h
      cases hvisible : mark.isVisible with
      | true =>
        rw [if_pos rfl, hrest]
        simp [hvisible, ← hoffset]
      | false => simp [hrest, hvisible]

theorem trimCode?_eq (text : Text) : trimCode? text = some (trimCode text) := by
  have hdrop := drop_zero_eq_scan text
  have hfirst := head?_visibleChars hdrop
  have hlast := getLast?_visibleChars hdrop
  have hbounds := visibleSpan_bounds text
  rw [offset_zero] at hfirst hlast
  rw [visibleSpan_eq] at hbounds
  simp only [trimCode?, trimCode, codeChars, visibleSpan_eq]
  cases hvisible : visibleChars (codeCharsFrom 0 (scan text)) with
  | nil =>
    rw [hvisible, List.head?_nil, Option.map_none, eq_comm, Option.map_eq_none_iff] at hfirst
    simp [hfirst, Span.slice]
  | cons char chars =>
    rw [hvisible, List.head?_cons, Option.map_some, eq_comm] at hfirst
    rw [hvisible, List.getLast?_cons, Option.map_some, eq_comm] at hlast
    obtain ⟨first, hfirst, hstart⟩ := Option.map_eq_some_iff.mp hfirst
    obtain ⟨fromEnd, hlast, hstop⟩ := Option.map_eq_some_iff.mp hlast
    rw [hfirst, hlast] at hbounds
    rw [Nat.zero_add] at hstart
    rw [Nat.zero_add, length_scan] at hstop
    simp only [hfirst, hlast, List.head?_cons, List.getLast?_cons, ← hstart, ← hstop]
    exact slice?_offset text hbounds.1 hbounds.2

theorem trimClause?_eq (body : Text) : trimClause? body = some (trimClause body) := by
  rw [trimClause?, trimCode?_eq]
  rfl

/-- Where the first of several keywords begins among `words`, or the end of the text. -/
def firstKeyword? (text : Text) (words : List Span) (keywords : List Text) : Option Nat := do
  let found ← keywords.mapM (findKeyword? text words)
  return (found.filterMap (·.map (·.start))).min?.getD (size text)

def extractClause? (text opening : Text) (boundaries : List Text) : Option (Option Text) := do
  let words := wordSpans text
  match ← findKeyword? text words opening with
  | none => return none
  | some found =>
    let later := words.dropWhile (·.start < found.stop)
    let stop ← firstKeyword? text later boundaries
    let body ← slice? text found.stop stop
    let clause ← trimClause? body
    return some clause

theorem mapM_eq_some {α β : Type} {f : α → Option β} {g : α → β} {items : List α}
    (h : ∀ item ∈ items, f item = some (g item)) : items.mapM f = some (items.map g) := by
  induction items with
  | nil => rfl
  | cons item items ih =>
    have hrest := ih fun other hother => h other (List.mem_cons_of_mem _ hother)
    simp [List.mapM_cons, h item List.mem_cons_self, hrest]

theorem min?_map_offset {positions : List Nat}
    (h : ∀ position ∈ positions, position ≤ text.length) :
    (positions.map (offset text)).min?.getD (size text) =
      offset text (positions.min?.getD text.length) := by
  cases hmin : positions.min? with
  | none =>
    rw [List.min?_eq_none_iff] at hmin
    simp [hmin]
  | some first =>
    obtain ⟨hfirst, hle⟩ := List.min?_eq_some_iff.mp hmin
    have hoffset : (positions.map (offset text)).min? = some (offset text first) := by
      refine List.min?_eq_some_iff.mpr ⟨List.mem_map_of_mem hfirst, ?_⟩
      intro other hother
      obtain ⟨position, hposition, rfl⟩ := List.mem_map.mp hother
      exact offset_le_of_le (hle position hposition) (h position hposition)
    rw [hoffset]
    rfl

theorem firstKeyword?_eq {words : List Span} (h : WordList text words) (keywords : List Text) :
    firstKeyword? text (words.map (bytes text)) keywords =
      some (offset text ((keywords.filterMap fun keyword =>
        (QueryLint.findKeyword? text words keyword).map (·.start)).min?.getD text.length)) := by
  have hfound : keywords.mapM (findKeyword? text (words.map (bytes text))) =
      some (keywords.map fun keyword =>
        (QueryLint.findKeyword? text words keyword).map (bytes text)) :=
    mapM_eq_some fun keyword _ => findKeyword?_eq h keyword
  rw [firstKeyword?, hfound, ← min?_map_offset]
  · simp only [Option.bind_eq_bind, Option.bind_some, List.filterMap_map, List.map_filterMap]
    congr 4
    funext keyword
    simp only [Function.comp_apply]
    cases QueryLint.findKeyword? text words keyword with
    | none => rfl
    | some found => rfl
  · exact fun position hposition => (h.keywordStarts_bounds hposition).1

theorem dropWhile_map_bytes {words : List Span} (h : WordList text words) {position : Nat}
    (hposition : position ≤ text.length) :
    (words.map (bytes text)).dropWhile (·.start < offset text position) =
      (words.dropWhile (·.start < position)).map (bytes text) := by
  induction words with
  | nil => rfl
  | cons word words ih =>
    have hword := h.head
    have hlt : (bytes text word).start < offset text position ↔ word.start < position :=
      offset_lt_iff (by omega) hposition
    simp only [List.map_cons, List.dropWhile_cons, hlt]
    split
    · exact ih h.tail
    · rfl

theorem extractClause?_eq (text opening : Text) (boundaries : List Text) :
    extractClause? text opening boundaries = some (extractClause text opening boundaries) := by
  have hwords := wordList_wordSpans text
  simp only [extractClause?, wordSpans_eq, findKeyword?_eq hwords, Option.bind_eq_bind,
    Option.bind_some]
  cases hfound : QueryLint.findKeyword? text (QueryLint.wordSpans text) opening with
  | none => simp [extractClause, clauseSpan?, hfound]
  | some found =>
    have hspan : ∃ span, clauseSpan? text opening boundaries = some span ∧
        span.start = found.stop := by
      simp [clauseSpan?, hfound]
    obtain ⟨span, hspan, hstart⟩ := hspan
    have hbounds := clauseSpan_bounds hspan
    have hstop := (hwords.findParts_bounds hfound).2.1
    have hlater := hwords.sublist (List.dropWhile_sublist (·.start < found.stop))
    have hwhere : firstKeyword? text
          (((QueryLint.wordSpans text).map (bytes text)).dropWhile
            (·.start < offset text found.stop)) boundaries =
        some (offset text span.stop) := by
      rw [dropWhile_map_bytes hwords hstop, firstKeyword?_eq hlater]
      simp only [clauseSpan?, hfound, Option.map_some, Option.some.injEq] at hspan
      rw [← hspan]
    have hbody : slice? text (offset text found.stop) (offset text span.stop) =
        some (span.slice text) := hstart ▸ slice?_bytes hbounds.1 hbounds.2
    simp only [Option.map_some, bytes, hwhere, hbody, trimClause?_eq, Option.bind_some,
      extractClause, hspan]
    rfl

end QueryLint.Guarded
