import QueryLint.Proofs.CommaLists

/-!
What is read between two joins: a table and the condition of its join, in which commas, parentheses,
literals and words equal to modifiers may stand. The walk back over the modifiers of the next join
ends behind the word that begins the condition, and the condition is cut off there.
-/

namespace QueryLint

open Keyword Scan TableList

/-- A condition after ON, or columns after USING. The white space after the keyword and the
parentheses around the columns belong to the body, which ends in the code and has no word JOIN. -/
structure JoinCondition where
  gap : Gap
  keyword : { word : Text // Text.sameLetters word "ON" ∨ Text.sameLetters word "USING" }
  body : Text
  head : ∀ c ∈ body.head?, isNameChar c = false
  closed : endMode .code body = .code
  words : ∀ word ∈ wordSpans body, isJoin (word.slice body) = false

def JoinCondition.text (condition : JoinCondition) : Text :=
  condition.gap.1 ++ (condition.keyword.1 ++ condition.body)

def conditionText (condition : Option JoinCondition) : Text :=
  (condition.map JoinCondition.text).getD []

section Walk

variable {text : Text} {start : Nat} {word : Span}

/-- The walk back over modifiers ends with a word that is none, at the latest. -/
theorem joinStart_append (later before : List Span)
    (h : joinModifiers.any (Text.sameLetters (word.slice text)) = false) (position : Nat) :
    joinStart text position (later ++ word :: before) = position ∨
      ∃ modifier ∈ later, joinStart text position (later ++ word :: before) = modifier.start := by
  induction later generalizing position with
  | nil =>
    left
    rw [List.nil_append, joinStart, h, Bool.and_false, if_neg Bool.false_ne_true]
  | cons modifier later ih =>
    rw [List.cons_append, joinStart]
    split_ifs
    · right
      rcases ih modifier.start with hstart | ⟨other, hother, hstart⟩
      · exact ⟨modifier, List.mem_cons_self, hstart⟩
      · exact ⟨other, List.mem_cons_of_mem _ hother, hstart⟩
    · exact .inl rfl

theorem le_joinStart (marks : List Marked) (before : List Span) {position : Nat}
    (h : joinModifiers.any (Text.sameLetters (word.slice text)) = false)
    (hposition : start + marks.length ≤ position) :
    start ≤ joinStart text position ((runs start marks).reverse ++ word :: before) := by
  rcases joinStart_append (runs start marks).reverse before h position with
    hsame | ⟨modifier, hmem, hsame⟩
  · omega
  · have hbounds := bounds_of_mem_runs (List.mem_reverse.mp hmem)
    omega

end Walk

section Parts

def partNames (part : Text) : List Text := ofCommaList (part.take (conditionStart part))

/-- The keywords that begin the condition of a join. -/
def conditionWords : List Text := ["ON", "USING"]

theorem fields_conditionWord {keyword : Text} (h : keyword ∈ conditionWords) :
    Text.fields keyword = [keyword] ∧ isLetters keyword ∧ keyword ∈ listWords := by
  have hall : ∀ keyword ∈ conditionWords,
      Text.fields keyword = [keyword] ∧ isLetters keyword ∧ keyword ∈ listWords := by
    decide +kernel
  exact hall keyword h

theorem sameLetters_conditionWord {word : Text}
    (h : Text.sameLetters word "ON" ∨ Text.sameLetters word "USING") :
    ∃ keyword ∈ conditionWords, Text.sameLetters word keyword := by
  simpa [conditionWords] using h

theorem conditionStart_eq {text : Text} {marks rest : List Marked}
    (hscan : scan text = marks ++ rest) (hwords : ∀ part ∈ listWords, NoWord part marks)
    (hapart : Apart marks rest)
    (hstops : rest = [] ∨ ∃ keyword ∈ conditionWords, ∃ found after, rest = found ++ after ∧
      Occurs keyword marks found after) :
    conditionStart text = marks.length := by
  have htext : text = [] ++ (marks ++ rest).map Prod.fst := by
    rw [← hscan, map_fst_scan, List.nil_append]
  have hfree : ∀ keyword ∈ conditionWords, NoneBegins (Text.fields keyword) marks rest := by
    intro keyword hkeyword
    obtain ⟨hfields, -, hword⟩ := fields_conditionWord hkeyword
    refine noneBegins_of_noWord (fun part hpart => ?_) hapart
    rw [hfields] at hpart
    obtain rfl : keyword = part := Option.some.inj hpart
    exact hwords keyword hword
  have hstart := earliest_eq htext hfree hstops
  rw [List.length_nil, Nat.zero_add] at hstart
  rw [conditionStart, wordSpans, hscan]
  exact hstart

variable (table : WrittenTable) {space after : Text} (hspace : Text.allBlank space)
include hspace

theorem partNames_table (hafter : Text.allBlank after) :
    partNames (space ++ (table.text ++ after)) = [table.name.word] := by
  have hquiet := table.quiet.around hspace hafter
  have hstart := conditionStart_eq (List.append_nil _).symm hquiet.noWord (.inr (by simp)) (.inl rfl)
  rw [partNames, hstart, length_scan, List.take_length]
  exact ofCommaList_table table hspace hafter

theorem isWord_last_table (gap : Gap) :
    ∀ mark ∈ (scan (space ++ (table.text ++ gap.1))).getLast?, mark.isWord = false := by
  rw [table.quiet.scan_around hspace gap.2.2, ← List.append_assoc]
  exact gap.isWord_getLast _

/-- A part with a condition, of which nothing but the keyword matters. -/
theorem partNames_condition (gap : Gap)
    (keyword : { word : Text // Text.sameLetters word "ON" ∨ Text.sameLetters word "USING" })
    (hafter : ∀ c ∈ after.head?, isNameChar c = false) :
    partNames (space ++ (table.text ++ (gap.1 ++ (keyword.1 ++ after)))) = [table.name.word] := by
  obtain ⟨word, hword⟩ := keyword
  obtain ⟨keyword, hkeyword, hsame⟩ := sameLetters_conditionWord hword
  obtain ⟨hfields, hletters, -⟩ := fields_conditionWord hkeyword
  have hquiet := table.quiet.around hspace gap.2.2
  have hlast := isWord_last_table table hspace gap
  have hplain := isPlain_of_isName (isNameChar_of_sameLetters hsame hletters).2
  have hscan : scan (space ++ (table.text ++ (gap.1 ++ (word ++ after)))) =
      scan (space ++ (table.text ++ gap.1)) ++ (asCode word ++ scan after) := by
    rw [← scan_append_of_plain after hplain, ← hquiet.selfContained]
    simp
  have hoccurs : Occurs keyword (scan (space ++ (table.text ++ gap.1))) (asCode word)
      (scan after) := by
    rw [Occurs, hfields]
    exact ⟨.last (spellsWord_asCode hsame hletters), hlast, isWord_head_scan hafter⟩
  have hstart := conditionStart_eq hscan hquiet.noWord (.inl hlast)
    (.inr ⟨keyword, hkeyword, _, _, rfl, hoccurs⟩)
  have hpart : space ++ (table.text ++ (gap.1 ++ (word ++ after))) =
      (space ++ (table.text ++ gap.1)) ++ (word ++ after) := by
    simp
  rw [partNames, hstart, length_scan, hpart, List.take_left]
  exact ofCommaList_table table hspace gap.2.2

end Parts

section Scans

variable {tail : Text} (htail : ∀ c ∈ tail.head?, Text.isBlank c)

theorem JoinCondition.keyword_isName (condition : JoinCondition) :
    condition.keyword.1 ≠ [] ∧ ∀ c ∈ condition.keyword.1, isNameChar c := by
  obtain ⟨keyword, hkeyword, hsame⟩ := sameLetters_conditionWord condition.keyword.2
  exact isNameChar_of_sameLetters hsame (fields_conditionWord hkeyword).2.1

theorem JoinCondition.not_modifier (condition : JoinCondition) :
    joinModifiers.any (Text.sameLetters condition.keyword.1) = false := by
  obtain ⟨keyword, hkeyword, hsame⟩ := sameLetters_conditionWord condition.keyword.2
  have hnone : ∀ keyword ∈ conditionWords, ∀ modifier ∈ joinModifiers,
      Text.sameLetters keyword modifier = false := by
    decide
  rw [List.any_eq_false]
  intro modifier hmodifier
  simp [sameLetters_congr hsame, hnone keyword hkeyword modifier hmodifier]

theorem JoinCondition.isPlain_keyword (condition : JoinCondition) :
    ∀ c ∈ condition.keyword.1, isPlain c :=
  isPlain_of_isName condition.keyword_isName.2

include htail in
theorem JoinCondition.head_append (condition : JoinCondition) :
    ∀ c ∈ (condition.body ++ tail).head?, isNameChar c = false := by
  cases hbody : condition.body with
  | nil => exact fun c hc => isNameChar_of_isBlank (htail c hc)
  | cons first body =>
    have hhead := condition.head
    rw [hbody] at hhead
    exact hhead

include htail in
theorem JoinCondition.scan_append (condition : JoinCondition) :
    scan (condition.text ++ tail) = asCode condition.gap.1 ++
      (asCode condition.keyword.1 ++ (scan condition.body ++ scan tail)) := by
  rw [JoinCondition.text, List.append_assoc, List.append_assoc, condition.gap.scan_append,
    scan_append_of_plain _ condition.isPlain_keyword, scan_append_of_blank condition.closed htail]

theorem JoinCondition.scan_text (condition : JoinCondition) :
    scan condition.text = asCode condition.gap.1 ++
      (asCode condition.keyword.1 ++ scan condition.body) := by
  have hscan := condition.scan_append (by simp : ∀ c ∈ ([] : Text).head?, Text.isBlank c)
  rwa [List.append_nil, scan_nil, List.append_nil] at hscan

theorem JoinCondition.noWord (condition : JoinCondition) : NoWord "JOIN" (scan condition.text) := by
  obtain ⟨keyword, hkeyword, hsame⟩ := sameLetters_conditionWord condition.keyword.2
  have hspells : Spells Marked.isBlank [keyword] (asCode condition.keyword.1) :=
    .last (spellsWord_asCode hsame (fields_conditionWord hkeyword).2.1)
  have hother : ∀ keyword ∈ conditionWords, ∀ part ∈ [keyword],
      Text.sameLetters part "JOIN" = false := by
    decide
  have hword := noWord_of_spells hspells (hother keyword hkeyword)
  have hbody : NoWord "JOIN" (scan condition.body) := noWord_scan condition.words
  have hrest := hword.append hbody (.inr (isWord_head_scan condition.head))
  rw [condition.scan_text]
  exact (noWord_of_not_word condition.gap.isWord).append hrest
    (.inl (condition.gap.isWord_getLast []))

theorem partNames_part (table : WrittenTable) (condition : Option JoinCondition)
    {space after : Text} (hspace : Text.allBlank space) (hafter : Text.allBlank after) :
    partNames (space ++ (table.text ++ (conditionText condition ++ after))) =
      [table.name.word] := by
  cases condition with
  | none => exact partNames_table table hspace hafter
  | some condition =>
    have hblank : ∀ c ∈ after.head?, Text.isBlank c :=
      fun c hc => List.all_eq_true.mp hafter c (List.mem_of_mem_head? hc)
    have hnames := partNames_condition table hspace condition.gap condition.keyword
      (condition.head_append hblank)
    simpa [conditionText, JoinCondition.text] using hnames

section Part

variable (table : WrittenTable) (condition : Option JoinCondition) {space : Text}

theorem scan_part (hspace : Text.allBlank space) (htail : ∀ c ∈ tail.head?, Text.isBlank c) :
    scan (space ++ (table.text ++ (conditionText condition ++ tail))) =
      scan (space ++ (table.text ++ conditionText condition)) ++ scan tail := by
  have hplain := isPlain_of_isBreak (isBreak_of_allBlank hspace)
  rw [scan_append_of_plain _ hplain, scan_append_of_plain _ hplain, table.quiet.selfContained,
    table.quiet.selfContained]
  cases condition with
  | none => simp [conditionText, scan_nil]
  | some condition =>
    have hscan := condition.scan_append htail
    simp [conditionText, hscan, condition.scan_text]

theorem noWord_part (hspace : Text.allBlank space) :
    NoWord "JOIN" (scan (space ++ (table.text ++ conditionText condition))) := by
  have hquiet := (quiet_of_isBreak (isBreak_of_allBlank hspace)).append table.quiet
    (apart_left (isBreak_of_allBlank hspace) _)
  have hfront := hquiet.noWord "JOIN" List.mem_cons_self
  rw [← List.append_assoc, hquiet.selfContained]
  cases condition with
  | none => simpa [conditionText, scan_nil] using hfront
  | some condition =>
    refine hfront.append condition.noWord ?_
    exact apart_right_append condition.gap.isBreak condition.gap.2.1 _ _

end Part

end Scans

section Cut

theorem slice_of_le {text front back : Text} {start stop : Nat}
    (htext : text.drop start = front ++ back) (hstop : start + front.length ≤ stop) :
    (Span.mk start stop).slice text = front ++ back.take (stop - (start + front.length)) := by
  have hlength : stop - start = front.length + (stop - (start + front.length)) := by omega
  rw [Span.slice, htext, hlength, List.take_length_add_append]

variable {text rest : Text} {front : List Marked} (table : WrittenTable) {space : Text}
  (hspace : Text.allBlank space) (gap : Gap)

theorem blankBetween_table {position : Nat}
    (htext : text = front.map Prod.fst ++ (space ++ (table.text ++ (gap.1 ++ rest))))
    (hposition : position ≤ front.length) :
    blankBetween text position
      (front.length + (space ++ table.text).length + gap.1.length) = false := by
  have hslice : (Span.mk position
      (front.length + (space ++ table.text).length + gap.1.length)).slice text =
        (front.map Prod.fst).drop position ++ (space ++ (table.text ++ gap.1)) := by
    have hdrop : text.drop position =
        ((front.map Prod.fst).drop position ++ (space ++ (table.text ++ gap.1))) ++ rest := by
      rw [htext, List.drop_append_of_le_length (by simpa using hposition)]
      simp
    rw [Span.slice, hdrop]
    apply List.take_left'
    simp only [List.length_append, List.length_drop, List.length_map]
    omega
  obtain ⟨c, more, htable⟩ := List.exists_cons_of_ne_nil table.text_ne_nil
  have hc : Text.isBlank c = false := isBlank_of_isPathChar (table.ends.1 c (by rw [htable]; rfl))
  rw [blankBetween, hslice, htable]
  simp [Text.allBlank, hc]

include hspace

theorem not_modifier_of_table
    (hscan : scan text = front ++ (scan (space ++ table.text) ++ scan rest)) :
    ∀ word ∈ runs front.length (scan (space ++ table.text)),
      joinModifiers.any (Text.sameLetters (word.slice text)) = false := by
  have hquiet := (quiet_of_isBreak (isBreak_of_allBlank hspace)).append table.quiet
    (apart_left (isBreak_of_allBlank hspace) _)
  have hdrop := drop_of_scan_eq hscan
  intro word hword
  rw [List.any_eq_false]
  intro modifier hmodifier
  have hlist : modifier ∈ listWords := by simp [listWords, hmodifier]
  simp [(hquiet.noWord modifier hlist).sameLetters hdrop word hword]

/-- Without a condition the walk back does not go into the table. -/
theorem joinStart_table
    (hscan : scan text = front ++ (scan (space ++ table.text) ++ scan (gap.1 ++ rest))) :
    joinStart text (front.length + (space ++ table.text).length + gap.1.length)
      ((runs front.length (scan (space ++ table.text))).reverse ++ (runs 0 front).reverse) =
        front.length + (space ++ table.text).length + gap.1.length := by
  have htext : text = front.map Prod.fst ++ (space ++ (table.text ++ (gap.1 ++ rest))) := by
    rw [← map_fst_scan text, hscan, List.map_append, List.map_append, map_fst_scan, map_fst_scan]
    simp
  cases hlater : (runs front.length (scan (space ++ table.text))).reverse with
  | cons word later =>
    have hword : word ∈ runs front.length (scan (space ++ table.text)) :=
      List.mem_reverse.mp (hlater ▸ List.mem_cons_self)
    rw [List.cons_append, joinStart, not_modifier_of_table table hspace hscan word hword]
    simp
  | nil =>
    cases hbefore : (runs 0 front).reverse with
    | nil => rfl
    | cons word before =>
      have hword : word ∈ runs 0 front := List.mem_reverse.mp (hbefore ▸ List.mem_cons_self)
      have hbounds := bounds_of_mem_runs hword
      rw [Nat.zero_add] at hbounds
      rw [List.nil_append, joinStart, blankBetween_table table gap htext hbounds.2.2]
      simp

theorem partNames_cut_table
    (hscan : scan text = front ++ (scan (space ++ table.text) ++ scan (gap.1 ++ rest))) :
    partNames ((Span.mk front.length (joinStart text
      (front.length + (space ++ table.text).length + gap.1.length)
      ((runs front.length (scan (space ++ table.text))).reverse ++
        (runs 0 front).reverse))).slice text) = [table.name.word] := by
  have hdrop : text.drop front.length = (space ++ (table.text ++ gap.1)) ++ rest := by
    rw [drop_of_scan_eq hscan]
    simp
  have hslice : (Span.mk front.length
      (front.length + (space ++ table.text).length + gap.1.length)).slice text =
        space ++ (table.text ++ gap.1) := by
    rw [slice_of_le hdrop (by simp [Nat.add_assoc])]
    simp [Nat.add_assoc]
  rw [joinStart_table table hspace gap hscan, hslice]
  exact partNames_table table hspace gap.2.2

theorem runs_part_condition (condition : JoinCondition) (position : Nat) :
    let start := position + (space ++ (table.text ++ condition.gap.1)).length
    runs position (scan (space ++ (table.text ++ condition.text))) =
      runs position (scan (space ++ (table.text ++ condition.gap.1))) ++
        ⟨start, start + condition.keyword.1.length⟩ ::
          runs (start + condition.keyword.1.length) (scan condition.body) := by
  intro start
  have hquiet := table.quiet.around hspace condition.gap.2.2
  have hpart : space ++ (table.text ++ condition.text) =
      (space ++ (table.text ++ condition.gap.1)) ++ (condition.keyword.1 ++ condition.body) := by
    simp [JoinCondition.text]
  have hne : asCode condition.keyword.1 ≠ [] := by simpa [asCode] using condition.keyword_isName.1
  have hapart : Apart (scan (space ++ (table.text ++ condition.gap.1)))
      (asCode condition.keyword.1 ++ scan condition.body) :=
    .inl (isWord_last_table table hspace condition.gap)
  rw [hpart, hquiet.selfContained, scan_append_of_plain _ condition.isPlain_keyword,
    runs_append position hapart,
    runs_word_append _ hne (isWord_of_isName condition.keyword_isName.2)
      (isWord_head_scan condition.head), length_scan]
  simp [asCode, start]

/-- The walk back ends behind the word that begins a condition, and what is left of the condition
does not matter. -/
theorem partNames_cut_condition (condition : JoinCondition)
    (hscan : scan text =
      front ++ (scan (space ++ (table.text ++ condition.text)) ++ scan (gap.1 ++ rest))) :
    partNames ((Span.mk front.length (joinStart text
      (front.length + (space ++ (table.text ++ condition.text)).length + gap.1.length)
      ((runs front.length (scan (space ++ (table.text ++ condition.text)))).reverse ++
        (runs 0 front).reverse))).slice text) = [table.name.word] := by
  set position := front.length + (space ++ (table.text ++ condition.text)).length + gap.1.length
    with hposition
  set start := front.length + (space ++ (table.text ++ condition.gap.1)).length with hstart
  set stop := start + condition.keyword.1.length with hstop
  have hdrop : text.drop front.length = (space ++ (table.text ++ condition.gap.1)) ++
      (condition.keyword.1 ++ (condition.body ++ (gap.1 ++ rest))) := by
    rw [drop_of_scan_eq hscan]
    simp [JoinCondition.text]
  have hword : (Span.mk start stop).slice text = condition.keyword.1 := by
    rw [Span.slice, hstart, ← List.drop_drop, hdrop, List.drop_left, hstop, hstart,
      Nat.add_sub_cancel_left, List.take_left]
  have hmodifier : joinModifiers.any (Text.sameLetters ((Span.mk start stop).slice text)) = false := by
    rw [hword]
    exact condition.not_modifier
  rw [runs_part_condition table hspace condition front.length, List.reverse_append,
    List.reverse_cons, List.append_assoc, List.append_assoc, List.singleton_append]
  have hlength : position = stop + condition.body.length + gap.1.length := by
    simp only [hposition, hstop, hstart, JoinCondition.text, List.length_append]
    omega
  have hbody : stop + (scan condition.body).length ≤ position := by
    rw [hlength, length_scan]
    omega
  -- words of the condition may pass for modifiers, but the word that begins it does not
  have hafter := le_joinStart (scan condition.body)
    ((runs front.length (scan (space ++ (table.text ++ condition.gap.1)))).reverse ++
      (runs 0 front).reverse) hmodifier hbody
  set found := joinStart text position _ with hfound
  rw [← List.append_assoc] at hdrop
  rw [slice_of_le hdrop (by rwa [List.length_append, ← Nat.add_assoc])]
  simp only [List.append_assoc]
  refine partNames_condition table hspace condition.gap condition.keyword fun c hc => ?_
  rw [List.head?_take] at hc
  split_ifs at hc
  · cases hc
  · exact condition.head_append (gap.isBlank_head rest) c hc

/-- A part of a chain is read up to the modifiers of the next join, or less. -/
theorem partNames_cut (condition : Option JoinCondition)
    (hscan : scan text = front ++
      (scan (space ++ (table.text ++ conditionText condition)) ++ scan (gap.1 ++ rest))) :
    partNames ((Span.mk front.length (joinStart text
      (front.length + (space ++ (table.text ++ conditionText condition)).length + gap.1.length)
      ((runs front.length (scan (space ++ (table.text ++ conditionText condition)))).reverse ++
        (runs 0 front).reverse))).slice text) = [table.name.word] := by
  cases condition with
  | none =>
    have hnone : table.text ++ conditionText none = table.text := List.append_nil _
    rw [hnone] at hscan ⊢
    exact partNames_cut_table table hspace gap hscan
  | some condition => exact partNames_cut_condition table hspace gap condition hscan

end Cut

end QueryLint
