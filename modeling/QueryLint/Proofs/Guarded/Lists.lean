import QueryLint.Proofs.Guarded.Clauses
import QueryLint.Proofs.Searching
import QueryLint.Proofs.Separators
import QueryLint.TableList

/-!
The reading of lists and of FROM clauses on byte offsets. A comma takes one byte and so does a dot,
an ASCII letter takes as many bytes in upper case as in lower case, and the walk back from a join
over its modifiers ends at the join before it.
-/

namespace QueryLint.Guarded

open Text Utf8 TableList

variable {text : Text}

/-- The byte offsets of the commas outside parentheses, when `depth` parentheses are open. -/
def commas (depth : Nat) : List (Nat × Marked) → List Nat
  | [] => []
  | (start, mark) :: rest =>
    if mark.isCode '(' then commas (depth + 1) rest
    else if mark.isCode ')' then commas (depth - 1) rest
    else if mark.isCode ',' && depth = 0 then start :: commas depth rest
    else commas depth rest

def topLevelCommas (text : Text) : List Nat := commas 0 (codeChars text)

theorem commas_codeCharsFrom {position : Nat} {marks : List Marked} (depth : Nat)
    (h : text.drop position = marks.map Prod.fst) :
    commas depth (codeCharsFrom (offset text position) marks) =
      (commasFrom position depth marks).map (offset text) := by
  induction marks generalizing position depth with
  | nil => rfl
  | cons mark marks ih =>
    have hrest (depth : Nat) := ih depth (Text.drop_succ h)
    by_cases hcomment : mark.2 = .comment
    · have hcode (c : Char) : mark.isCode c = false := by simp [Marked.isCode, hcomment]
      simp [codeCharsFrom, commasFrom, ← offset_succ h, hcomment, hcode, hrest]
    · simp only [codeCharsFrom, if_neg hcomment, commas, commasFrom, ← offset_succ h, hrest,
        apply_ite (List.map (offset text)), List.map_cons]

theorem topLevelCommas_eq (text : Text) :
    topLevelCommas text = (QueryLint.topLevelCommas text).map (offset text) := by
  have hcommas := commas_codeCharsFrom 0 (drop_zero_eq_scan text)
  rwa [offset_zero] at hcommas

/-- The pieces of a text from `start` on between separators of one byte each. -/
def piecesBetween? (text : Text) (start : Nat) : List Nat → Option (List Text)
  | [] => do
    let piece ← slice? text start (size text)
    return [piece]
  | cut :: cuts => do
    let piece ← slice? text start cut
    let pieces ← piecesBetween? text (cut + 1) cuts
    return piece :: pieces

def splitItems? (text : Text) : Option (List Text) := do
  let pieces ← piecesBetween? text 0 (topLevelCommas text)
  let items ← pieces.mapM trimCode?
  return items.filter fun item => !item.isEmpty

theorem piecesBetween?_eq {start : Nat} {cuts : List Nat} (hstart : start ≤ text.length)
    (h : Separators start text.length cuts)
    (hcomma : ∀ cut ∈ cuts, ∃ rest, text.drop cut = ',' :: rest) :
    piecesBetween? text (offset text start) (cuts.map (offset text)) =
      some ((spansBetween start text.length cuts).map (·.slice text)) := by
  induction cuts generalizing start with
  | nil =>
    have hpiece := slice?_offset text hstart (Nat.le_refl text.length)
    rw [offset_length] at hpiece
    simp [piecesBetween?, spansBetween, hpiece]
  | cons cut cuts ih =>
    have hcut := h.le_head
    have hpiece := slice?_offset text hcut.1 (Nat.le_of_lt hcut.2)
    obtain ⟨⟨rest, hrest⟩, hcommas⟩ := List.forall_mem_cons.mp hcomma
    have hnext : offset text cut + 1 = offset text (cut + 1) := (offset_succ hrest).symm
    have hpieces := ih hcut.2 h.tail hcommas
    simp [piecesBetween?, spansBetween, hpiece, hnext, hpieces]

theorem splitItems?_eq (text : Text) : splitItems? text = some (splitItems text) := by
  obtain ⟨hseparators, hcommas⟩ := separators_commasFrom 0 (drop_zero_eq_scan text)
  have hpieces := piecesBetween?_eq (Nat.zero_le text.length) hseparators hcommas
  rw [offset_zero] at hpieces
  have htrimmed (pieces : List Text) : pieces.mapM trimCode? = some (pieces.map trimCode) :=
    mapM_eq_some fun piece _ => trimCode?_eq piece
  rw [splitItems?, topLevelCommas_eq, QueryLint.topLevelCommas, hpieces]
  simp only [Option.bind_eq_bind, Option.bind_some, htrimmed, List.map_map]
  rfl

def dropAlias? (reference : Text) : Option Text :=
  let upper := reference.map asciiUpperChar
  match Text.find? " AS " upper with
  | some position => slice? reference 0 (offset upper position)
  | none => some ((fields reference).headD [])

def dropQualifier? (name : Text) : Option Text :=
  match findLast? '.' name with
  | some position => slice? name (offset name position + 1) (size name)
  | none => some name

def bareName? (reference : Text) : Option Text := do
  let head ← dropAlias? (Text.trim reference)
  let name ← dropQualifier? (dropWhileEnd (· = ')') ((Text.trim head).dropWhile (· = '(')))
  return dropWhileEnd isNameQuote (name.dropWhile isNameQuote)

theorem utf8Size_asciiUpperChar (c : Char) : (asciiUpperChar c).utf8Size = c.utf8Size := by
  have hascii {d : Char} (hd : d.val.toNat ≤ 122) : d.utf8Size = 1 :=
    Char.utf8Size_eq_one_iff.mpr (UInt32.le_iff_toNat_le.mpr (show d.val.toNat ≤ 127 by omega))
  delta asciiUpperChar Char.toUpper
  split
  · rename_i h
    have hlow : 97 ≤ c.val.toNat := UInt32.le_iff_toNat_le.mp h.1
    have hhigh : c.val.toNat ≤ 122 := UInt32.le_iff_toNat_le.mp h.2
    have hupper : (c.val + ('A'.val - 'a'.val)).toNat = c.val.toNat - 32 := by
      rw [UInt32.toNat_add, show ('A'.val - 'a'.val).toNat = 2 ^ 32 - 32 from rfl]
      omega
    rw [hascii hhigh, hascii (by rw [hupper]; omega)]
  · rfl

theorem offset_asciiUpper (text : Text) (position : Nat) :
    offset (text.map asciiUpperChar) position = offset text position := by
  have hsize (text : Text) : size (text.map asciiUpperChar) = size text := by
    induction text with
    | nil => rfl
    | cons c rest ih => rw [List.map_cons, size_cons, size_cons, ih, utf8Size_asciiUpperChar]
  rw [offset, ← List.map_take, hsize, offset]

theorem dropAlias?_eq (reference : Text) :
    dropAlias? reference = some (withoutAlias reference) := by
  rw [dropAlias?, withoutAlias]
  cases hfound : Text.find? " AS " (reference.map asciiUpperChar) with
  | none => rfl
  | some position =>
    have hposition := find?_bounds hfound
    rw [List.length_map] at hposition
    have hpiece := slice?_offset reference (Nat.zero_le position) hposition
    rwa [offset_zero, ← offset_asciiUpper] at hpiece

theorem dropQualifier?_eq (name : Text) :
    dropQualifier? name = some (withoutQualifier name) := by
  rw [dropQualifier?, withoutQualifier]
  cases hfound : findLast? '.' name with
  | none => rfl
  | some position =>
    obtain ⟨rest, hrest⟩ := drop_findLast? hfound
    have hlength := congrArg List.length hrest
    rw [List.length_drop, List.length_cons] at hlength
    have hpiece := slice?_offset name (by omega : position + 1 ≤ name.length)
      (Nat.le_refl name.length)
    have htake : (Span.mk (position + 1) name.length).slice name = name.drop (position + 1) :=
      List.take_of_length_le (Nat.le_of_eq List.length_drop)
    rwa [offset_length, offset_succ hrest, htake] at hpiece

theorem bareName?_eq (reference : Text) : bareName? reference = some (bareName reference) := by
  simp only [bareName?, dropAlias?_eq, dropQualifier?_eq, Option.bind_eq_bind, Option.bind_some,
    bareName_eq]
  rfl

def ofCommaList? (text : Text) : Option (List Text) := do
  let items ← splitItems? text
  let names ← items.mapM bareName?
  return names.filter fun name => !name.isEmpty

theorem ofCommaList?_eq (text : Text) : ofCommaList? text = some (ofCommaList text) := by
  have hnames (items : List Text) : items.mapM bareName? = some (items.map bareName) :=
    mapM_eq_some fun item _ => bareName?_eq item
  simp only [ofCommaList?, splitItems?_eq, hnames, Option.bind_eq_bind, Option.bind_some]
  rfl

def dropCondition? (part : Text) : Option Text := do
  let stop ← firstKeyword? part (wordSpans part) ["ON", "USING"]
  slice? part 0 stop

theorem conditionStart_le (part : Text) : conditionStart part ≤ part.length := by
  refine (first_bounds (Nat.zero_le part.length) ?_).2
  intro position hposition
  exact ⟨Nat.zero_le position, ((wordList_wordSpans part).keywordStarts_bounds hposition).1⟩

theorem dropCondition?_eq (part : Text) :
    dropCondition? part = some (part.take (conditionStart part)) := by
  have hstop := firstKeyword?_eq (wordList_wordSpans part) ["ON", "USING"]
  have hpiece := slice?_offset part (Nat.zero_le _) (conditionStart_le part)
  rw [offset_zero] at hpiece
  rw [dropCondition?, wordSpans_eq, hstop]
  exact hpiece

def joinedNames? (part : Text) : Option (List Text) := do
  let tables ← dropCondition? part
  ofCommaList? tables

theorem joinedNames?_eq (part : Text) :
    joinedNames? part = some (ofCommaList (part.take (conditionStart part))) := by
  rw [joinedNames?, dropCondition?_eq]
  exact ofCommaList?_eq _

/-- Where a join that has begun at `start` begins with its modifiers, given the words before it
from the last to the first. -/
def joinStart? (text : Text) (start : Nat) : List Span → Option Nat
  | [] => some start
  | word :: words => do
    let piece ← slice? text word.start word.stop
    let gap ← slice? text word.stop start
    if allBlank gap && joinModifiers.any (sameLetters piece) then joinStart? text word.start words
    else return start

def joinParts? (text : Text) (start : Nat) (before : List Span) : List Span → Option (List Text)
  | [] => do
    let part ← slice? text start (size text)
    return [part]
  | word :: words => do
    let piece ← slice? text word.start word.stop
    if isJoin piece then
      let stop ← joinStart? text word.start before
      let part ← slice? text start stop
      let parts ← joinParts? text word.stop (word :: before) words
      return part :: parts
    else joinParts? text start (word :: before) words

def tableNames? (text : Text) : Option (List Text) := do
  let words := wordSpans text
  let pieces ← words.mapM fun word => slice? text word.start word.stop
  if pieces.any isJoin then
    let parts ← joinParts? text 0 [] words
    let names ← parts.mapM joinedNames?
    return names.flatten
  else ofCommaList? text

/-- The words since the last join, given from the last to the first, stand after `start`. -/
def SinceJoin (text : Text) (start : Nat) : List Span → Prop
  | [] => True
  | word :: words => isJoin (word.slice text) ∨ (start ≤ word.start ∧ SinceJoin text start words)

theorem not_modifier_of_isJoin {word : Text} (h : isJoin word) :
    joinModifiers.any (sameLetters word) = false := by
  rw [isJoin, sameLetters, beq_iff_eq] at h
  simp only [joinModifiers, List.any_cons, List.any_nil, sameLetters, h]
  decide

/-- The walk back over modifiers ends at the last join. -/
theorem le_joinStart {start position : Nat} {before : List Span} (h : SinceJoin text start before)
    (hposition : start ≤ position) : start ≤ joinStart text position before := by
  induction before generalizing position with
  | nil => exact hposition
  | cons word before ih =>
    rw [joinStart]
    split
    · rename_i hmodifier
      rcases h with hjoin | ⟨hstart, hbefore⟩
      · -- JOIN is no modifier, so that the walk does not pass it
        rw [not_modifier_of_isJoin hjoin, Bool.and_false] at hmodifier
        cases hmodifier
      · exact ih hbefore hstart
    · exact hposition

/-- Words from the last to the first, all of them before `position`. -/
structure WordsBefore (position : Nat) (words : List Span) : Prop where
  descending : words.Pairwise fun later earlier => earlier.stop < later.start
  within : ∀ word ∈ words, word.start < word.stop ∧ word.stop ≤ position

theorem joinStart?_eq {position : Nat} {before : List Span} (hposition : position ≤ text.length)
    (h : WordsBefore position before) :
    joinStart? text (offset text position) (before.map (bytes text)) =
        some (offset text (joinStart text position before)) ∧
      joinStart text position before ≤ position := by
  induction before generalizing position with
  | nil => exact ⟨rfl, Nat.le_refl position⟩
  | cons word before ih =>
    have hword := h.within word List.mem_cons_self
    have hpiece := slice?_bytes (Nat.le_of_lt hword.1) (Nat.le_trans hword.2 hposition)
    have hgap : slice? text (bytes text word).stop (offset text position) =
        some ((Span.mk word.stop position).slice text) :=
      slice?_offset text hword.2 hposition
    have hbefore : WordsBefore word.start before := by
      refine ⟨h.descending.of_cons, fun earlier hearlier => ?_⟩
      have hstop := List.rel_of_pairwise_cons h.descending hearlier
      exact ⟨(h.within earlier (List.mem_cons_of_mem _ hearlier)).1, Nat.le_of_lt hstop⟩
    obtain ⟨hrest, hle⟩ := ih (by omega) hbefore
    have hblank : allBlank ((Span.mk word.stop position).slice text) =
        blankBetween text word.stop position := rfl
    simp only [List.map_cons, joinStart?, hpiece, hgap, hblank, Option.bind_eq_bind,
      Option.bind_some, joinStart]
    by_cases hmodifier : (blankBetween text word.stop position &&
        joinModifiers.any (sameLetters (word.slice text))) = true
    · rw [if_pos hmodifier, if_pos hmodifier]
      exact ⟨hrest, by omega⟩
    · rw [if_neg hmodifier, if_neg hmodifier]
      exact ⟨rfl, Nat.le_refl position⟩

theorem joinParts?_eq {start : Nat} {before words : List Span}
    (h : WordList text (before.reverse ++ words)) (hstart : start ≤ text.length)
    (hwords : ∀ word ∈ words, start ≤ word.start) (hsince : SinceJoin text start before) :
    joinParts? text (offset text start) (before.map (bytes text)) (words.map (bytes text)) =
      some ((joinSegments text start before words).map (·.slice text)) := by
  induction words generalizing start before with
  | nil =>
    have hpart := slice?_offset text hstart (Nat.le_refl text.length)
    rw [offset_length] at hpart
    simp [joinParts?, joinSegments, hpart]
  | cons word words ih =>
    have hword := h.within word (by simp)
    have hpiece := slice?_bytes (Nat.le_of_lt hword.1) hword.2
    have hnext : WordList text ((word :: before).reverse ++ words) := by simpa using h
    obtain ⟨hdescending, hascending, hpassed⟩ := List.pairwise_append.mp h.ascending
    have hbefore : WordsBefore word.start before := by
      refine ⟨List.pairwise_reverse.mp hdescending, fun earlier hearlier => ?_⟩
      have hmem := List.mem_reverse.mpr hearlier
      exact ⟨(h.within earlier (List.mem_append_left _ hmem)).1,
        Nat.le_of_lt (hpassed earlier hmem word List.mem_cons_self)⟩
    -- a join ends a part and begins the next; any other word is only passed
    by_cases hjoin : isJoin (word.slice text)
    · have hposition : word.start ≤ text.length := by omega
      obtain ⟨hcut, hle⟩ := joinStart?_eq hposition hbefore
      have hpart := slice?_offset text
        (le_joinStart hsince (hwords word List.mem_cons_self)) (by omega)
      have hlater : ∀ later ∈ words, word.stop ≤ later.start := fun later hlater =>
        Nat.le_of_lt (List.rel_of_pairwise_cons hascending hlater)
      have hparts := ih hnext hword.2 hlater (.inl hjoin)
      rw [List.map_cons] at hparts
      simp only [List.map_cons, joinParts?, hpiece, Option.bind_eq_bind, Option.bind_some, hjoin,
        if_true, joinSegments]
      simp only [bytes] at hcut hparts ⊢
      simp [hcut, hpart, hparts]
    · have hparts := ih hnext hstart (List.forall_mem_cons.mp hwords).2
        (.inr ⟨hwords word List.mem_cons_self, hsince⟩)
      rw [List.map_cons] at hparts
      simp only [List.map_cons, joinParts?, hpiece, Option.bind_eq_bind, Option.bind_some, hjoin,
        joinSegments]
      exact hparts

theorem tableNames?_eq (text : Text) : tableNames? text = some (tableNames text) := by
  have hwords := wordList_wordSpans text
  have hpieces : (wordSpans text).mapM (fun word => slice? text word.start word.stop) =
      some ((QueryLint.wordSpans text).map (·.slice text)) := by
    rw [wordSpans_eq, List.mapM_map]
    refine mapM_eq_some fun word hword => ?_
    have hbounds := hwords.within word hword
    exact slice?_bytes (Nat.le_of_lt hbounds.1) hbounds.2
  have hnone : WordList text ([].reverse ++ QueryLint.wordSpans text) := hwords
  have hstarts : ∀ word ∈ QueryLint.wordSpans text, 0 ≤ word.start := fun word _ => Nat.zero_le _
  have hparts := joinParts?_eq hnone (Nat.zero_le text.length) hstarts trivial
  rw [offset_zero, List.map_nil, ← wordSpans_eq] at hparts
  have hnames (parts : List Text) :
      parts.mapM joinedNames? =
        some (parts.map fun part => ofCommaList (part.take (conditionStart part))) :=
    mapM_eq_some fun part _ => joinedNames?_eq part
  have hjoin : ((QueryLint.wordSpans text).map (·.slice text)).any isJoin =
      (QueryLint.wordSpans text).any fun word => isJoin (word.slice text) := by
    rw [List.any_map]
    rfl
  simp only [tableNames?, tableNames, hpieces, hparts, hnames, ofCommaList?_eq, hjoin,
    Option.bind_eq_bind, Option.bind_some, List.map_map]
  cases (QueryLint.wordSpans text).any fun word => isJoin (word.slice text) with
  | true => rfl
  | false => rfl

end QueryLint.Guarded
