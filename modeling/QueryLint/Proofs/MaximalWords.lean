import QueryLint.Proofs.Guarded.Clauses
import QueryLint.Proofs.Markup
import QueryLint.Proofs.MaximalRuns

/-!
The words of a statement on byte offsets. A loop over the characters outside comments keeps the
word that the next character may belong to, and ends it where that character is no letter or does
not begin at the next byte. What it finds are the maximal runs of the bytes of word characters, and
so are the words that are read off the marks: there is only one list of maximal words.
-/

namespace QueryLint

open Utf8

theorem Marked.isWord_iff {mark : Marked} :
    mark.isWord ↔ mark.2 = .code ∧ (Text.isAlphanumeric mark.1 ∨ mark.1 = '_') := by
  simp [Marked.isWord]

namespace Utf8

variable {text : Text} {start stop position byte : Nat}

theorem exists_position (hstart : start ≤ text.length) (hle : offset text start ≤ byte)
    (hlt : byte < offset text stop) :
    ∃ position, (start ≤ position ∧ position < stop) ∧
      offset text position ≤ byte ∧ byte < offset text (position + 1) := by
  induction stop with
  | zero => simp at hlt
  | succ stop ih =>
    by_cases hearlier : byte < offset text stop
    · obtain ⟨position, hbounds, hbyte⟩ := ih hearlier
      exact ⟨position, by omega, hbyte⟩
    · refine ⟨stop, ⟨?_, Nat.lt_add_one stop⟩, by omega, hlt⟩
      by_contra hafter
      have hnext : stop + 1 ≤ start := by omega
      have := offset_le_of_le hnext hstart
      omega

theorem covers_bytes_iff {span : Span} (hle : span.start ≤ span.stop)
    (hstop : span.stop ≤ text.length) (hposition : position < text.length) :
    (bytes text span).Covers (offset text position) ↔ span.Covers position := by
  have hbefore : offset text position < offset text span.start ↔ position < span.start :=
    offset_lt_iff (by omega) (by omega)
  have hafter : offset text position < offset text span.stop ↔ position < span.stop :=
    offset_lt_iff (by omega) hstop
  simp only [Span.Covers, bytes]
  omega

end Utf8

/-- The maximal words of a text with the given marks, as spans of byte offsets. -/
structure MaximalWords (text : Text) (marks : List Marked) (words : List Span) : Prop where
  nonempty : ∀ word ∈ words, word.start < word.stop
  boundaries : ∀ word ∈ words, word.start ∈ boundaries text ∧ word.stop ∈ boundaries text
  ascending : words.Pairwise fun word next => word.stop + 1 ≤ next.start
  inside : ∀ word ∈ words, ∀ position mark, marks[position]? = some mark →
    word.Covers (offset text position) →
      mark.2 = .code ∧ (Text.isAlphanumeric mark.1 ∨ mark.1 = '_')
  covered : ∀ position mark, marks[position]? = some mark →
    mark.2 = .code ∧ (Text.isAlphanumeric mark.1 ∨ mark.1 = '_') →
      ∃! word, word ∈ words ∧ word.start ≤ offset text position ∧
        offset text (position + 1) ≤ word.stop

def WordByte (text : Text) (byte : Nat) : Prop :=
  ∃ position mark, (scan text)[position]? = some mark ∧ mark.isWord ∧
    offset text position ≤ byte ∧ byte < offset text (position + 1)

theorem lt_length_of_scan {text : Text} {position : Nat} {mark : Marked}
    (h : (scan text)[position]? = some mark) : position < text.length :=
  length_scan text ▸ (List.getElem?_eq_some_iff.mp h).1

theorem maximalRuns_wordSpans (text : Text) :
    MaximalRuns (fun position => ∃ mark, (scan text)[position]? = some mark ∧ mark.isWord)
      (wordSpans text) := by
  have hruns := maximalRuns_runsFrom ((scan text).map Marked.isWord)
  simpa [wordSpans] using hruns

theorem covers_bytes_of_mem_wordSpans {text : Text} {position : Nat} {run : Span}
    (hrun : run ∈ wordSpans text) (hposition : position < text.length) :
    (bytes text run).Covers (offset text position) ↔ run.Covers position := by
  have hwithin := (wordList_wordSpans text).within run hrun
  exact covers_bytes_iff (Nat.le_of_lt hwithin.1) hwithin.2 hposition

theorem maximalWords_wordSpans (text : Text) :
    MaximalWords text (scan text) ((wordSpans text).map (bytes text)) where
  nonempty := List.forall_mem_map.mpr fun run hrun => by
    have hwithin := (wordList_wordSpans text).within run hrun
    exact offset_lt_of_lt hwithin.1 hwithin.2
  boundaries := List.forall_mem_map.mpr fun run hrun => by
    have hwithin := (wordList_wordSpans text).within run hrun
    exact ⟨mem_boundaries_offset (by omega), mem_boundaries_offset hwithin.2⟩
  ascending := by
    have hwords := wordList_wordSpans text
    refine List.pairwise_map.mpr (hwords.ascending.imp_of_mem fun {run next} _ hnext hlt => ?_)
    have hwithin := hwords.within next hnext
    exact offset_lt_of_lt hlt (by omega)
  inside := List.forall_mem_map.mpr fun run hrun position mark hmark hcovers => by
    have hrunCovers := (covers_bytes_of_mem_wordSpans hrun (lt_length_of_scan hmark)).mp hcovers
    obtain ⟨found, hfound, hword⟩ :=
      ((maximalRuns_wordSpans text).covers_iff position).mp ⟨run, hrun, hrunCovers⟩
    obtain rfl : mark = found := Option.some.inj (hmark.symm.trans hfound)
    exact Marked.isWord_iff.mp hword
  covered := by
    intro position mark hmark hword
    have hposition := lt_length_of_scan hmark
    have hisWord := Marked.isWord_iff.mpr hword
    obtain ⟨run, hrun, hcovers⟩ :=
      ((maximalRuns_wordSpans text).covers_iff position).mpr ⟨mark, hmark, hisWord⟩
    have hstop := ((wordList_wordSpans text).within run hrun).2
    refine ⟨bytes text run, ⟨List.mem_map_of_mem hrun, offset_le_of_le hcovers.1 (by omega),
      offset_le_of_le hcovers.2 hstop⟩, ?_⟩
    rintro word ⟨hmem, hfirst, hlast⟩
    obtain ⟨other, hother, rfl⟩ := List.mem_map.mp hmem
    have hnext := offset_lt_of_lt (Nat.lt_add_one position) hposition
    have hcovers' := (covers_bytes_of_mem_wordSpans hother hposition).mp ⟨hfirst, by omega⟩
    rw [(maximalRuns_wordSpans text).eq_of_covers hrun hother hcovers hcovers']

theorem MaximalWords.maximalRuns {text : Text} {words : List Span}
    (h : MaximalWords text (scan text) words) : MaximalRuns (WordByte text) words where
  ascending := h.ascending
  nonempty := h.nonempty
  covers_iff byte := by
    constructor
    · rintro ⟨word, hword, hstart, hstop⟩
      obtain ⟨hfirst, hlast⟩ := h.boundaries word hword
      obtain ⟨start, hlength, hstartEq⟩ := List.mem_map.mp hfirst
      obtain ⟨stop, hlength', hstopEq⟩ := List.mem_map.mp hlast
      rw [List.mem_range] at hlength hlength'
      rw [← hstartEq] at hstart
      rw [← hstopEq] at hstop
      -- the word begins and ends between characters, so it holds the whole character of the byte
      obtain ⟨position, ⟨hle, hlt⟩, hbyte⟩ := exists_position (by omega) hstart hstop
      have hposition : position < (scan text).length := by
        rw [length_scan]
        omega
      have hmark : (scan text)[position]? = some (scan text)[position] :=
        List.getElem?_eq_getElem hposition
      have hcovers : word.Covers (offset text position) := by
        rw [Span.Covers, ← hstartEq, ← hstopEq]
        exact ⟨offset_le_of_le hle (by omega), offset_lt_of_lt hlt (by omega)⟩
      have hisWord := Marked.isWord_iff.mpr (h.inside word hword position _ hmark hcovers)
      exact ⟨position, _, hmark, hisWord, hbyte⟩
    · rintro ⟨position, mark, hmark, hisWord, hstart, hstop⟩
      obtain ⟨word, ⟨hword, hfirst, hlast⟩, -⟩ :=
        h.covered position mark hmark (Marked.isWord_iff.mp hisWord)
      exact ⟨word, hword, by omega, by omega⟩

theorem MaximalWords.eq_wordSpans {text : Text} {words : List Span}
    (h : MaximalWords text (scan text) words) : words = (wordSpans text).map (bytes text) :=
  h.maximalRuns.unique (maximalWords_wordSpans text).maximalRuns

namespace Guarded

def charSpan (char : Nat × Marked) : Span := ⟨char.1, char.1 + char.2.1.utf8Size⟩

theorem lt_stop_charSpan (char : Nat × Marked) : char.1 < (charSpan char).stop :=
  Nat.lt_add_of_pos_right char.2.1.utf8Size_pos

/-- What the loop over the characters of a text keeps: the words that ended, and the word to which
the next character may belong. -/
structure WordState where
  ended : List Span
  current : Option Span

namespace WordState

def words (state : WordState) : List Span := state.ended ++ state.current.toList

/-- The current word ends, and the character begins a word if it can. -/
def turn (state : WordState) (char : Nat × Marked) : WordState where
  ended := state.words
  current := if char.2.isWord then some (charSpan char) else none

/-- A word character that begins where the current word ends belongs to it. -/
def step (state : WordState) (char : Nat × Marked) : WordState :=
  match state.current with
  | some word =>
    if char.2.isWord && word.stop = char.1 then
      { state with current := some ⟨word.start, (charSpan char).stop⟩ }
    else state.turn char
  | none => state.turn char

end WordState

/-- The words of a text, collected in one pass over its characters outside comments. -/
def collectWords (text : Text) : List Span :=
  ((codeChars text).foldl WordState.step ⟨[], none⟩).words

def InWord (chars : List (Nat × Marked)) (byte : Nat) : Prop :=
  ∃ char ∈ chars, char.2.isWord ∧ (charSpan char).Covers byte

/-- What the loop has found in the characters `chars`, which end before the byte `reached`. Only the
current word may end right there, so that no other word can go on with what follows. -/
structure Collects (chars : List (Nat × Marked)) (reached : Nat) (state : WordState) : Prop where
  runs : MaximalRuns (InWord chars) state.words
  ended : ∀ word ∈ state.ended, word.stop < reached
  current : ∀ word ∈ state.current, word.stop ≤ reached

namespace Collects

variable {chars done : List (Nat × Marked)} {char : Nat × Marked} {reached : Nat}
  {state : WordState}

theorem start : Collects [] 0 ⟨[], none⟩ where
  runs := ⟨List.Pairwise.nil, by simp [WordState.words], by simp [WordState.words, InWord]⟩
  ended := by simp
  current := by simp

theorem inWord_concat (byte : Nat) :
    InWord (chars ++ [char]) byte ↔
      InWord chars byte ∨ char.2.isWord ∧ (charSpan char).Covers byte := by
  simp [InWord, or_and_right, exists_or]

theorem stop_le (h : Collects chars reached state) : ∀ word ∈ state.words, word.stop ≤ reached := by
  refine List.forall_mem_append.mpr ⟨fun word hword => Nat.le_of_lt (h.ended word hword), ?_⟩
  simpa using h.current

/-- The current word may end where the next character does not go on with it. -/
theorem turn (h : Collects chars reached state) (hreached : reached ≤ char.1)
    (hapart : char.2.isWord → ∀ word ∈ state.current, word.stop ≠ char.1) :
    Collects (chars ++ [char]) (charSpan char).stop (state.turn char) := by
  have hnext := lt_stop_charSpan char
  have hended : ∀ word ∈ state.words, word.stop < (charSpan char).stop := fun word hword => by
    have := h.stop_le word hword
    omega
  cases hword : char.2.isWord with
  | false =>
    refine ⟨?_, hended, by simp [WordState.turn, hword]⟩
    have hsame : (state.turn char).words = state.words := by
      simp [WordState.turn, WordState.words, hword]
    rw [hsame]
    exact h.runs.congr fun byte => by simp [inWord_concat, hword]
  | true =>
    refine ⟨?_, hended, by simp [WordState.turn, hword]⟩
    have hmore : (state.turn char).words = state.words ++ [charSpan char] := by
      simp [WordState.turn, WordState.words, hword]
    rw [hmore]
    have hbefore : ∀ word ∈ state.words, word.stop < char.1 := by
      refine List.forall_mem_append.mpr ⟨fun word hended => ?_, fun word hcurrent => ?_⟩
      · exact Nat.lt_of_lt_of_le (h.ended word hended) hreached
      · have hmem := Option.mem_toList.mp hcurrent
        have hle : word.stop ≤ char.1 := Nat.le_trans (h.current word hmem) hreached
        exact Nat.lt_of_le_of_ne hle (hapart hword word hmem)
    exact h.runs.concat hbefore hnext fun byte => by simp [inWord_concat, hword]

theorem goOn {word : Span} (h : Collects chars reached state) (hreached : reached ≤ char.1)
    (hcurrent : state.current = some word) (hword : char.2.isWord)
    (hadjacent : word.stop = char.1) :
    Collects (chars ++ [char]) (charSpan char).stop
      { state with current := some ⟨word.start, (charSpan char).stop⟩ } := by
  have hnext := lt_stop_charSpan char
  refine ⟨?_, fun earlier hearlier => ?_, by simp⟩
  · have hruns := h.runs
    simp only [WordState.words, hcurrent, Option.toList_some] at hruns
    refine hruns.extend (by omega) fun byte => ?_
    rw [inWord_concat, hadjacent]
    simp [hword, charSpan]
  · have := h.ended earlier hearlier
    omega

theorem step (h : Collects chars reached state) (hreached : reached ≤ char.1) :
    Collects (chars ++ [char]) (charSpan char).stop (state.step char) := by
  cases hcurrent : state.current with
  | none =>
    rw [WordState.step, hcurrent]
    exact h.turn hreached (by simp [hcurrent])
  | some word =>
    rw [WordState.step, hcurrent]
    by_cases hgoesOn : char.2.isWord ∧ word.stop = char.1
    · simp only [hgoesOn.1, hgoesOn.2, decide_true, Bool.and_self, if_true]
      exact h.goOn hreached hcurrent hgoesOn.1 hgoesOn.2
    · have hapart : char.2.isWord → ∀ found ∈ state.current, found.stop ≠ char.1 := by
        intro hword found hfound hadjacent
        obtain rfl : word = found := Option.some.inj (hcurrent.symm.trans hfound)
        exact hgoesOn ⟨hword, hadjacent⟩
      simp only [Bool.and_eq_true, decide_eq_true_eq, hgoesOn, if_false]
      exact h.turn hreached hapart

/-- After all characters of a text the words are the maximal runs of bytes of word characters. -/
theorem run (h : Collects done reached state) (hreached : ∀ char ∈ chars, reached ≤ char.1)
    (hascending : chars.Pairwise fun char next => (charSpan char).stop ≤ next.1) :
    MaximalRuns (InWord (done ++ chars)) (chars.foldl WordState.step state).words := by
  induction chars generalizing done reached state with
  | nil => simpa using h.runs
  | cons char chars ih =>
    obtain ⟨hlater, hrest⟩ := List.pairwise_cons.mp hascending
    have hstep := h.step (hreached char List.mem_cons_self)
    simpa using ih hstep hlater hrest

end Collects

theorem ascending_codeCharsFrom (start : Nat) (marks : List Marked) :
    (∀ char ∈ codeCharsFrom start marks, start ≤ char.1) ∧
      (codeCharsFrom start marks).Pairwise fun char next => (charSpan char).stop ≤ next.1 := by
  induction marks generalizing start with
  | nil => simp [codeCharsFrom]
  | cons mark marks ih =>
    obtain ⟨hlater, hrest⟩ := ih (start + mark.1.utf8Size)
    have hall : ∀ char ∈ codeCharsFrom (start + mark.1.utf8Size) marks, start ≤ char.1 :=
      fun char hchar => Nat.le_trans (Nat.le_add_right _ _) (hlater char hchar)
    rw [codeCharsFrom]
    split
    · exact ⟨hall, hrest⟩
    · exact ⟨List.forall_mem_cons.mpr ⟨Nat.le_refl _, hall⟩, List.pairwise_cons.mpr ⟨hlater, hrest⟩⟩

/-- The bytes of word characters among the characters outside comments, by positions. -/
theorem inWord_codeCharsFrom_iff {text : Text} {position : Nat} {marks : List Marked}
    (h : text.drop position = marks.map Prod.fst) (byte : Nat) :
    InWord (codeCharsFrom (offset text position) marks) byte ↔
      ∃ i mark, marks[i]? = some mark ∧ mark.isWord ∧
        offset text (position + i) ≤ byte ∧ byte < offset text (position + i + 1) := by
  induction marks generalizing position with
  | nil => simp [codeCharsFrom, InWord]
  | cons first marks ih =>
    have hnext : offset text position + first.1.utf8Size = offset text (position + 1) :=
      (offset_succ h).symm
    have hrest := ih (Text.drop_succ h)
    have hsplit : (∃ i mark, (first :: marks)[i]? = some mark ∧ mark.isWord ∧
          offset text (position + i) ≤ byte ∧ byte < offset text (position + i + 1)) ↔
        (first.isWord ∧ offset text position ≤ byte ∧ byte < offset text (position + 1)) ∨
          InWord (codeCharsFrom (offset text (position + 1)) marks) byte := by
      rw [hrest]
      constructor
      · rintro ⟨_ | i, mark, hmark, hword, hbyte⟩
        · obtain rfl : first = mark := Option.some.inj hmark
          exact .inl ⟨hword, hbyte⟩
        · rw [Nat.add_comm i 1, ← Nat.add_assoc] at hbyte
          exact .inr ⟨i, mark, hmark, hword, hbyte⟩
      · rintro (⟨hword, hbyte⟩ | ⟨i, mark, hmark, hword, hbyte⟩)
        · exact ⟨0, first, rfl, hword, hbyte⟩
        · rw [Nat.add_assoc position 1 i, Nat.add_comm 1 i] at hbyte
          exact ⟨i + 1, mark, hmark, hword, hbyte⟩
    rw [hsplit, codeCharsFrom, hnext]
    split
    · rename_i hcomment
      simp [Marked.isWord, hcomment]
    · simp [InWord, charSpan, Span.Covers, hnext]

theorem collectWords_eq (text : Text) :
    collectWords text = (QueryLint.wordSpans text).map (bytes text) := by
  have hascending := ascending_codeCharsFrom 0 (scan text)
  have hruns : MaximalRuns (InWord (codeChars text)) (collectWords text) :=
    Collects.start.run hascending.1 hascending.2
  have hbytes : ∀ byte, InWord (codeChars text) byte ↔ WordByte text byte := by
    intro byte
    have hmarks := inWord_codeCharsFrom_iff (drop_zero_eq_scan text) byte
    simpa [WordByte, codeChars] using hmarks
  exact hruns.unique ((maximalWords_wordSpans text).maximalRuns.congr hbytes)

end Guarded

/-- Every statement has one list of maximal words: spans of bytes that are not empty, lie between
characters, ascend with a byte between any two, hold only letters, numbers and underscores outside
quotes and comments, and hold each of these once. They are the words of the statement, and those
that one pass over its characters collects. -/
theorem wordSpans_maximal (text : Text) :
    Guarded.collectWords text = (wordSpans text).map (bytes text) ∧
      ∀ marks words, Markup text marks ∧ MaximalWords text marks words ↔
        marks = scan text ∧ words = (wordSpans text).map (bytes text) := by
  refine ⟨Guarded.collectWords_eq text, fun marks words => ?_⟩
  rw [Markup.iff_eq_scan]
  constructor
  · rintro ⟨rfl, hwords⟩
    exact ⟨rfl, hwords.eq_wordSpans⟩
  · rintro ⟨rfl, rfl⟩
    exact ⟨rfl, maximalWords_wordSpans text⟩

/-- Letters of two bytes, a comment between two words, a word up to a quote and one at the end. -/
example :
    Guarded.collectWords "é1/**/ü--x\n_a'b'c" = [⟨0, 3⟩, ⟨7, 9⟩, ⟨13, 15⟩, ⟨18, 19⟩] := by
  decide

end QueryLint
