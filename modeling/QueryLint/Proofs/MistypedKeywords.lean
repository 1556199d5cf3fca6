import QueryLint.Proofs.EditScripts
import QueryLint.Proofs.MaximalRuns

/-!
The mistyped keywords of a statement. The search for one finds the first word that comes close to
a keyword by a shortest script of edits, with the first keyword that it comes close to, and finds
nothing only where no word does.
-/

namespace QueryLint

/-- The words of a text: its maximal runs of word characters, in their order. -/
def WordsOf (text : Text) (words : List Text) : Prop :=
  ∃ runs, MaximalRuns (fun position => ∃ c ∈ text[position]?, Text.isWordChar c) runs ∧
    words = runs.map (·.slice text)

theorem wordsOf_iff (text : Text) (words : List Text) :
    WordsOf text words ↔ words = (Text.runsOf Text.isWordChar text).map (·.slice text) := by
  have hruns : MaximalRuns (fun position => ∃ c ∈ text[position]?, Text.isWordChar c)
      (Text.runsOf Text.isWordChar text) := by
    have h := maximalRuns_runsFrom (text.map Text.isWordChar)
    simp only [List.getElem?_map, Option.map_eq_some_iff] at h
    exact h
  constructor
  · rintro ⟨runs, hmaximal, rfl⟩
    rw [hmaximal.unique hruns]
  · rintro rfl
    exact ⟨_, hruns, rfl⟩

/-- The first member of a list that has a property. -/
def FirstIn (list : List α) (p : α → Prop) (a : α) : Prop :=
  ∃ before after, list = before ++ a :: after ∧ p a ∧ ∀ b ∈ before, ¬p b

theorem find?_eq_some_iff_firstIn {list : List α} {p : α → Bool} {a : α} :
    list.find? p = some a ↔ FirstIn list (fun b => p b) a := by
  rw [List.find?_eq_some_iff_append]
  constructor
  · rintro ⟨ha, before, after, hlist, hbefore⟩
    exact ⟨before, after, hlist, ha, by simpa using hbefore⟩
  · rintro ⟨before, after, hlist, ha, hbefore⟩
    exact ⟨ha, before, after, hlist, by simpa using hbefore⟩

theorem FirstIn.congr {list : List α} {p q : α → Prop} {a : α}
    (h : ∀ b ∈ list, p b ↔ q b) : FirstIn list p a ↔ FirstIn list q a := by
  refine exists₂_congr fun before after => and_congr_right fun hlist => ?_
  have ha := h a (by simp [hlist])
  have hbefore : ∀ b ∈ before, (p b ↔ q b) := fun b hb => h b (by simp [hlist, hb])
  exact and_congr ha (forall₂_congr fun b hb => not_congr (hbefore b hb))

namespace EditDistance

open Edit

theorem isLeast_turns_iff {a b : Text} {n : Nat} :
    IsLeast {n | Turns n a b} n ↔ editDistance a b = n := by
  have hturns := turns_cell a.reverse b.reverse
  rw [List.reverse_reverse, List.reverse_reverse] at hturns
  rw [editDistance_eq_cell]
  constructor
  · intro h
    exact Nat.le_antisymm (cell_le_of_turns h.1) (h.2 hturns)
  · rintro rfl
    exact ⟨hturns, fun _ => cell_le_of_turns⟩

theorem editDistance_pos_iff {a b : Text} : 1 ≤ editDistance a b ↔ a ≠ b := by
  rw [editDistance_eq_cell, Nat.one_le_iff_ne_zero, ne_eq, cell_eq_zero_iff, List.reverse_inj]

end EditDistance

namespace Misspelling

open Edit

def parts (keyword : Text) : List Text := keyword.splitOn ' '

/-- A keyword without the spaces between its words. -/
def unspaced (keyword : Text) : Text := keyword.filter (· ≠ ' ')

/-- A word that may be mistyped: it has at least three characters, is not all digits, and is none
of the words that keywords are made of. -/
structure Candidate (word : Text) : Prop where
  length : 3 ≤ word.length
  not_number : ¬∀ c ∈ word, c.isDigit
  not_part : ∀ keyword ∈ vocabulary, word ∉ parts keyword

/-- A shortest script from the word to the keyword has at least one edit, and no more than one
when either is short, else no more than a third of the longer length. -/
def ComesClose (word keyword : Text) : Prop :=
  ∃ n, IsLeast {n | Turns n word (unspaced keyword)} n ∧ 1 ≤ n ∧
    n ≤ if min word.length (unspaced keyword).length ≤ 4 then 1
      else max 1 (max word.length (unspaced keyword).length / 3)

def Mistypes (word keyword : Text) : Prop := Candidate word ∧ ComesClose word keyword

theorem fields_of_mem_vocabulary : ∀ keyword ∈ vocabulary, Text.fields keyword = parts keyword := by
  decide

theorem compact_of_mem_vocabulary :
    ∀ keyword ∈ vocabulary, compact keyword = unspaced keyword := by
  decide

theorem isCandidate_iff (word : Text) : isCandidate word ↔ Candidate word := by
  have hparts : word ∈ vocabulary.flatMap Text.fields ↔
      ∃ keyword ∈ vocabulary, word ∈ parts keyword := by
    rw [List.mem_flatMap]
    refine exists_congr fun keyword => and_congr_right fun hkeyword => ?_
    rw [fields_of_mem_vocabulary keyword hkeyword]
  simp only [isCandidate, Bool.and_eq_true, decide_eq_true_eq, Bool.not_eq_true',
    ← Bool.not_eq_true, List.contains_iff_mem, hparts, List.all_eq_true]
  constructor
  · rintro ⟨⟨hlength, hnumber⟩, hpart⟩
    exact ⟨hlength, hnumber, fun keyword hkeyword hmem => hpart ⟨keyword, hkeyword, hmem⟩⟩
  · rintro ⟨hlength, hnumber, hpart⟩
    exact ⟨⟨hlength, hnumber⟩, fun ⟨keyword, hkeyword, hmem⟩ => hpart keyword hkeyword hmem⟩

theorem isMisspelling_iff (word : Text) {keyword : Text} (hkeyword : keyword ∈ vocabulary) :
    isMisspelling word (compact keyword) ↔ ComesClose word keyword := by
  rw [compact_of_mem_vocabulary keyword hkeyword, isMisspelling, Bool.and_eq_true,
    decide_eq_true_eq, decide_eq_true_eq, ← EditDistance.editDistance_pos_iff, editLimit,
    max_comm _ 1]
  constructor
  · rintro ⟨hpos, hle⟩
    exact ⟨_, EditDistance.isLeast_turns_iff.mpr rfl, hpos, hle⟩
  · rintro ⟨n, hleast, hpos, hle⟩
    obtain rfl := EditDistance.isLeast_turns_iff.mp hleast
    exact ⟨hpos, hle⟩

/-- What is found at one word. -/
def ofCandidate? (word : Text) : Option Misspelling :=
  if isCandidate word then ofWord? word else none

theorem ofCandidate?_eq_some_iff {word : Text} {found : Misspelling} :
    ofCandidate? word = some found ↔
      found.word = word ∧ FirstIn vocabulary (Mistypes word) found.keyword := by
  have hfirst (hcandidate : Candidate word) (keyword : Text) :
      FirstIn vocabulary (fun keyword => isMisspelling word (compact keyword)) keyword ↔
        FirstIn vocabulary (Mistypes word) keyword :=
    FirstIn.congr fun keyword hkeyword => by
      rw [isMisspelling_iff word hkeyword, Mistypes, and_iff_right hcandidate]
  constructor
  · intro h
    rw [ofCandidate?] at h
    split at h
    · rename_i hcandidate
      obtain ⟨keyword, hkeyword, rfl⟩ := Option.map_eq_some_iff.mp h
      refine ⟨rfl, (hfirst ((isCandidate_iff word).mp hcandidate) keyword).mp ?_⟩
      exact find?_eq_some_iff_firstIn.mp hkeyword
    · cases h
  · rintro ⟨rfl, hkeyword⟩
    have hcandidate : Candidate found.word := by
      obtain ⟨-, -, -, hmistypes, -⟩ := hkeyword
      exact hmistypes.1
    have hfind := find?_eq_some_iff_firstIn.mpr ((hfirst hcandidate found.keyword).mpr hkeyword)
    rw [ofCandidate?, if_pos ((isCandidate_iff _).mpr hcandidate), ofWord?, hfind]
    rfl

theorem ofCandidate?_eq_none_iff {word : Text} :
    ofCandidate? word = none ↔ ∀ keyword ∈ vocabulary, ¬Mistypes word keyword := by
  by_cases hcandidate : Candidate word
  · rw [ofCandidate?, if_pos ((isCandidate_iff word).mpr hcandidate), ofWord?,
      Option.map_eq_none_iff, List.find?_eq_none]
    refine forall₂_congr fun keyword hkeyword => ?_
    rw [isMisspelling_iff word hkeyword, Mistypes, and_iff_right hcandidate]
  · have hnone : ¬isCandidate word := mt (isCandidate_iff word).mp hcandidate
    simp [ofCandidate?, hnone, Mistypes, hcandidate]

theorem find?_eq_findSome? (text : Text) : find? text = (words text).findSome? ofCandidate? := by
  rw [find?]
  induction words text with
  | nil => rfl
  | cons word words ih =>
    by_cases hcandidate : isCandidate word
    · rw [List.filter_cons_of_pos hcandidate, List.findSome?_cons, List.findSome?_cons, ih,
        ofCandidate?, if_pos hcandidate]
    · rw [List.filter_cons_of_neg hcandidate, List.findSome?_cons, ih, ofCandidate?,
        if_neg hcandidate]

theorem find?_eq_some_iff {text : Text} {found : Misspelling} :
    find? text = some found ↔
      FirstIn (words text) (fun word => ∃ keyword ∈ vocabulary, Mistypes word keyword) found.word ∧
        FirstIn vocabulary (Mistypes found.word) found.keyword := by
  rw [find?_eq_findSome?, List.findSome?_eq_some_iff]
  constructor
  · rintro ⟨before, word, after, hwords, hfound, hbefore⟩
    obtain ⟨rfl, hkeyword⟩ := ofCandidate?_eq_some_iff.mp hfound
    refine ⟨⟨before, after, hwords, ?_, ?_⟩, hkeyword⟩
    · obtain ⟨earlier, later, hvocabulary, hmistypes, -⟩ := hkeyword
      exact ⟨found.keyword, by simp [hvocabulary], hmistypes⟩
    · rintro word hword ⟨keyword, hkeyword, hmistypes⟩
      exact ofCandidate?_eq_none_iff.mp (hbefore word hword) keyword hkeyword hmistypes
  · rintro ⟨⟨before, after, hwords, -, hbefore⟩, hkeyword⟩
    refine ⟨before, found.word, after, hwords, ofCandidate?_eq_some_iff.mpr ⟨rfl, hkeyword⟩, ?_⟩
    intro word hword
    refine ofCandidate?_eq_none_iff.mpr fun keyword hkeyword hmistypes => ?_
    exact hbefore word hword ⟨keyword, hkeyword, hmistypes⟩

theorem find?_eq_none_iff {text : Text} :
    find? text = none ↔ ∀ word ∈ words text, ∀ keyword ∈ vocabulary, ¬Mistypes word keyword := by
  rw [find?_eq_findSome?, List.findSome?_eq_none_iff]
  exact forall₂_congr fun _ _ => ofCandidate?_eq_none_iff

/-- A word that mistypes a keyword is found if no word before it does. -/
theorem exists_find?_of_mistypes {text word keyword : Text} {before after : List Text}
    (hwords : words text = before ++ word :: after)
    (hbefore : ∀ earlier ∈ before, ∀ keyword ∈ vocabulary, ¬Mistypes earlier keyword)
    (hkeyword : keyword ∈ vocabulary) (hmistypes : Mistypes word keyword) :
    ∃ found, find? text = some found ∧ found.word = word := by
  have hsome : ofCandidate? word ≠ none := fun hnone =>
    ofCandidate?_eq_none_iff.mp hnone keyword hkeyword hmistypes
  obtain ⟨found, hfound⟩ := Option.ne_none_iff_exists'.mp hsome
  refine ⟨found, ?_, (ofCandidate?_eq_some_iff.mp hfound).1⟩
  rw [find?_eq_findSome?]
  exact List.findSome?_eq_some_iff.mpr ⟨before, word, after, hwords, hfound,
    fun earlier h => ofCandidate?_eq_none_iff.mpr (hbefore earlier h)⟩

/-- The search for a mistyped keyword is exact. It goes through the words of the text in upper case
and finds the first that mistypes a keyword, with the first keyword that it mistypes; nothing is
found only if no word mistypes one. So a candidate that is one edit away from a keyword is found if
no word before it is, and nothing is found in words of keywords, numbers and words of at most two
characters. -/
theorem find?_firstIn_words (text : Text) :
    ∃ words, (∀ others, WordsOf (Text.upper text) others ↔ others = words) ∧
      (∀ found, find? text = some found ↔
        FirstIn words (fun word => ∃ keyword ∈ vocabulary, Mistypes word keyword) found.word ∧
          FirstIn vocabulary (Mistypes found.word) found.keyword) ∧
      (find? text = none ↔ ∀ word ∈ words, ∀ keyword ∈ vocabulary, ¬Mistypes word keyword) ∧
      (∀ before word after, words = before ++ word :: after →
        (∀ earlier ∈ before, ∀ keyword ∈ vocabulary, ¬Mistypes earlier keyword) →
        Candidate word →
        (∃ keyword ∈ vocabulary, IsLeast {n | Turns n word (unspaced keyword)} 1) →
        ∃ found, find? text = some found ∧ found.word = word) ∧
      ((∀ word ∈ words, (∃ keyword ∈ vocabulary, word ∈ parts keyword) ∨
          (∀ c ∈ word, c.isDigit) ∨ word.length ≤ 2) →
        find? text = none) := by
  refine ⟨words text, wordsOf_iff _, fun _ => find?_eq_some_iff, find?_eq_none_iff, ?_, ?_⟩
  · intro before word after hwords hbefore hcandidate ⟨keyword, hkeyword, hedit⟩
    have hmistypes : Mistypes word keyword := ⟨hcandidate, 1, hedit, le_rfl, by split_ifs <;> omega⟩
    exact exists_find?_of_mistypes hwords hbefore hkeyword hmistypes
  · intro hwords
    refine find?_eq_none_iff.mpr fun word hword keyword _ ⟨hcandidate, _⟩ => ?_
    rcases hwords word hword with ⟨other, hother, hpart⟩ | hnumber | hshort
    · exact hcandidate.not_part other hother hpart
    · exact hcandidate.not_number hnumber
    · exact absurd hcandidate.length (by omega)

example : find? "select id, 123 frm ordrs" = some ⟨"FRM".toList, "FROM".toList⟩ := by
  decide

end Misspelling

end QueryLint
