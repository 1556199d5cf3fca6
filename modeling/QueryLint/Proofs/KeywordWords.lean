import QueryLint.Proofs.KeywordOccurrences
import QueryLint.TableList

/-!
The words of keywords. A keyword occurs only where its first word does, a word of marks in two
parts stands in one of them unless it goes on across the seam, and a text that spells a keyword
has no other words.
-/

namespace QueryLint
namespace Keyword

variable {gap : Marked → Bool} {part : Text} {parts : List Text} {text keyword : Text}
  {front back before found word after middle marks : List Marked}

theorem OccursWith.firstWord (h : OccursWith Marked.isBlank (part :: parts) before found after) :
    ∃ word more, found = word ++ more ∧
      OccursWith Marked.isBlank [part] before word (more ++ after) := by
  obtain ⟨hspells, hfresh, hends⟩ := h
  cases hspells with
  | last hword => exact ⟨found, [], by simp, .last hword, hfresh, hends⟩
  | @next _ _ word space rest hword hne hspace hrest =>
    refine ⟨word, space ++ rest, rfl, .last hword, hfresh, ?_⟩
    rw [List.append_assoc]
    exact separates_isBlank.head hne hspace

theorem OccursWith.of_append (h : OccursWith gap [part] before word after)
    (hsplit : front ++ back = before ++ (word ++ after)) (hapart : Apart front back) :
    (∃ after', front = before ++ (word ++ after') ∧ OccursWith gap [part] before word after') ∨
      ∃ before', before = front ++ before' ∧ back = before' ++ (word ++ after) ∧
        OccursWith gap [part] before' word after := by
  have hinBack : ∀ before', before = front ++ before' → OccursWith gap [part] before' word after := by
    rintro before' rfl
    by_cases hnil : before' = []
    · exact ⟨h.spells, by simp [hnil], h.ends⟩
    · exact (occursWith_append_iff hnil).mp h
  rcases List.append_eq_append_iff.mp hsplit with ⟨before', rfl, hback⟩ | ⟨front', rfl, hfront⟩
  · exact .inr ⟨before', rfl, hback, hinBack before' rfl⟩
  rcases List.append_eq_append_iff.mp hfront with ⟨after', rfl, rfl⟩ | ⟨word', rfl, rfl⟩
  · refine .inl ⟨after', rfl, h.spells, h.fresh, fun mark hmark => ?_⟩
    exact h.ends mark (by simp [List.head?_append, Option.mem_def.mp hmark])
  · by_cases hfront' : front' = []
    · subst hfront'
      exact .inr ⟨[], by simp, by simp, h.spells, by simp, h.ends⟩
    by_cases hword' : word' = []
    · subst hword'
      rw [List.append_nil] at h
      exact .inl ⟨[], by simp, by simpa using h.spells, h.fresh, by simp⟩
    -- otherwise the word goes on across the seam
    have hisWord := h.spells.spellsWord.isWord
    exfalso
    rcases hapart with hlast | hhead
    · obtain ⟨init, last, rfl⟩ := (List.eq_nil_or_concat' front').resolve_left hfront'
      have hnot := hlast last (by simp)
      simp [hisWord last (by simp)] at hnot
    · obtain ⟨first, more, rfl⟩ := List.exists_cons_of_ne_nil hword'
      have hnot := hhead first rfl
      simp [hisWord first (by simp)] at hnot

def NoWord (part : Text) (marks : List Marked) : Prop :=
  ∀ before word after, marks = before ++ (word ++ after) →
    ¬OccursWith Marked.isBlank [part] before word after

theorem NoWord.append (hfront : NoWord part front) (hback : NoWord part back)
    (hapart : Apart front back) : NoWord part (front ++ back) := by
  intro before word after hsplit h
  rcases h.of_append hsplit hapart with ⟨after', hsplit', h'⟩ | ⟨before', -, hsplit', h'⟩
  · exact hfront before word after' hsplit' h'
  · exact hback before' word after hsplit' h'

theorem noWord_of_not_word (h : ∀ mark ∈ marks, mark.isWord = false) : NoWord part marks := by
  intro before word after hsplit hword
  obtain ⟨mark, hmark, hisWord⟩ := hword.exists_word hsplit
  simp [h mark hmark] at hisWord

theorem noWord_scan (h : ∀ word ∈ wordSpans text, Text.sameLetters (word.slice text) part = false) :
    NoWord part (scan text) := by
  intro before word after hsplit hoccurs
  have hword := hoccurs.spells.spellsWord
  have hruns : wordSpans text = runs 0 before ++ runs before.length (word ++ after) := by
    rw [wordSpans, hsplit, ← runs, runs_append 0 (.inl hoccurs.fresh), Nat.zero_add]
  rw [runs_word_append _ hword.ne_nil hword.isWord hoccurs.ends] at hruns
  have hslice : (Span.mk before.length (before.length + word.length)).slice text =
      word.map Prod.fst :=
    slice_of_drop_eq (drop_of_scan_eq hsplit)
  have hnot := h ⟨before.length, before.length + word.length⟩ (by simp [hruns])
  rw [hslice, hword.same] at hnot
  cases hnot

theorem NoWord.sameLetters {offset : Nat} {rest : List Marked} (h : NoWord part marks)
    (htext : text.drop offset = (marks ++ rest).map Prod.fst) :
    ∀ span ∈ runs offset marks, Text.sameLetters (span.slice text) part = false := by
  intro span hspan
  obtain ⟨before, word, after, rfl, hne, hword, hfresh, hends, rfl⟩ := exists_of_mem_runs hspan
  by_contra hsame
  have hdrop : text.drop (offset + before.length) = (word ++ (after ++ rest)).map Prod.fst :=
    drop_of_drop_eq (by simpa using htext)
  rw [slice_of_drop_eq hdrop] at hsame
  exact h before word after rfl ⟨.last ⟨hne, hword, by simpa using hsame⟩, hfresh, hends⟩

theorem findParts?_single_eq_none {words : List Span} (h : findParts? text [part] words = none) :
    ∀ word ∈ words, Text.sameLetters (word.slice text) part = false := by
  induction words with
  | nil => simp
  | cons word words ih =>
    by_cases hword : Text.sameLetters (word.slice text) part
    · simp [findParts?, keywordStop?, hword] at h
    · have hrest : findParts? text [part] words = none := by
        simpa [findParts?, keywordStop?, hword] using h
      exact List.forall_mem_cons.mpr ⟨by simpa using hword, ih hrest⟩

/-- No word of a text spells a keyword of one word that is absent from its scan. -/
theorem Absent.sameLetters (hpart : Text.fields keyword = [part]) (h : Absent keyword (scan text)) :
    ∀ word ∈ wordSpans text, Text.sameLetters (word.slice text) part = false := by
  have htext : text.drop 0 = (scan text).map Prod.fst := drop_zero_eq_scan text
  rcases findKeyword?_spec keyword htext with
    ⟨hnone, -⟩ | ⟨before, found, after, hsplit, hfirst, -⟩
  · rw [findKeyword?, hpart] at hnone
    exact findParts?_single_eq_none hnone
  · exact absurd hfirst.occurs (h before found after hsplit)

theorem noneBegins_of_noWord (hmiddle : ∀ part ∈ parts.head?, NoWord part middle)
    (hapart : Apart middle after) : NoneBegins parts middle after := by
  intro front back found rest hsplit hback hfound h
  cases parts with
  | nil => cases h.spells
  | cons part parts =>
    obtain ⟨word, more, rfl, hword⟩ := h.firstWord
    have hboth : middle ++ after = front ++ (word ++ (more ++ rest)) := by
      rw [hsplit, List.append_assoc, hfound, List.append_assoc]
    rcases hword.of_append hboth hapart with ⟨after', hmiddle', hword'⟩ | ⟨before', hfront, -, -⟩
    · exact hmiddle part rfl front word after' hmiddle' hword'
    · have hlength := congrArg List.length (hsplit.trans (congrArg (· ++ back) hfront))
      have := List.length_pos_iff.mpr hback
      simp only [List.length_append] at hlength
      omega

theorem absent_of_noWord (h : ∀ part ∈ (Text.fields keyword).head?, NoWord part marks) :
    Absent keyword marks := by
  intro before found after hsplit hoccurs
  cases hparts : Text.fields keyword with
  | nil =>
    obtain ⟨hspells, -, -⟩ := hoccurs
    rw [hparts] at hspells
    cases hspells
  | cons part parts =>
    rw [Occurs, hparts] at hoccurs
    obtain ⟨word, more, rfl, hword⟩ := hoccurs.firstWord
    exact h part (by simp [hparts]) before word (more ++ after) (by simp [hsplit]) hword

theorem NoWord.absent (hpart : Text.fields keyword = [part]) (h : NoWord part marks) :
    Absent keyword marks := by
  refine absent_of_noWord fun first hfirst => ?_
  rw [hpart] at hfirst
  obtain rfl : part = first := Option.some.inj hfirst
  exact h

theorem noWord_of_spells {other : Text} (h : Spells Marked.isBlank parts found)
    (hother : ∀ part ∈ parts, Text.sameLetters part other = false) : NoWord other found := by
  have hword : ∀ {part : Text} {word : List Marked}, SpellsWord part word →
      Text.sameLetters part other = false → NoWord other word := by
    rintro part word hword hother before word' after rfl hoccurs
    have hbefore : before = [] := by
      rcases List.eq_nil_or_concat' before with rfl | ⟨init, last, rfl⟩
      · rfl
      · have hlast := hoccurs.fresh last (by simp)
        simp [hword.isWord last (by simp)] at hlast
    have hafter : after = [] := by
      cases after with
      | nil => rfl
      | cons first after =>
        have hfirst := hoccurs.ends first rfl
        simp [hword.isWord first (by simp)] at hfirst
    subst hbefore hafter
    have hpart := hword.same
    have hsame := hoccurs.spells.spellsWord.same
    simp only [Text.sameLetters, beq_iff_eq, List.nil_append, List.append_nil] at hpart hsame hother
    simp [← hpart, hsame] at hother
  induction h with
  | last hpart => exact hword hpart (hother _ List.mem_cons_self)
  | @next part parts word space rest hpart hne hspace hrest ih =>
    obtain ⟨hfirst, hothers⟩ := List.forall_mem_cons.mp hother
    have hspaceWord : ∀ mark ∈ space, mark.isWord = false := fun mark hmark =>
      Marked.isWord_of_isBlank (hspace mark hmark)
    refine (hword hpart hfirst).append ((noWord_of_not_word hspaceWord).append (ih hothers) ?_) ?_
    · exact .inl fun mark hmark => hspaceWord mark (List.mem_of_getLast? hmark)
    · exact .inr (separates_isBlank.head hne hspace)

theorem sameLetters_congr {word : Text} (h : Text.sameLetters word part) (other : Text) :
    Text.sameLetters word other = Text.sameLetters part other := by
  have hsame : word.map Text.asciiLowerChar = part.map Text.asciiLowerChar := by
    simpa [Text.sameLetters] using h
  simp [Text.sameLetters, hsame]

/-- Texts that spell the words `parts` in a row, in any letter case and with white space between
them. -/
inductive Spelling : List Text → Text → Prop
  | last {part word : Text} (hword : Text.sameLetters word part) : Spelling [part] word
  | next {part : Text} {parts : List Text} {word space rest : Text}
      (hword : Text.sameLetters word part) (hne : space ≠ []) (hspace : Text.allBlank space)
      (hrest : Spelling parts rest) : Spelling (part :: parts) (word ++ (space ++ rest))

/-- Whether a text is a word, and stays one in any letter case. -/
def isLetters (part : Text) : Bool :=
  !part.isEmpty && part.all fun c => Text.isAlphanumeric (Text.asciiLowerChar c)

theorem isAlphanumeric_of_asciiLowerChar {c : Char}
    (h : Text.isAlphanumeric (Text.asciiLowerChar c)) : Text.isAlphanumeric c := by
  by_cases hupper : 'A'.val ≤ c.val ∧ c.val ≤ 'Z'.val
  · have hcode : 65 ≤ c.toNat ∧ c.toNat ≤ 90 := hupper
    have hascii : c.toNat < 0x80 := by omega
    have hisUpper : c.isUpper := decide_eq_true hupper
    have hisAlpha : c.isAlpha := Bool.or_eq_true_iff.mpr (.inl hisUpper)
    have hisAlphanum : c.isAlphanum := Bool.or_eq_true_iff.mpr (.inl hisAlpha)
    simp [Text.isAlphanumeric, hascii, hisAlphanum]
  · have hlower : c.toLower = c := dif_neg hupper
    rwa [Text.asciiLowerChar, hlower] at h

theorem isAlphanumeric_of_sameLetters {word : Text} (hword : Text.sameLetters word part)
    (hpart : isLetters part) : word ≠ [] ∧ ∀ c ∈ word, Text.isAlphanumeric c := by
  simp only [Text.sameLetters, beq_iff_eq] at hword
  simp only [isLetters, Bool.and_eq_true, Bool.not_eq_true', List.isEmpty_eq_false_iff,
    List.all_eq_true] at hpart
  constructor
  · rintro rfl
    exact hpart.1 (List.map_eq_nil_iff.mp hword.symm)
  · intro c hc
    have hmem : Text.asciiLowerChar c ∈ word.map Text.asciiLowerChar := List.mem_map_of_mem hc
    rw [hword] at hmem
    obtain ⟨d, hd, hsame⟩ := List.mem_map.mp hmem
    exact isAlphanumeric_of_asciiLowerChar (hsame ▸ hpart.2 d hd)

theorem spellsWord_asCode {word : Text} (hword : Text.sameLetters word part)
    (hpart : isLetters part) : SpellsWord part (Scan.asCode word) := by
  obtain ⟨hne, hall⟩ := isAlphanumeric_of_sameLetters hword hpart
  refine ⟨by simpa [Scan.asCode] using hne, ?_, by simpa using hword⟩
  intro mark hmark
  obtain ⟨c, hc, rfl⟩ := List.mem_map.mp hmark
  simp [Marked.isWord, hall c hc]

theorem Spelling.spells (h : Spelling parts text) (hparts : ∀ part ∈ parts, isLetters part) :
    Spells Marked.isBlank parts (Scan.asCode text) ∧ ∀ c ∈ text, Scan.isPlain c := by
  induction h with
  | last hword =>
    have hpart := hparts _ List.mem_cons_self
    have hall := (isAlphanumeric_of_sameLetters hword hpart).2
    exact ⟨.last (spellsWord_asCode hword hpart), fun c hc =>
      Scan.isPlain_of_isAlphanumeric (hall c hc)⟩
  | @next part parts word space rest hword hne hspace hrest ih =>
    obtain ⟨hpart, hparts⟩ := List.forall_mem_cons.mp hparts
    have hall := (isAlphanumeric_of_sameLetters hword hpart).2
    have hblank := List.all_eq_true.mp hspace
    obtain ⟨hspells, hplain⟩ := ih hparts
    constructor
    · rw [Scan.asCode, List.map_append, List.map_append]
      refine .next (spellsWord_asCode hword hpart) (by simpa using hne) ?_ hspells
      intro mark hmark
      obtain ⟨c, hc, rfl⟩ := List.mem_map.mp hmark
      exact hblank c hc
    · intro c hc
      simp only [List.mem_append] at hc
      rcases hc with hc | hc | hc
      · exact Scan.isPlain_of_isAlphanumeric (hall c hc)
      · exact Scan.isPlain_of_isBlank (hblank c hc)
      · exact hplain c hc

theorem fields_join : Text.fields "JOIN" = ["JOIN"] := by decide

theorem tableNames_of_absent (h : Absent "JOIN" (scan text)) :
    tableNames text = TableList.ofCommaList text := by
  have hwords := h.sameLetters fields_join
  have hnone : ((wordSpans text).any fun word => TableList.isJoin (word.slice text)) = false := by
    rw [List.any_eq_false]
    intro word hword
    simpa [TableList.isJoin] using hwords word hword
  simp only [tableNames, hnone, Bool.false_eq_true, if_false]

end Keyword
end QueryLint
