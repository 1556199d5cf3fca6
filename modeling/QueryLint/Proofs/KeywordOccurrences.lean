import Mathlib.Data.List.DropRight
import QueryLint.Keyword
import QueryLint.Proofs.ScanParts
import QueryLint.Proofs.WordList

/-!
The occurrences of a keyword among the marks of a statement. An occurrence is given by the marks
before it, its own marks and the marks after it, without positions and without the list of words;
the search finds the first one.
-/

namespace QueryLint

theorem Text.not_isAlphanumeric_of_isBlank {c : Char} (h : Text.isBlank c) :
    Text.isAlphanumeric c = false ∧ c ≠ '_' := by
  have hcode : c.toNat ∈ List.range' 9 5 ++ [0x20, 0x85, 0xA0, 0x1680] ++ List.range' 0x2000 11 ++
      [0x2028, 0x2029, 0x202F, 0x205F, 0x3000] := by
    simp only [Text.isBlank, Text.inRanges, List.any_cons, List.any_nil, Bool.or_eq_true,
      Bool.and_eq_true, decide_eq_true_eq, Bool.false_eq_true, or_false] at h
    simp only [List.mem_append, List.mem_range'_1, List.mem_cons, List.not_mem_nil, or_false]
    omega
  have hall : ∀ code ∈ List.range' 9 5 ++ [0x20, 0x85, 0xA0, 0x1680] ++ List.range' 0x2000 11 ++
      [0x2028, 0x2029, 0x202F, 0x205F, 0x3000],
      Text.isAlphanumeric (Char.ofNat code) = false ∧ Char.ofNat code ≠ '_' := by
    decide +kernel
  have hc := hall c.toNat hcode
  rwa [Char.ofNat_toNat] at hc

namespace Marked

theorem isWord_of_isBlank {mark : Marked} (h : mark.isBlank) : mark.isWord = false := by
  obtain ⟨halpha, hunder⟩ := Text.not_isAlphanumeric_of_isBlank h
  simp [isWord, halpha, hunder]

theorem isVisible_of_isWord {mark : Marked} (h : mark.isWord) : mark.isVisible := by
  have hblank : mark.isBlank = false := by
    by_contra hblank
    simp [isWord_of_isBlank (by simpa using hblank)] at h
  have hcode := eq_code_of_isWord h
  simp only [isBlank] at hblank
  simp [isVisible, hcode, hblank]

theorem isWord_of_hidden {mark : Marked} (h : mark.isVisible = false) : mark.isWord = false := by
  by_contra hword
  have hvisible := isVisible_of_isWord (by simpa using hword)
  simp [h] at hvisible

end Marked

/-- Two ways of splitting a list after its longest front that satisfies `p` are one. -/
theorem span_unique {α : Type} {p : α → Bool} {front rest front' rest' : List α}
    (h : front ++ rest = front' ++ rest')
    (hfront : ∀ a ∈ front, p a) (hrest : ∀ a ∈ rest.head?, p a = false)
    (hfront' : ∀ a ∈ front', p a) (hrest' : ∀ a ∈ rest'.head?, p a = false) :
    front = front' ∧ rest = rest' := by
  induction front generalizing front' with
  | nil =>
    cases front' with
    | nil => exact ⟨rfl, h⟩
    | cons a front' =>
      have hhead := hrest a (by simp [show rest = _ from h])
      simp [hfront' a List.mem_cons_self] at hhead
  | cons a front ih =>
    obtain ⟨ha, hfront⟩ := List.forall_mem_cons.mp hfront
    cases front' with
    | nil =>
      have hhead := hrest' a (by rw [← show _ = rest' from h]; rfl)
      simp [ha] at hhead
    | cons b front' =>
      obtain ⟨rfl, hrests⟩ := List.cons.inj h
      obtain ⟨rfl, rfl⟩ := ih hrests hfront (List.forall_mem_cons.mp hfront').2
      exact ⟨rfl, rfl⟩

namespace Keyword

/-- Marks of one word that spells `part`, in any letter case. -/
structure SpellsWord (part : Text) (word : List Marked) : Prop where
  ne_nil : word ≠ []
  isWord : ∀ mark ∈ word, mark.isWord
  same : Text.sameLetters (word.map Prod.fst) part

/-- Marks that spell the words `parts` in a row, with marks that `gap` allows between them. -/
inductive Spells (gap : Marked → Bool) : List Text → List Marked → Prop
  | last {part : Text} {word : List Marked} (hword : SpellsWord part word) :
      Spells gap [part] word
  | next {part : Text} {parts : List Text} {word space rest : List Marked}
      (hword : SpellsWord part word) (hne : space ≠ []) (hspace : ∀ mark ∈ space, gap mark)
      (hrest : Spells gap parts rest) : Spells gap (part :: parts) (word ++ (space ++ rest))

/-- The marks `found` are whole words that spell `parts`, after `before` and in front of
`after`. -/
structure OccursWith (gap : Marked → Bool) (parts : List Text)
    (before found after : List Marked) : Prop where
  spells : Spells gap parts found
  fresh : ∀ mark ∈ before.getLast?, mark.isWord = false
  ends : ∀ mark ∈ after.head?, mark.isWord = false

/-- An occurrence of a keyword: nothing but white space stands between its words. -/
abbrev Occurs (keyword : Text) := OccursWith Marked.isBlank (Text.fields keyword)

/-- No occurrence begins in `middle`, which stands in front of `after`. -/
def NoneBegins (parts : List Text) (middle after : List Marked) : Prop :=
  ∀ front back found rest, middle = front ++ back → back ≠ [] → back ++ after = found ++ rest →
    ¬OccursWith Marked.isBlank parts front found rest

structure FirstOccurs (keyword : Text) (before found after : List Marked) : Prop where
  occurs : Occurs keyword before found after
  leftmost : NoneBegins (Text.fields keyword) before (found ++ after)

variable {gap : Marked → Bool} {part : Text} {parts : List Text} {text keyword : Text}
  {marks before found after skip word rest : List Marked} {offset : Nat}

theorem SpellsWord.exists_cons (h : SpellsWord part word) :
    ∃ mark rest, word = mark :: rest ∧ mark.isWord := by
  obtain ⟨mark, rest, rfl⟩ := List.exists_cons_of_ne_nil h.ne_nil
  exact ⟨mark, rest, rfl, h.isWord mark List.mem_cons_self⟩

theorem Spells.spellsWord (h : Spells gap [part] word) : SpellsWord part word := by
  cases h with
  | last hword => exact hword
  | next _ _ _ hrest => cases hrest

theorem Spells.exists_cons (h : Spells gap parts found) :
    ∃ mark rest, found = mark :: rest ∧ mark.isWord := by
  cases h with
  | last hword => exact hword.exists_cons
  | next hword hne hspace hrest =>
    obtain ⟨mark, rest, rfl, hmark⟩ := hword.exists_cons
    exact ⟨mark, _, rfl, hmark⟩

theorem Spells.exists_concat (h : Spells gap parts found) :
    ∃ init mark, found = init ++ [mark] ∧ mark.isWord := by
  induction h with
  | last hword =>
    obtain ⟨init, mark, rfl⟩ := (List.eq_nil_or_concat' _).resolve_left hword.ne_nil
    exact ⟨init, mark, rfl, hword.isWord mark (by simp)⟩
  | @next _ _ word space _ hword hne hspace hrest ih =>
    obtain ⟨init, mark, rfl, hmark⟩ := ih
    exact ⟨word ++ (space ++ init), mark, by simp, hmark⟩

def Separates (gap : Marked → Bool) : Prop := ∀ mark, gap mark → mark.isWord = false

theorem Separates.head (hgap : Separates gap) {space more : List Marked} (hne : space ≠ [])
    (hspace : ∀ mark ∈ space, gap mark) :
    ∀ mark ∈ (space ++ more).head?, mark.isWord = false := by
  obtain ⟨first, marks, rfl⟩ := List.exists_cons_of_ne_nil hne
  intro mark hmark
  obtain rfl : first = mark := by simpa using hmark
  exact hgap first (hspace first List.mem_cons_self)

theorem Spells.uncons {other : Text} (hgap : Separates gap)
    (h : Spells gap (part :: other :: parts) found) (hsplit : word ++ rest = found ++ after)
    (hword : ∀ mark ∈ word, mark.isWord) (hrest : ∀ mark ∈ rest.head?, mark.isWord = false) :
    SpellsWord part word ∧ ∃ space more, space ≠ [] ∧ (∀ mark ∈ space, gap mark) ∧
      Spells gap (other :: parts) more ∧ found = word ++ (space ++ more) ∧
      rest = space ++ (more ++ after) := by
  cases h with
  | @next _ _ first space more hfirst hne hspace hmore =>
    rw [List.append_assoc, List.append_assoc] at hsplit
    obtain ⟨rfl, rfl⟩ :=
      span_unique hsplit hword hrest hfirst.isWord (hgap.head hne hspace)
    exact ⟨hfirst, space, more, hne, hspace, hmore, rfl, rfl⟩

theorem Separates.span_unique {gap' : Marked → Bool} {space more space' more' : List Marked}
    (hgap : Separates gap) (hgap' : Separates gap')
    (h : space ++ more = space' ++ more')
    (hspace : ∀ mark ∈ space, gap mark) (hspace' : ∀ mark ∈ space', gap' mark)
    (hmore : ∀ mark ∈ more.head?, mark.isWord) (hmore' : ∀ mark ∈ more'.head?, mark.isWord) :
    space = space' ∧ more = more' := by
  refine QueryLint.span_unique (p := fun mark => !mark.isWord) h ?_ ?_ ?_ ?_
  · intro mark hmark
    simp [hgap mark (hspace mark hmark)]
  · intro mark hmark
    simp [hmore mark hmark]
  · intro mark hmark
    simp [hgap' mark (hspace' mark hmark)]
  · intro mark hmark
    simp [hmore' mark hmark]

theorem Spells.head (h : Spells gap parts found) :
    ∀ mark ∈ (found ++ after).head?, mark.isWord := by
  obtain ⟨first, marks, rfl, hfirst⟩ := h.exists_cons
  intro mark hmark
  obtain rfl : first = mark := by simpa using hmark
  exact hfirst

/-- At most one front of a list spells a keyword with whole words. -/
theorem Spells.unique {found' after' : List Marked} (hgap : Separates gap)
    (h : Spells gap parts found) (h' : Spells gap parts found')
    (hsplit : found ++ after = found' ++ after')
    (hends : ∀ mark ∈ after.head?, mark.isWord = false)
    (hends' : ∀ mark ∈ after'.head?, mark.isWord = false) :
    found = found' ∧ after = after' := by
  induction h generalizing found' with
  | last hword =>
    cases h' with
    | last hword' => exact span_unique hsplit hword.isWord hends hword'.isWord hends'
    | next _ _ _ hrest' => cases hrest'
  | @next _ parts word space rest hword hne hspace hrest ih =>
    cases parts with
    | nil => cases hrest
    | cons other parts =>
      rw [List.append_assoc, List.append_assoc] at hsplit
      obtain ⟨-, space', rest', -, hspace', hrest', rfl, hspaces⟩ :=
        h'.uncons hgap hsplit hword.isWord (hgap.head hne hspace)
      obtain ⟨rfl, hrests⟩ :=
        hgap.span_unique hgap hspaces hspace hspace' hrest.head hrest'.head
      obtain ⟨rfl, rfl⟩ := ih hrest' hrests
      exact ⟨rfl, rfl⟩

/-- The spans of the words among marks whose first position is `offset`. -/
abbrev runs (offset : Nat) (marks : List Marked) : List Span :=
  Text.runsFrom offset (marks.map Marked.isWord)

theorem runs_append_of_not_word (offset : Nat) (hskip : ∀ mark ∈ skip, mark.isWord = false) :
    runs offset (skip ++ marks) = runs (offset + skip.length) marks := by
  induction skip generalizing offset with
  | nil => rfl
  | cons mark skip ih =>
    obtain ⟨hmark, hskip⟩ := List.forall_mem_cons.mp hskip
    have hrest := ih (offset + 1) hskip
    simp only [runs, List.cons_append, List.map_cons, hmark, Text.runsFrom,
      List.length_cons] at hrest ⊢
    rw [hrest]
    congr 1
    omega

theorem runs_eq_nil (offset : Nat) (h : ∀ mark ∈ marks, mark.isWord = false) :
    runs offset marks = [] := by
  have hruns : runs offset (marks ++ []) = [] := runs_append_of_not_word offset h
  rwa [List.append_nil] at hruns

theorem runs_word_append (offset : Nat) (hne : word ≠ []) (hword : ∀ mark ∈ word, mark.isWord)
    (hrest : ∀ mark ∈ rest.head?, mark.isWord = false) :
    runs offset (word ++ rest) =
      ⟨offset, offset + word.length⟩ :: runs (offset + word.length) rest := by
  rw [runs, List.map_append, Text.runsFrom_run_append offset (by simpa using hne),
    List.length_map]
  · intro flag hflag
    obtain ⟨mark, hmark, rfl⟩ := List.mem_map.mp hflag
    exact hword mark hmark
  · intro flag hflag
    rw [List.head?_map] at hflag
    obtain ⟨mark, hmark, rfl⟩ := Option.map_eq_some_iff.mp hflag
    exact hrest mark hmark

theorem exists_first_word (marks : List Marked) :
    (∀ mark ∈ marks, mark.isWord = false) ∨
      ∃ skip word rest, marks = skip ++ (word ++ rest) ∧ word ≠ [] ∧
        (∀ mark ∈ skip, mark.isWord = false) ∧ (∀ mark ∈ word, mark.isWord) ∧
        ∀ mark ∈ rest.head?, mark.isWord = false := by
  by_cases hnone : ∀ mark ∈ marks, mark.isWord = false
  · exact .inl hnone
  right
  set rest := marks.dropWhile fun mark => !mark.isWord with hrestDef
  refine ⟨marks.takeWhile fun mark => !mark.isWord, rest.takeWhile Marked.isWord,
    rest.dropWhile Marked.isWord, ?_, ?_, ?_, ?_, ?_⟩
  · rw [List.takeWhile_append_dropWhile, hrestDef, List.takeWhile_append_dropWhile]
  · have hrest : rest ≠ [] := by
      intro hnil
      apply hnone
      simpa [List.dropWhile_eq_nil_iff] using hrestDef.symm.trans hnil
    obtain ⟨mark, more, hcons⟩ := List.exists_cons_of_ne_nil hrest
    have hmark := List.head?_dropWhile_not (fun mark : Marked => !mark.isWord) marks
    rw [← hrestDef, hcons] at hmark
    have hword : mark.isWord := by simpa using hmark
    rw [hcons, List.takeWhile_cons_of_pos hword]
    exact List.cons_ne_nil mark _
  · intro mark hmark
    simpa using List.mem_takeWhile_imp hmark
  · intro mark hmark
    exact List.mem_takeWhile_imp hmark
  · intro mark hmark
    have hhead := List.head?_dropWhile_not Marked.isWord rest
    rw [Option.mem_def.mp hmark] at hhead
    simpa using hhead

theorem bounds_of_mem_runs {span : Span} (h : span ∈ runs offset marks) :
    offset ≤ span.start ∧ span.start < span.stop ∧ span.stop ≤ offset + marks.length := by
  have hbounds := (Text.runsFrom_spec offset (marks.map Marked.isWord)).2 span h
  rwa [List.length_map] at hbounds

theorem exists_of_mem_runs {span : Span} (h : span ∈ runs offset marks) :
    ∃ before word after, marks = before ++ (word ++ after) ∧ word ≠ [] ∧
      (∀ mark ∈ word, mark.isWord) ∧ (∀ mark ∈ before.getLast?, mark.isWord = false) ∧
      (∀ mark ∈ after.head?, mark.isWord = false) ∧
      span = ⟨offset + before.length, offset + before.length + word.length⟩ := by
  induction hlength : marks.length using Nat.strong_induction_on generalizing offset marks with
  | _ n ih =>
    rcases exists_first_word marks with hnone | ⟨skip, word, rest, rfl, hne, hskip, hword, hrest⟩
    · rw [runs_eq_nil offset hnone] at h
      cases h
    rw [runs_append_of_not_word offset hskip, runs_word_append _ hne hword hrest] at h
    rcases List.mem_cons.mp h with rfl | hlater
    · exact ⟨skip, word, rest, rfl, hne, hword,
        fun mark hmark => hskip mark (List.mem_of_getLast? hmark), hrest, rfl⟩
    · have hlt : rest.length < n := by
        have := List.length_pos_iff.mpr hne
        simp only [List.length_append] at hlength
        omega
      obtain ⟨before, other, after, rfl, hne', hother, hfresh, hends, rfl⟩ := ih _ hlt hlater rfl
      -- something stands between two words
      have hbefore : before ≠ [] := by
        rintro rfl
        obtain ⟨first, more, rfl⟩ := List.exists_cons_of_ne_nil hne'
        have hnot := hrest first rfl
        simp [hother first List.mem_cons_self] at hnot
      refine ⟨skip ++ (word ++ before), other, after, by simp, hne', hother, ?_, hends, ?_⟩
      · rwa [← List.append_assoc, List.getLast?_append_of_ne_nil _ hbefore]
      · simp only [List.length_append, Span.mk.injEq]
        omega

/-- No word goes on from the first marks into the second. -/
def Apart (front back : List Marked) : Prop :=
  (∀ mark ∈ front.getLast?, mark.isWord = false) ∨ ∀ mark ∈ back.head?, mark.isWord = false

theorem Apart.append_right {front back : List Marked} (h : Apart front back) (hne : back ≠ [])
    (rest : List Marked) : Apart front (back ++ rest) := by
  rw [Apart, List.head?_append_of_ne_nil _ hne]
  exact h

theorem runs_append (offset : Nat) {front back : List Marked} (hapart : Apart front back) :
    runs offset (front ++ back) = runs offset front ++ runs (offset + front.length) back := by
  induction hlength : front.length using Nat.strong_induction_on generalizing offset front with
  | _ n ih =>
    rcases exists_first_word front with hnone | ⟨skip, word, rest, rfl, hne, hskip, hword, hrest⟩
    · rw [runs_append_of_not_word offset hnone, runs_eq_nil offset hnone, List.nil_append, hlength]
    have hlt : rest.length < n := by
      have := List.length_pos_iff.mpr hne
      simp only [List.length_append] at hlength
      omega
    have hrestApart : Apart rest back ∧ ∀ mark ∈ (rest ++ back).head?, mark.isWord = false := by
      rcases List.eq_nil_or_concat' rest with rfl | ⟨init, last, rfl⟩
      · have hback : ∀ mark ∈ back.head?, mark.isWord = false := by
          refine hapart.resolve_left fun hfront => ?_
          obtain ⟨init, last, rfl⟩ := (List.eq_nil_or_concat' word).resolve_left hne
          have hlast := hfront last (by simp)
          simp [hword last (by simp)] at hlast
        exact ⟨.inr hback, hback⟩
      · constructor
        · simpa [Apart] using hapart
        · intro mark hmark
          exact hrest mark (by cases init <;> simpa using hmark)
    rw [List.append_assoc, List.append_assoc, runs_append_of_not_word offset hskip,
      runs_append_of_not_word offset hskip, runs_word_append _ hne hword hrestApart.2,
      runs_word_append _ hne hword hrest, ih rest.length hlt _ hrestApart.1 rfl, List.cons_append]
    simp only [List.length_append] at hlength
    congr 3
    omega

theorem dropWhile_runs (front : List Marked) {back : List Marked}
    (hback : ∀ mark ∈ back.head?, mark.isWord = false) :
    (runs 0 (front ++ back)).dropWhile (·.start < front.length) = runs front.length back := by
  have hfront : ∀ word ∈ runs 0 front, decide (word.start < front.length) = true := by
    intro word hword
    have hbounds := bounds_of_mem_runs hword
    simp only [decide_eq_true_eq]
    omega
  rw [runs_append 0 (.inr hback), Nat.zero_add, List.dropWhile_append_of_pos hfront]
  cases hruns : runs front.length back with
  | nil => rfl
  | cons word words =>
    have hbounds : front.length ≤ word.start ∧ _ :=
      bounds_of_mem_runs (hruns ▸ List.mem_cons_self)
    have hge : ¬word.start < front.length := by omega
    rw [List.dropWhile_cons_of_neg (by simpa using hge)]

theorem separates_isBlank : Separates Marked.isBlank := fun _ => Marked.isWord_of_isBlank

section Positions

variable {front back : List Marked}

theorem slice_of_drop_eq (h : text.drop offset = (front ++ back).map Prod.fst) :
    (Span.mk offset (offset + front.length)).slice text = front.map Prod.fst := by
  simp [Span.slice, h]

theorem drop_of_drop_eq (h : text.drop offset = (front ++ back).map Prod.fst) :
    text.drop (offset + front.length) = back.map Prod.fst := by
  rw [← List.drop_drop, h, List.map_append, List.drop_left' (by simp)]

theorem drop_of_scan_eq (h : scan text = front ++ back) :
    text.drop front.length = back.map Prod.fst := by
  rw [← Scan.map_fst_scan text, h, List.map_append, List.drop_left' (by simp)]

theorem exists_word_of_head (hhead : ∃ mark ∈ marks.head?, mark.isWord) :
    ∃ word rest, marks = word ++ rest ∧ word ≠ [] ∧ (∀ mark ∈ word, mark.isWord) ∧
      ∀ mark ∈ rest.head?, mark.isWord = false := by
  obtain ⟨mark, hmark, hisWord⟩ := hhead
  rcases exists_first_word marks with hnone | ⟨skip, word, rest, rfl, hne, hskip, hword, hrest⟩
  · simp [hnone mark (List.mem_of_mem_head? hmark)] at hisWord
  · cases skip with
    | nil => exact ⟨word, rest, rfl, hne, hword, hrest⟩
    | cons first skip =>
      obtain rfl : first = mark := by simpa using hmark
      simp [hskip first List.mem_cons_self] at hisWord

/-- The words that marks begin with spell `parts`, and end at `stop`. -/
def SpellsAt (parts : List Text) (offset stop : Nat) (marks : List Marked) : Prop :=
  ∃ found after, marks = found ++ after ∧ Spells Marked.isBlank parts found ∧
    (∀ mark ∈ after.head?, mark.isWord = false) ∧ stop = offset + found.length

section FirstWord

variable {other : Text} {stop : Nat} (hne : word ≠ []) (hword : ∀ mark ∈ word, mark.isWord)
  (hrest : ∀ mark ∈ rest.head?, mark.isWord = false)
include hne hword hrest

theorem spellsAt_single_iff : SpellsAt [part] offset stop (word ++ rest) ↔
    Text.sameLetters (word.map Prod.fst) part ∧ stop = offset + word.length := by
  constructor
  · rintro ⟨found, after, hsplit, hspells, hends, rfl⟩
    have hfound := hspells.spellsWord
    obtain ⟨rfl, rfl⟩ := span_unique hsplit hword hrest hfound.isWord hends
    exact ⟨hfound.same, rfl⟩
  · rintro ⟨hsame, rfl⟩
    exact ⟨word, rest, rfl, .last ⟨hne, hword, hsame⟩, hrest, rfl⟩

theorem spellsAt_cons_iff (hskip : ∀ mark ∈ skip, mark.isWord = false)
    (hsplit : rest = skip ++ marks) (hhead : ∃ mark ∈ marks.head?, mark.isWord) :
    SpellsAt (part :: other :: parts) offset stop (word ++ rest) ↔
      Text.sameLetters (word.map Prod.fst) part ∧ (∀ mark ∈ skip, mark.isBlank) ∧
        SpellsAt (other :: parts) (offset + word.length + skip.length) stop marks := by
  constructor
  · rintro ⟨found, after, hfound, hspells, hends, rfl⟩
    obtain ⟨hspellsWord, space, more, -, hspace, hmore, rfl, hspaces⟩ :=
      hspells.uncons separates_isBlank hfound hword hrest
    have hgap : Separates fun mark => !mark.isWord := fun mark hmark => by simpa using hmark
    have hmarks : ∀ mark ∈ marks.head?, mark.isWord := by
      intro mark hmark
      obtain ⟨first, hfirst, hisWord⟩ := hhead
      obtain rfl := Option.mem_unique hmark hfirst
      exact hisWord
    obtain ⟨rfl, hmores⟩ := hgap.span_unique separates_isBlank (hsplit.symm.trans hspaces)
      (fun mark hmark => by simp [hskip mark hmark]) hspace hmarks hmore.head
    refine ⟨hspellsWord.same, hspace, more, after, hmores, hmore, hends, ?_⟩
    simp only [List.length_append]
    omega
  · rintro ⟨hsame, hblank, found, after, rfl, hspells, hends, rfl⟩
    have hskipNe : skip ≠ [] := by
      rintro rfl
      obtain ⟨mark, hmark, hisWord⟩ := hhead
      have hnot := hrest mark (by rw [hsplit]; exact hmark)
      simp [hisWord] at hnot
    refine ⟨word ++ (skip ++ found), after, ?_, .next ⟨hne, hword, hsame⟩ hskipNe hblank hspells,
      hends, ?_⟩
    · rw [hsplit, List.append_assoc, List.append_assoc]
    · simp only [List.length_append]
      omega

end FirstWord

/-- The words that marks begin with spell a keyword exactly when the marks do. -/
theorem keywordStop?_eq_some_iff (parts : List Text) (htext : text.drop offset = marks.map Prod.fst)
    (hhead : ∃ mark ∈ marks.head?, mark.isWord) (stop : Nat) :
    keywordStop? text parts (runs offset marks) = some stop ↔
      SpellsAt parts offset stop marks := by
  induction parts generalizing offset marks with
  | nil =>
    constructor
    · intro h
      cases h
    · rintro ⟨found, after, -, hspells, -⟩
      cases hspells
  | cons part parts ih =>
    obtain ⟨word, rest, rfl, hne, hword, hrest⟩ := exists_word_of_head hhead
    have hslice := slice_of_drop_eq htext
    have hdrop := drop_of_drop_eq htext
    rw [runs_word_append offset hne hword hrest]
    cases parts with
    | nil =>
      rw [spellsAt_single_iff hne hword hrest]
      simp only [keywordStop?, hslice]
      split_ifs with hsame
      · simp [hsame, eq_comm]
      · simp [hsame]
    | cons other parts =>
      rcases exists_first_word rest with
        hnone | ⟨skip, word', rest', rfl, hne', hskip, hword', hrest'⟩
      · -- there is no second word
        rw [runs_eq_nil _ hnone]
        simp only [keywordStop?]
        constructor
        · intro h
          cases h
        · rintro ⟨found, after, hsplit, hspells, -, -⟩
          obtain ⟨-, space, more, -, -, hmore, -, rfl⟩ :=
            hspells.uncons separates_isBlank hsplit hword hrest
          obtain ⟨mark, marks, rfl, hmark⟩ := hmore.exists_cons
          simp [hnone mark (by simp)] at hmark
      · have hhead' : ∃ mark ∈ (word' ++ rest').head?, mark.isWord := by
          obtain ⟨first, word', rfl⟩ := List.exists_cons_of_ne_nil hne'
          exact ⟨first, rfl, hword' first List.mem_cons_self⟩
        have hnext := ih (drop_of_drop_eq hdrop) hhead'
        have hgap : blankBetween text (offset + word.length) (offset + word.length + skip.length) =
            skip.all Marked.isBlank := by
          rw [blankBetween, slice_of_drop_eq hdrop, Text.allBlank, List.all_map]
          rfl
        rw [spellsAt_cons_iff hne hword hrest hskip rfl hhead', ← hnext,
          runs_append_of_not_word _ hskip, runs_word_append _ hne' hword' hrest']
        simp only [keywordStop?, hslice, hgap]
        split_ifs with hboth
        · obtain ⟨hsame, hblank⟩ := Bool.and_eq_true_iff.mp hboth
          exact ⟨fun h => ⟨hsame, List.all_eq_true.mp hblank, h⟩, fun h => h.2.2⟩
        · simp only [false_iff]
          rintro ⟨hsame, hblank, -⟩
          exact hboth (Bool.and_eq_true_iff.mpr ⟨hsame, List.all_eq_true.mpr hblank⟩)

theorem OccursWith.begins {front back : List Marked} (h : OccursWith gap parts front found back)
    (hsplit : skip ++ (word ++ rest) = front ++ (found ++ back))
    (hskip : ∀ mark ∈ skip, mark.isWord = false) (hword : ∀ mark ∈ word, mark.isWord) :
    front = skip ∨ ∃ front', front = skip ++ (word ++ front') ∧ rest = front' ++ (found ++ back) := by
  obtain ⟨first, more, hfound, hfirst⟩ := h.spells.exists_cons
  rcases List.append_eq_append_iff.mp hsplit with ⟨front', rfl, hafter⟩ | ⟨skip', rfl, hafter⟩
  · rcases List.append_eq_append_iff.mp hafter with ⟨front'', rfl, hrest⟩ | ⟨word', rfl, -⟩
    · exact .inr ⟨front'', rfl, hrest⟩
    · -- the occurrence begins inside the first word, so at its beginning
      left
      rcases List.eq_nil_or_concat' front' with rfl | ⟨init, last, rfl⟩
      · simp
      · have hlast := h.fresh last (by simp)
        rw [hword last (by simp)] at hlast
        cases hlast
  · cases skip' with
    | nil => exact .inl (by simp)
    | cons mark skip' =>
      subst hfound
      obtain ⟨rfl, -⟩ := List.cons.inj hafter
      simp [hskip first (by simp)] at hfirst

theorem OccursWith.exists_word {front back : List Marked} (h : OccursWith gap parts front found back)
    (hsplit : marks = front ++ (found ++ back)) : ∃ mark ∈ marks, mark.isWord := by
  obtain ⟨first, more, rfl, hfirst⟩ := h.spells.exists_cons
  exact ⟨first, by simp [hsplit], hfirst⟩

/-- Of the marks before an occurrence only the last one matters. -/
theorem occursWith_append_iff {front : List Marked} (hne : before ≠ []) :
    OccursWith gap parts (front ++ before) found after ↔ OccursWith gap parts before found after := by
  have hlast : (front ++ before).getLast? = before.getLast? :=
    List.getLast?_append_of_ne_nil front hne
  constructor
  · intro h
    exact ⟨h.spells, hlast ▸ h.fresh, h.ends⟩
  · intro h
    exact ⟨h.spells, hlast.symm ▸ h.fresh, h.ends⟩

theorem OccursWith.ne_nil_of_head (h : OccursWith gap parts before found after)
    (hhead : ∀ mark ∈ (before ++ (found ++ after)).head?, mark.isWord = false) : before ≠ [] := by
  rintro rfl
  obtain ⟨first, more, rfl, hfirst⟩ := h.spells.exists_cons
  have hnot := hhead first rfl
  simp [hfirst] at hnot

end Positions

def Absent (keyword : Text) (marks : List Marked) : Prop :=
  ∀ before found after, marks = before ++ (found ++ after) → ¬Occurs keyword before found after

theorem Absent.right {front back : List Marked} (h : Absent keyword (front ++ back))
    (hback : ∀ mark ∈ back.head?, mark.isWord = false) : Absent keyword back := by
  rintro before found after rfl hoccurs
  have hne := hoccurs.ne_nil_of_head hback
  exact h (front ++ before) found after (by simp) ((occursWith_append_iff hne).mpr hoccurs)

section LaterOccurrences

variable (hne : word ≠ []) (hskip : ∀ mark ∈ skip, mark.isWord = false)
  (hword : ∀ mark ∈ word, mark.isWord) (hrest : ∀ mark ∈ rest.head?, mark.isWord = false)
  (hnot : ∀ stop, ¬SpellsAt (Text.fields keyword) offset stop (word ++ rest))
include hne hskip hword hnot

theorem Occurs.later {front found back : List Marked}
    (hsplit : skip ++ (word ++ rest) = front ++ (found ++ back)) (h : Occurs keyword front found back) :
    ∃ front', front' ≠ [] ∧ front = skip ++ (word ++ front') ∧ rest = front' ++ (found ++ back) := by
  rcases h.begins hsplit hskip hword with rfl | ⟨front', rfl, hrestSplit⟩
  · exact absurd ⟨found, back, List.append_cancel_left hsplit, h.spells, h.ends, rfl⟩ (hnot _)
  · refine ⟨front', ?_, rfl, hrestSplit⟩
    rintro rfl
    obtain ⟨init, last, rfl⟩ := (List.eq_nil_or_concat' word).resolve_left hne
    have hlast := h.fresh last (by simp)
    simp [hword last (by simp)] at hlast

theorem Absent.after_word (habsent : Absent keyword rest) :
    Absent keyword (skip ++ (word ++ rest)) := by
  intro front found back hsplit h
  obtain ⟨front', hne', rfl, hrestSplit⟩ := Occurs.later hne hskip hword hnot hsplit h
  rw [← List.append_assoc] at h
  exact habsent front' found back hrestSplit ((occursWith_append_iff hne').mp h)

include hrest in
theorem FirstOccurs.after_word (hsplit : rest = before ++ (found ++ after))
    (hfirst : FirstOccurs keyword before found after) :
    FirstOccurs keyword (skip ++ (word ++ before)) found after := by
  constructor
  · have hbefore : before ≠ [] := hfirst.occurs.ne_nil_of_head (hsplit ▸ hrest)
    rw [← List.append_assoc]
    exact (occursWith_append_iff hbefore).mpr hfirst.occurs
  · intro front back found' after' hfront hback hafter h
    obtain ⟨front', hne', rfl, hrestSplit⟩ := Occurs.later hne hskip hword hnot
      (by rw [hsplit, ← hafter, ← List.append_assoc front, ← hfront]; simp) h
    rw [← List.append_assoc] at h
    exact hfirst.leftmost front' back found' after' (by simpa using hfront) hback hafter
      ((occursWith_append_iff hne').mp h)

end LaterOccurrences

/-- The search among the words of marks finds the first occurrence, and nothing only where the
marks hold none. -/
theorem findKeyword?_spec (keyword : Text) (htext : text.drop offset = marks.map Prod.fst) :
    (findKeyword? text (runs offset marks) keyword = none ∧ Absent keyword marks) ∨
      ∃ before found after, marks = before ++ (found ++ after) ∧
        FirstOccurs keyword before found after ∧
        findKeyword? text (runs offset marks) keyword =
          some ⟨offset + before.length, offset + before.length + found.length⟩ := by
  simp only [findKeyword?]
  induction hlength : marks.length using Nat.strong_induction_on generalizing offset marks with
  | _ n ih =>
    rcases exists_first_word marks with hnone | ⟨skip, word, rest, rfl, hne, hskip, hword, hrest⟩
    · rw [runs_eq_nil offset hnone]
      refine .inl ⟨rfl, fun front found back hsplit h => ?_⟩
      obtain ⟨mark, hmark, hisWord⟩ := h.exists_word hsplit
      simp [hnone mark hmark] at hisWord
    have hdrop := drop_of_drop_eq htext
    have hhead : ∃ mark ∈ (word ++ rest).head?, mark.isWord := by
      obtain ⟨first, word, rfl⟩ := List.exists_cons_of_ne_nil hne
      exact ⟨first, rfl, hword first List.mem_cons_self⟩
    have hstop := keywordStop?_eq_some_iff (Text.fields keyword) hdrop hhead
    have hruns := runs_word_append (offset + skip.length) hne hword hrest
    rw [hruns] at hstop
    rw [runs_append_of_not_word offset hskip, hruns, findParts?]
    cases hfound : keywordStop? text (Text.fields keyword) (⟨offset + skip.length,
        offset + skip.length + word.length⟩ :: runs (offset + skip.length + word.length) rest) with
    | some stop =>
      -- the first word begins an occurrence, and no other word stands before it
      obtain ⟨found, after, hsplit, hspells, hends, rfl⟩ := (hstop stop).mp hfound
      refine .inr ⟨skip, found, after, by rw [hsplit], ⟨⟨hspells, ?_, hends⟩, ?_⟩, rfl⟩
      · intro mark hmark
        exact hskip mark (List.mem_of_getLast? hmark)
      · intro front back found' rest' hskipSplit hback hsplit' h
        obtain ⟨first, more, rfl, hfirst⟩ := h.spells.exists_cons
        obtain ⟨mark, back, rfl⟩ := List.exists_cons_of_ne_nil hback
        obtain ⟨rfl, -⟩ := List.cons.inj hsplit'
        simp [hskip mark (by simp [hskipSplit])] at hfirst
    | none =>
      have hnot : ∀ stop, ¬SpellsAt (Text.fields keyword) (offset + skip.length) stop
          (word ++ rest) := by
        intro stop h
        have hsome := (hstop stop).mpr h
        rw [hfound] at hsome
        cases hsome
      have hlt : rest.length < n := by
        have := List.length_pos_iff.mpr hne
        simp only [List.length_append] at hlength
        omega
      rcases ih rest.length hlt (drop_of_drop_eq hdrop) rfl with
        ⟨hnone, habsent⟩ | ⟨before, found, after, hsplit, hfirst, hsome⟩
      · exact .inl ⟨hnone, habsent.after_word hne hskip hword hnot⟩
      · refine .inr ⟨skip ++ (word ++ before), found, after, by simp [hsplit],
          hfirst.after_word hne hskip hword hrest hnot hsplit, ?_⟩
        simp only [hsome, List.length_append, Option.some.injEq, Span.mk.injEq]
        omega

theorem FirstOccurs.length_le {before' found' after' : List Marked}
    (h : FirstOccurs keyword before found after) (h' : Occurs keyword before' found' after')
    (hsplit : before ++ (found ++ after) = before' ++ (found' ++ after')) :
    before.length ≤ before'.length := by
  rcases List.append_eq_append_iff.mp hsplit with ⟨back, rfl, -⟩ | ⟨back, rfl, hafter⟩
  · simp
  · by_cases hnil : back = []
    · simp [hnil]
    · exact absurd h' (h.leftmost before' back found' after' rfl hnil hafter.symm)

theorem FirstOccurs.unique {before' found' after' : List Marked}
    (h : FirstOccurs keyword before found after) (h' : FirstOccurs keyword before' found' after')
    (hsplit : before ++ (found ++ after) = before' ++ (found' ++ after')) :
    before = before' ∧ found = found' ∧ after = after' := by
  have hlength : before.length = before'.length :=
    Nat.le_antisymm (h.length_le h'.occurs hsplit) (h'.length_le h.occurs hsplit.symm)
  obtain ⟨rfl, hrest⟩ := List.append_inj hsplit hlength
  obtain ⟨rfl, rfl⟩ := h.occurs.spells.unique separates_isBlank h'.occurs.spells hrest
    h.occurs.ends h'.occurs.ends
  exact ⟨rfl, rfl, rfl⟩

end Keyword
end QueryLint
