import QueryLint.Proofs.KeywordWords
import QueryLint.Proofs.Phrases
import QueryLint.Proofs.Separators
import QueryLint.Rule.Mistake

/-!
Sort suffixes: white space and the words of a direction, of a placement of nulls, or of both. A text
is read as one by its fields alone, so that a suffix behind a sort key is found where it was
written, and the key is left.
-/

namespace QueryLint

namespace Text

theorem runsFrom_add (offset more : Nat) (flags : List Bool) :
    runsFrom (offset + more) flags = (runsFrom offset flags).map (·.moved more) := by
  induction flags generalizing offset with
  | nil => rfl
  | cons flag flags ih =>
    have hrest := ih (offset + 1)
    rw [Nat.add_right_comm] at hrest
    cases flag with
    | false => simpa only [runsFrom] using hrest
    | true =>
      simp only [runsFrom, hrest]
      cases runsFrom (offset + 1) flags with
      | nil => simp [Span.moved, Nat.add_right_comm]
      | cons run runs =>
        have hadjacent : run.start + more = offset + more + 1 ↔ run.start = offset + 1 := by omega
        by_cases hrun : run.start = offset + 1
        · simp [Span.moved, hrun, Nat.add_right_comm]
        · simp [Span.moved, hadjacent, hrun, Nat.add_right_comm]

theorem map_slice_runsFrom (p : Char → Bool) (front text : Text) :
    (runsFrom front.length (text.map p)).map (·.slice (front ++ text)) =
      (runsOf p text).map (·.slice text) := by
  rw [← Nat.zero_add front.length, runsFrom_add, List.map_map, runsOf]
  apply List.map_congr_left
  intro run _
  exact Span.slice_append_right run front text

section Fields

variable {space word rest : Text}

theorem fields_space_append (hspace : allBlank space) (text : Text) :
    fields (space ++ text) = fields text := by
  have hskip : ∀ offset, runsFrom offset ((space ++ text).map fun c => !isBlank c) =
      runsFrom (offset + space.length) (text.map fun c => !isBlank c) := by
    rw [allBlank, List.all_eq_true] at hspace
    induction space with
    | nil => exact fun _ => rfl
    | cons c space ih =>
      intro offset
      obtain ⟨hc, hspace⟩ := List.forall_mem_cons.mp hspace
      rw [List.cons_append, List.map_cons, hc, Bool.not_true, runsFrom, ih hspace, List.length_cons]
      congr 1
      omega
  rw [fields, runsOf, hskip, Nat.zero_add, map_slice_runsFrom, fields]

theorem fields_word_append (hne : word ≠ []) (hword : ∀ c ∈ word, isBlank c = false)
    (hrest : ∀ c ∈ rest.head?, isBlank c) : fields (word ++ rest) = word :: fields rest := by
  have hrun : ∀ flag ∈ word.map fun c => !isBlank c, flag = true := by simpa using hword
  have hnext : ∀ flag ∈ (rest.map fun c => !isBlank c).head?, flag = false := by simpa using hrest
  rw [fields, runsOf, List.map_append, runsFrom_run_append 0 (by simpa using hne) hrun hnext,
    List.map_cons, Nat.zero_add, List.length_map, map_slice_runsFrom, ← fields]
  simp [Span.slice]

theorem fields_nil : fields [] = [] := rfl

theorem fields_cases (text : Text) :
    (allBlank text ∧ fields text = []) ∨ ∃ space word rest, text = space ++ (word ++ rest) ∧
      allBlank space ∧ word ≠ [] ∧ (∀ c ∈ word, isBlank c = false) ∧
        (∀ c ∈ rest.head?, isBlank c) ∧ fields text = word :: fields rest := by
  set visible : Char → Bool := fun c => !isBlank c with hvisible
  set middle := text.dropWhile isBlank with hmiddle
  have hspace : allBlank (text.takeWhile isBlank) :=
    List.all_eq_true.mpr fun c hc => List.mem_takeWhile_imp hc
  have htext : text = text.takeWhile isBlank ++ middle :=
    List.takeWhile_append_dropWhile.symm
  by_cases hnil : middle = []
  · rw [hnil, List.append_nil] at htext
    left
    constructor
    · rwa [← htext] at hspace
    · rw [htext, ← List.append_nil (text.takeWhile isBlank), fields_space_append hspace, fields_nil]
  · right
    have hword : ∀ c ∈ middle.takeWhile visible, isBlank c = false := by
      intro c hc
      simpa [hvisible] using List.mem_takeWhile_imp hc
    have hrest : ∀ c ∈ (middle.dropWhile visible).head?, isBlank c := by
      intro c hc
      have hhead := List.head?_dropWhile_not visible middle
      rw [Option.mem_def.mp hc] at hhead
      simpa [hvisible] using hhead
    have hne : middle.takeWhile visible ≠ [] := by
      obtain ⟨c, more, hcons⟩ := List.exists_cons_of_ne_nil hnil
      have hhead := List.head?_dropWhile_not isBlank text
      rw [← hmiddle, hcons] at hhead
      have hc : visible c := by simpa [hvisible] using hhead
      simp [hcons, hc]
    have hsplit : middle = middle.takeWhile visible ++ middle.dropWhile visible :=
      List.takeWhile_append_dropWhile.symm
    refine ⟨_, _, _, htext.trans (congrArg _ hsplit), hspace, hne, hword, hrest, ?_⟩
    rw [htext, fields_space_append hspace, hsplit, fields_word_append hne hword hrest, ← hsplit]

theorem fields_append (front : Text) {back : Text} (hback : ∀ c ∈ back.head?, isBlank c) :
    fields (front ++ back) = fields front ++ fields back := by
  induction hlength : front.length using Nat.strong_induction_on generalizing front with
  | _ n ih =>
    rcases fields_cases front with
      ⟨hblank, hnil⟩ | ⟨space, word, rest, rfl, hspace, hne, hword, hrest, hfields⟩
    · rw [fields_space_append hblank, hnil, List.nil_append]
    · have hlt : rest.length < n := by
        have := List.length_pos_iff.mpr hne
        simp only [List.length_append] at hlength
        omega
      have hnext : ∀ c ∈ (rest ++ back).head?, isBlank c := by
        cases rest with
        | nil => exact hback
        | cons c rest => exact hrest
      rw [hfields, List.append_assoc, List.append_assoc, fields_space_append hspace,
        fields_word_append hne hword hnext, ih rest.length hlt rest rfl, List.cons_append]

end Fields

/-- The fields of a text with the letters that match when case is ignored. -/
def foldedFields (text : Text) : List Text := (fields text).map fun word => word.map foldChar

theorem foldedFields_append (front : Text) {back : Text} (hback : ∀ c ∈ back.head?, isBlank c) :
    foldedFields (front ++ back) = foldedFields front ++ foldedFields back := by
  rw [foldedFields, fields_append front hback, List.map_append, foldedFields, foldedFields]

/-- A word in lower case, without the two letters outside ASCII that match other letters when case
is ignored. -/
structure IsFolded (word : Text) : Prop where
  letters : Keyword.isLetters word
  lower : word.map asciiLowerChar = word
  kelvin : '\u212A' ∉ word
  longS : '\u017F' ∉ word

section Letters

variable {word phrase : Text}

theorem isBlank_of_map_foldChar (hword : word.map foldChar = phrase)
    (hphrase : Keyword.isLetters phrase) : word ≠ [] ∧ ∀ c ∈ word, isBlank c = false := by
  simp only [Keyword.isLetters, Bool.and_eq_true, Bool.not_eq_true', List.isEmpty_eq_false_iff,
    List.all_eq_true] at hphrase
  constructor
  · rintro rfl
    exact hphrase.1 hword.symm
  · intro c hc
    by_contra hblank
    obtain ⟨hnot, -⟩ := not_isAlphanumeric_of_isBlank (by simpa using hblank)
    have hkelvin : c ≠ '\u212A' := by
      rintro rfl
      exact hblank (by decide)
    have hlong : c ≠ '\u017F' := by
      rintro rfl
      exact hblank (by decide)
    have hfold : foldChar c = asciiLowerChar c := by simp [foldChar, hkelvin, hlong]
    have hmem : foldChar c ∈ phrase := hword ▸ List.mem_map_of_mem hc
    have halpha := hphrase.2 _ hmem
    rw [hfold] at halpha
    have hc := Keyword.isAlphanumeric_of_asciiLowerChar
      (Keyword.isAlphanumeric_of_asciiLowerChar halpha)
    simp [hnot] at hc

theorem map_foldChar_of_sameLetters (h : sameLetters word phrase) (hphrase : IsFolded phrase) :
    word.map foldChar = phrase := by
  have hlower : word.map asciiLowerChar = phrase := by
    rw [← hphrase.lower]
    simpa [sameLetters] using h
  rw [← hlower]
  apply List.map_congr_left
  intro c hc
  have hmem : asciiLowerChar c ∈ phrase := hlower ▸ List.mem_map_of_mem hc
  have hkelvin : c ≠ '\u212A' := by
    rintro rfl
    exact hphrase.kelvin hmem
  have hlong : c ≠ '\u017F' := by
    rintro rfl
    exact hphrase.longS hmem
  simp [foldChar, hkelvin, hlong]

end Letters

theorem or_dropPhrase?_eq_some_iff {a b : Char} {first second text rest : Text} (hne : a ≠ b) :
    (dropPhrase? (a :: first) text).or (dropPhrase? (b :: second) text) = some rest ↔
      ∃ word, text = word ++ rest ∧
        (word.map foldChar = a :: first ∨ word.map foldChar = b :: second) := by
  constructor
  · intro h
    rcases Option.or_eq_some_iff.mp h with hfirst | ⟨-, hsecond⟩
    · obtain ⟨word, htext, hword⟩ := dropPhrase?_eq_some_iff.mp hfirst
      exact ⟨word, htext, .inl hword⟩
    · obtain ⟨word, htext, hword⟩ := dropPhrase?_eq_some_iff.mp hsecond
      exact ⟨word, htext, .inr hword⟩
  · rintro ⟨word, rfl, hword | hword⟩
    · rw [dropPhrase?_eq_some_iff.mpr ⟨word, rfl, hword⟩, Option.some_or]
    · have hnone : dropPhrase? (a :: first) (word ++ rest) = none := by
        obtain ⟨c, word, rfl, hc, -⟩ := List.map_eq_cons_iff.mp hword
        rw [List.cons_append, dropPhrase?, if_neg (hc ▸ hne.symm)]
      rw [hnone, Option.none_or, dropPhrase?_eq_some_iff.mpr ⟨word, rfl, hword⟩]

theorem dropBlanks?_append_word {space word : Text} (hne : space ≠ []) (hspace : allBlank space)
    (hword : ∀ c ∈ word.head?, isBlank c = false) : dropBlanks? (space ++ word) = some word := by
  obtain ⟨c, space, rfl⟩ := List.exists_cons_of_ne_nil hne
  obtain ⟨hc, hspace⟩ := List.forall_mem_cons.mp (List.all_eq_true.mp hspace)
  have htrim : trimStart (space ++ word) = word := by
    rw [trimStart, List.dropWhile_append_of_pos hspace]
    cases word with
    | nil => rfl
    | cons d word => rw [List.dropWhile_cons_of_neg (by simpa using hword d rfl)]
  rw [List.cons_append, dropBlanks?, if_pos hc, htrim]

end Text

open Text

namespace Selection

def directions : List Text := ["asc", "desc"]

def nullsOrders : List (List Text) := [["nulls", "first"], ["nulls", "last"]]

/-- The words of the sort suffixes: a direction, a placement of nulls, or both. -/
def sortSuffixes : List (List Text) :=
  nullsOrders ++ directions.flatMap fun direction => ([] :: nullsOrders).map (direction :: ·)

/-- A text that begins with white space, if it has a character. -/
def BeginsBlank (text : Text) : Prop := ∀ c ∈ text.head?, isBlank c

theorem BeginsBlank.append {space : Text} (hspace : allBlank space) {text : Text}
    (htext : space = [] → BeginsBlank text) : BeginsBlank (space ++ text) := by
  cases space with
  | nil => exact htext rfl
  | cons c space =>
    intro d hd
    obtain rfl : c = d := by simpa using hd
    exact (List.forall_mem_cons.mp (List.all_eq_true.mp hspace)).1

theorem exists_first_field {text word : Text} {words : List Text} (hbegins : BeginsBlank text)
    (hfields : foldedFields text = word :: words) :
    ∃ space front rest, text = space ++ (front ++ rest) ∧ dropBlanks? text = some (front ++ rest) ∧
      front.map foldChar = word ∧ BeginsBlank rest ∧ foldedFields rest = words := by
  rcases fields_cases text with
    ⟨-, hnil⟩ | ⟨space, front, rest, rfl, hspace, hne, hfront, hrest, hcons⟩
  · rw [foldedFields, hnil] at hfields
    cases hfields
  · rw [foldedFields, hcons] at hfields
    obtain ⟨hword, hwords⟩ := List.cons.inj hfields
    have hhead : ∀ c ∈ (front ++ rest).head?, isBlank c = false := by
      rw [List.head?_append_of_ne_nil _ hne]
      exact fun c hc => hfront c (List.mem_of_mem_head? hc)
    have hspaceNe : space ≠ [] := by
      rintro rfl
      obtain ⟨c, more, rfl⟩ := List.exists_cons_of_ne_nil hne
      have hblank := hbegins c rfl
      simp [hfront c List.mem_cons_self] at hblank
    exact ⟨space, front, rest, rfl, dropBlanks?_append_word hspaceNe hspace hhead, hword, hrest,
      hwords⟩

theorem foldedFields_word {text rest front tail word : Text} (hword : Keyword.isLetters word)
    (hblanks : dropBlanks? text = some rest) (hrest : rest = front ++ tail)
    (hfront : front.map foldChar = word) (htail : BeginsBlank tail) :
    BeginsBlank text ∧ foldedFields text = word :: foldedFields tail := by
  obtain ⟨space, rfl, hne, hspace⟩ := exists_of_dropBlanks? hblanks
  obtain ⟨hfrontNe, hvisible⟩ := isBlank_of_map_foldChar hfront hword
  refine ⟨BeginsBlank.append hspace fun hnil => absurd hnil hne, ?_⟩
  rw [foldedFields, fields_space_append hspace, hrest, fields_word_append hfrontNe hvisible htail,
    List.map_cons, hfront, foldedFields]

theorem beginsBlank_of_allBlank {text : Text} (h : allBlank text) :
    BeginsBlank text ∧ foldedFields text = [] := by
  constructor
  · exact fun c hc => List.all_eq_true.mp h c (List.mem_of_mem_head? hc)
  · rw [foldedFields, ← List.append_nil text, fields_space_append h, fields_nil, List.map_nil]

theorem allBlank_of_foldedFields {text : Text} (h : foldedFields text = []) : allBlank text := by
  rcases fields_cases text with ⟨hblank, -⟩ | ⟨_, _, _, -, -, -, -, -, hcons⟩
  · exact hblank
  · rw [foldedFields, hcons] at h
    cases h

section Steps

variable {text rest : Text}

theorem dropDirection?_eq_some_iff :
    dropDirection? text = some rest ↔ ∃ front : Text, dropBlanks? text = some (front ++ rest) ∧
      front.map foldChar ∈ directions := by
  have hasc : ("asc" : Text) = 'a' :: ['s', 'c'] := rfl
  have hdesc : ("desc" : Text) = 'd' :: ['e', 's', 'c'] := rfl
  simp only [dropDirection?, Option.bind_eq_bind, Option.bind_eq_some_iff, hasc, hdesc,
    or_dropPhrase?_eq_some_iff (show 'a' ≠ 'd' by decide), directions, List.mem_cons,
    List.not_mem_nil, or_false]
  constructor
  · rintro ⟨_, hblanks, front, rfl, hfront⟩
    exact ⟨front, hblanks, hfront⟩
  · rintro ⟨front, hblanks, hfront⟩
    exact ⟨_, hblanks, front, rfl, hfront⟩

theorem dropNullsOrder?_eq_some_iff :
    dropNullsOrder? text = some rest ↔ ∃ front middle back : Text,
      dropBlanks? text = some (front ++ middle) ∧ front.map foldChar = ("nulls" : Text) ∧
        dropBlanks? middle = some (back ++ rest) ∧
          (back.map foldChar = ("first" : Text) ∨ back.map foldChar = ("last" : Text)) := by
  have hfirst : ("first" : Text) = 'f' :: ['i', 'r', 's', 't'] := rfl
  have hlast : ("last" : Text) = 'l' :: ['a', 's', 't'] := rfl
  simp only [dropNullsOrder?, Option.bind_eq_bind, Option.bind_eq_some_iff, hfirst, hlast,
    or_dropPhrase?_eq_some_iff (show 'f' ≠ 'l' by decide), dropPhrase?_eq_some_iff]
  constructor
  · rintro ⟨_, hblanks, middle, ⟨front, rfl, hfront⟩, _, hmiddle, back, rfl, hback⟩
    exact ⟨front, middle, back, hblanks, hfront, hmiddle, hback⟩
  · rintro ⟨front, middle, back, hblanks, hfront, hmiddle, hback⟩
    exact ⟨_, hblanks, middle, ⟨front, rfl, hfront⟩, _, hmiddle, back, rfl, hback⟩

end Steps

/-- A placement of nulls is one by its fields, and so is what follows a direction. -/
theorem isNullsOrder_iff {text : Text} :
    isNullsOrder text ↔ BeginsBlank text ∧ foldedFields text ∈ [] :: nullsOrders := by
  simp only [isNullsOrder, Bool.or_eq_true, Option.any_eq_true]
  constructor
  · rintro (hblank | ⟨rest, hdrop, hrest⟩)
    · obtain ⟨hbegins, hnil⟩ := beginsBlank_of_allBlank hblank
      exact ⟨hbegins, by simp [hnil]⟩
    · obtain ⟨front, middle, back, hblanks, hfront, hmiddle, hback⟩ :=
        dropNullsOrder?_eq_some_iff.mp hdrop
      obtain ⟨hrestBegins, hnil⟩ := beginsBlank_of_allBlank hrest
      have hplace : Keyword.isLetters (back.map foldChar) := by
        rcases hback with hback | hback <;> rw [hback] <;> decide
      obtain ⟨hmiddleBegins, hmiddleFields⟩ :=
        foldedFields_word hplace hmiddle rfl rfl hrestBegins
      obtain ⟨hbegins, hfields⟩ := foldedFields_word (by decide) hblanks rfl hfront hmiddleBegins
      refine ⟨hbegins, ?_⟩
      rw [hfields, hmiddleFields, hnil]
      rcases hback with hback | hback <;> simp [nullsOrders, hback]
  · rintro ⟨hbegins, hfields⟩
    rcases List.mem_cons.mp hfields with hnil | hnulls
    · exact .inl (allBlank_of_foldedFields hnil)
    · obtain ⟨place, hplace, hwords⟩ : ∃ place : Text,
          (place = "first".toList ∨ place = "last".toList) ∧
            foldedFields text = ["nulls".toList, place] := by
        rcases List.mem_cons.mp hnulls with hwords | hwords
        · exact ⟨_, .inl rfl, hwords⟩
        · exact ⟨_, .inr rfl, List.mem_singleton.mp hwords⟩
      obtain ⟨-, front, middle, -, hblanks, hfront, hmiddle, hmiddleFields⟩ :=
        exists_first_field hbegins hwords
      obtain ⟨-, back, rest, -, hmiddleBlanks, rfl, -, hnil⟩ :=
        exists_first_field hmiddle hmiddleFields
      right
      refine ⟨rest, ?_, allBlank_of_foldedFields hnil⟩
      exact dropNullsOrder?_eq_some_iff.mpr
        ⟨front, middle, back, hblanks, hfront, hmiddleBlanks, hplace⟩

/-- A text is a sort suffix exactly when its fields are those of one. -/
theorem sortSuffix?_eq_some_iff {text : Text} :
    sortSuffix? text = some () ↔ BeginsBlank text ∧ foldedFields text ∈ [] :: sortSuffixes := by
  have hsuffix : sortSuffix? text = some () ↔
      isNullsOrder text ∨ ∃ rest, dropDirection? text = some rest ∧ isNullsOrder rest := by
    rw [← Option.any_eq_true]
    cases horder : isNullsOrder text <;> simp [sortSuffix?, horder]
  have hfields : foldedFields text ∈ [] :: sortSuffixes ↔ foldedFields text ∈ [] :: nullsOrders ∨
      ∃ direction ∈ directions, ∃ order ∈ [] :: nullsOrders,
        foldedFields text = direction :: order := by
    simp only [sortSuffixes, List.mem_cons, List.mem_append, List.mem_flatMap, List.mem_map,
      or_assoc, eq_comm]
  rw [hsuffix, hfields, isNullsOrder_iff, and_or_left]
  refine or_congr_right ⟨?_, ?_⟩
  · rintro ⟨rest, hdrop, hrest⟩
    obtain ⟨front, hblanks, hfront⟩ := dropDirection?_eq_some_iff.mp hdrop
    obtain ⟨hrestBegins, horder⟩ := isNullsOrder_iff.mp hrest
    have hletters : ∀ direction ∈ directions, Keyword.isLetters direction := by decide
    obtain ⟨hbegins, hfirst⟩ :=
      foldedFields_word (hletters _ hfront) hblanks rfl rfl hrestBegins
    exact ⟨hbegins, _, hfront, _, horder, hfirst⟩
  · rintro ⟨hbegins, direction, hdirection, order, horder, hfirst⟩
    obtain ⟨-, front, rest, -, hblanks, rfl, hrest, rfl⟩ := exists_first_field hbegins hfirst
    exact ⟨rest, dropDirection?_eq_some_iff.mpr ⟨front, hblanks, hdirection⟩,
      isNullsOrder_iff.mpr ⟨hrest, horder⟩⟩

/-- A text that is written as a sort suffix: white space, and then the words of one in any letter
case, with white space between them. -/
def IsSortSuffix (suffix : Text) : Prop :=
  ∃ space words spelled, suffix = space ++ spelled ∧ space ≠ [] ∧ allBlank space ∧
    words ∈ sortSuffixes ∧ Keyword.Spelling words spelled

theorem isFolded_of_mem_sortSuffixes {words : List Text} (hwords : words ∈ sortSuffixes) :
    ∀ word ∈ words, IsFolded word := by
  have hall : ∀ words ∈ sortSuffixes, ∀ word ∈ words, Keyword.isLetters word ∧
      word.map asciiLowerChar = word ∧ '\u212A' ∉ word ∧ '\u017F' ∉ word := by
    decide
  intro word hword
  obtain ⟨hletters, hlower, hkelvin, hlong⟩ := hall words hwords word hword
  exact ⟨hletters, hlower, hkelvin, hlong⟩

theorem foldedFields_spelling {words : List Text} {spelled : Text}
    (hspelled : Keyword.Spelling words spelled) (hwords : ∀ word ∈ words, IsFolded word) :
    foldedFields spelled = words := by
  induction hspelled with
  | @last part word hword =>
    have hpart := hwords part List.mem_cons_self
    have hfold := map_foldChar_of_sameLetters hword hpart
    obtain ⟨hne, hvisible⟩ := isBlank_of_map_foldChar hfold hpart.letters
    rw [foldedFields, ← List.append_nil word, fields_word_append hne hvisible (by simp), fields_nil,
      List.map_singleton, hfold]
  | @next part parts word space rest hword hne hspace hrest ih =>
    obtain ⟨hpart, hparts⟩ := List.forall_mem_cons.mp hwords
    have hfold := map_foldChar_of_sameLetters hword hpart
    obtain ⟨hwordNe, hvisible⟩ := isBlank_of_map_foldChar hfold hpart.letters
    have hbegins : BeginsBlank (space ++ rest) :=
      BeginsBlank.append hspace fun hnil => absurd hnil hne
    rw [foldedFields, fields_word_append hwordNe hvisible hbegins, fields_space_append hspace,
      List.map_cons, hfold, ← foldedFields, ih hparts]

namespace IsSortSuffix

variable {suffix : Text} (h : IsSortSuffix suffix)
include h

theorem mem_sortSuffixes : BeginsBlank suffix ∧ foldedFields suffix ∈ sortSuffixes := by
  obtain ⟨space, words, spelled, rfl, hne, hspace, hwords, hspelled⟩ := h
  refine ⟨BeginsBlank.append hspace fun hnil => absurd hnil hne, ?_⟩
  rw [foldedFields, fields_space_append hspace, ← foldedFields,
    foldedFields_spelling hspelled (isFolded_of_mem_sortSuffixes hwords)]
  exact hwords

theorem sortSuffix? : sortSuffix? suffix = some () :=
  sortSuffix?_eq_some_iff.mpr ⟨h.mem_sortSuffixes.1, List.mem_cons_of_mem _ h.mem_sortSuffixes.2⟩

/-- What stands before a sort suffix in a sort suffix is one. -/
theorem sortSuffix?_of_append {back : Text} (hne : back ≠ [])
    (hboth : Selection.sortSuffix? (back ++ suffix) = some ()) :
    Selection.sortSuffix? back = some () := by
  obtain ⟨hbegins, hwords⟩ := h.mem_sortSuffixes
  obtain ⟨hbothBegins, hbothWords⟩ := sortSuffix?_eq_some_iff.mp hboth
  have hcut : ∀ whole ∈ [] :: sortSuffixes, ∀ words ∈ sortSuffixes, words <:+ whole →
      whole.take (whole.length - words.length) ∈ [] :: sortSuffixes := by
    decide
  rw [foldedFields_append back hbegins] at hbothWords
  have hback := hcut _ hbothWords _ hwords (List.suffix_append _ _)
  rw [List.length_append, Nat.add_sub_cancel, List.take_left] at hback
  refine sortSuffix?_eq_some_iff.mpr ⟨fun c hc => ?_, hback⟩
  apply hbothBegins
  rwa [List.head?_append_of_ne_nil _ hne]

end IsSortSuffix

theorem exists_cutAt? {α : Type} {step : Text → Option α} {back : Text} {found : α}
    (hstep : step back = some found) (front : Text) :
    ∃ column other, cutAt? step (front ++ back) = some (column, other) ∧
      column.length ≤ front.length := by
  induction front with
  | nil =>
    have hfirst : cutAt? step back = some ([], found) := by
      cases back <;> simp [cutAt?, hstep]
    exact ⟨[], found, hfirst, Nat.le_refl _⟩
  | cons c front ih =>
    obtain ⟨column, other, hcut, hle⟩ := ih
    rw [List.cons_append, cutAt?]
    cases step (c :: (front ++ back)) with
    | some first => exact ⟨[], first, rfl, Nat.zero_le _⟩
    | none => exact ⟨c :: column, other, by rw [hcut]; rfl, Nat.succ_le_succ hle⟩

/-- No sort suffix begins in a key that none is taken off. -/
theorem sortSuffix?_ne_some {key front back : Text} (hkey : sortColumn key = key)
    (hsplit : key = front ++ back) (hne : back ≠ []) : sortSuffix? back ≠ some () := by
  intro hback
  obtain ⟨column, _, hcut, hle⟩ := exists_cutAt? hback front
  rw [sortColumn, hsplit, hcut] at hkey
  have hlength : column.length = (front ++ back).length := congrArg List.length hkey
  have := List.length_pos_iff.mpr hne
  rw [List.length_append] at hlength
  omega

theorem sortColumn_append {key suffix : Text} (hkey : sortColumn key = key)
    (hsuffix : IsSortSuffix suffix) : sortColumn (key ++ suffix) = key := by
  have hcut : cutAt? sortSuffix? (key ++ suffix) = some (key, ()) := by
    apply cutAt?_append hsuffix.sortSuffix?
    intro front back hsplit hne
    have hback := sortSuffix?_ne_some hkey hsplit hne
    rw [Option.eq_none_iff_forall_ne_some]
    exact fun _ hboth => hback (hsuffix.sortSuffix?_of_append hne hboth)
  rw [sortColumn, hcut]

/-- A text without white space holds no sort suffix. -/
theorem sortColumn_of_visible {key : Text} (h : ∀ c ∈ key, isBlank c = false) :
    sortColumn key = key := by
  have hcut : cutAt? sortSuffix? (key ++ []) = some (key, ()) := by
    apply cutAt?_append (by decide)
    intro front back hsplit hne
    rw [List.append_nil, Option.eq_none_iff_forall_ne_some]
    intro _ hback
    obtain ⟨c, more, rfl⟩ := List.exists_cons_of_ne_nil hne
    have hblank := (sortSuffix?_eq_some_iff.mp hback).1 c rfl
    simp [h c (by simp [hsplit])] at hblank
  rw [List.append_nil] at hcut
  rw [sortColumn, hcut]

/-- The column of a position is the position, with every sort suffix. -/
theorem sortColumn_digits {digits suffix : Text} (hdigits : digits.all Char.isDigit)
    (hsuffix : IsSortSuffix suffix) : sortColumn (digits ++ suffix) = digits := by
  apply sortColumn_append _ hsuffix
  apply sortColumn_of_visible
  intro c hc
  exact isBlank_of_isDigit (List.all_eq_true.mp hdigits c hc)

end Selection

end QueryLint
