import QueryLint.Proofs.Phrases
import QueryLint.Proofs.Searching
import QueryLint.Rejection.Wording

/-!
Messages as a grammar writes them. What was expected and what was found, the token, the column or
the table that a message names is read back from it as it was written, whatever place the message
names at its end.
-/

namespace QueryLint

namespace Complaint

open Text

/-- A text that is not empty and neither begins nor ends with white space. -/
structure Trimmed (text : Text) : Prop where
  ne_nil : text ≠ []
  first : ∀ c ∈ text.head?, isBlank c = false
  last : ∀ c ∈ text.getLast?, isBlank c = false

theorem trimmed_iff (text : Text) :
    Trimmed text ↔ text ≠ [] ∧ text.head?.all (!isBlank ·) ∧ text.getLast?.all (!isBlank ·) := by
  simp only [Option.all_eq_true, Bool.not_eq_true']
  exact ⟨fun h => ⟨h.ne_nil, h.first, h.last⟩, fun ⟨hne, hfirst, hlast⟩ => ⟨hne, hfirst, hlast⟩⟩

instance (text : Text) : Decidable (Trimmed text) := decidable_of_iff' _ (trimmed_iff text)

/-- White space with the word `found` right after it, in any letter case. -/
def NamesFound (text : Text) : Prop :=
  ∃ before c word after, text = before ++ c :: (word ++ after) ∧ isBlank c ∧
    word.map foldChar = "found"

/-- White space, `at`, white space, and `line` or `pos` as a word, in any letter case. -/
def NamesPlace (text : Text) : Prop :=
  ∃ before c at_ blanks word after,
    text = before ++ c :: (at_ ++ (blanks ++ (word ++ after))) ∧ isBlank c ∧
      at_.map foldChar = "at" ∧ blanks ≠ [] ∧ allBlank blanks ∧
      (word.map foldChar = "line" ∨ word.map foldChar = "pos") ∧
      ∀ d ∈ after.head?, isWordChar d = false

/-- What can stand at the end of a message: nothing, or the place that it is about. -/
inductive Ending
  | nothing
  | lineColumn (line column : Numeral)
  | position (number : Numeral)

def Ending.text : Ending → Text
  | nothing => []
  | lineColumn line column => " at " ++ Rejection.lineColumnText line column
  | position number => " at pos " ++ number.text

section Ends

variable {text front rest : Text}

/-- Whether the last character of a text, if it has one, is visible. -/
def EndsVisible (text : Text) : Prop := ∀ c ∈ text.getLast?, isBlank c = false

theorem EndsVisible.back (h : EndsVisible (front ++ rest)) : EndsVisible rest := by
  intro c hc
  refine h c ?_
  rw [List.getLast?_append, Option.mem_def.mp hc]
  rfl

theorem EndsVisible.exists_visible (h : EndsVisible text) (hne : text ≠ []) :
    ∃ c ∈ text, isBlank c = false :=
  ⟨text.getLast hne, List.getLast_mem hne, h _ (List.getLast?_eq_getLast_of_ne_nil hne)⟩

end Ends

section Found

variable {text rest : Text}

def dropComma : Text → Text
  | ',' :: rest => rest
  | text => text

theorem foundPart?_eq (text : Text) :
    foundPart? text = (dropBlanks? (dropComma text)).bind (dropPhrase? "found") := by
  cases text with
  | nil => rfl
  | cons c text =>
    by_cases hc : c = ','
    · subst hc
      rfl
    · simp [foundPart?, dropComma, hc]

theorem exists_eq_append_dropComma (text : Text) : ∃ front, text = front ++ dropComma text := by
  unfold dropComma
  split
  · exact ⟨[','], rfl⟩
  · exact ⟨[], rfl⟩

theorem dropComma_append (hne : text ≠ []) (after : Text) :
    dropComma (text ++ after) = dropComma text ++ after := by
  obtain ⟨c, text, rfl⟩ := List.exists_cons_of_ne_nil hne
  by_cases hc : c = ','
  · subst hc
    rfl
  · simp [dropComma, hc]

theorem NamesFound.append (h : NamesFound rest) (front : Text) : NamesFound (front ++ rest) := by
  obtain ⟨before, c, word, after, rfl, hc, hword⟩ := h
  exact ⟨front ++ before, c, word, after, by simp, hc, hword⟩

theorem namesFound_of_foundPart? (h : foundPart? text = some rest) : NamesFound text := by
  rw [foundPart?_eq, Option.bind_eq_some_iff] at h
  obtain ⟨later, hblanks, hword⟩ := h
  obtain ⟨front, hfront⟩ := exists_eq_append_dropComma text
  obtain ⟨blanks, hcomma, hne, hblank⟩ := exists_of_dropBlanks? hblanks
  obtain ⟨word, rfl, hfound⟩ := dropPhrase?_eq_some_iff.mp hword
  obtain ⟨before, c, rfl⟩ := (List.eq_nil_or_concat' blanks).resolve_left hne
  refine ⟨front ++ before, c, word, rest, ?_, ?_, hfound⟩
  · rw [hfront, hcomma]
    simp
  · simp only [allBlank, List.all_append, Bool.and_eq_true, List.all_cons, List.all_nil] at hblank
    exact hblank.2.1

/-- The comma after a text does not become part of what could stand before `found`. -/
theorem foundPart?_append_comma (hlast : EndsVisible text) (hne : text ≠ []) (after : Text) :
    foundPart? (text ++ ',' :: after) = (foundPart? text).map (· ++ ',' :: after) := by
  obtain ⟨front, hfront⟩ := exists_eq_append_dropComma text
  have hend : EndsVisible (dropComma text) := by
    rw [hfront] at hlast
    exact hlast.back
  have hletter : ∀ c ∈ (',' :: after).head?, foldChar c ∉ "found".toList := by
    rintro c ⟨⟩
    decide
  rw [foundPart?_eq, foundPart?_eq, dropComma_append hne]
  by_cases hnil : dropComma text = []
  · rw [hnil]
    rfl
  · rw [dropBlanks?_append (hend.exists_visible hnil)]
    cases dropBlanks? (dropComma text) with
    | none => rfl
    | some later => exact dropPhrase?_append hletter later

theorem cutAt?_foundPart? {expected : Text} (hlast : EndsVisible expected)
    (hnames : ¬NamesFound expected) (rest : Text) :
    cutAt? foundPart? (expected ++ (", found" ++ rest)) = some (expected, rest) := by
  refine cutAt?_append rfl fun front back hexpected hne => ?_
  rw [hexpected] at hlast hnames
  have hnone : foundPart? back = none := by
    rw [Option.eq_none_iff_forall_ne_some]
    intro found hfound
    exact hnames ((namesFound_of_foundPart? hfound).append front)
  have hcomma := foundPart?_append_comma hlast.back hne (" found" ++ rest)
  rw [hnone] at hcomma
  exact hcomma

end Found

section Place

variable {text rest : Text}

theorem NamesPlace.append (h : NamesPlace rest) (front : Text) : NamesPlace (front ++ rest) := by
  obtain ⟨before, c, at_, blanks, word, after, rfl, hplace⟩ := h
  exact ⟨front ++ before, c, at_, blanks, word, after, by simp, hplace⟩

def dropPlaceWord? (text : Text) : Option Text :=
  (dropPhrase? "line" text).or (dropPhrase? "pos" text)

theorem locationTail?_eq (text : Text) :
    locationTail? text =
      (dropBlanks? text).bind fun rest => (dropPhrase? "at" rest).bind fun rest =>
        (dropBlanks? rest).bind fun rest => (dropPlaceWord? rest).bind fun rest =>
          if continuesWord rest then none else some () := rfl

theorem continuesWord_eq_false_iff :
    continuesWord text = false ↔ ∀ c ∈ text.head?, isWordChar c = false := by
  cases text <;> simp [continuesWord]

theorem namesPlace_of_locationTail? (h : locationTail? text = some ()) : NamesPlace text := by
  simp only [locationTail?_eq, Option.bind_eq_some_iff] at h
  obtain ⟨_, hfirst, _, hat, afterBlanks, hsecond, rest, hword, hend⟩ := h
  obtain ⟨first, rfl, hne, hblank⟩ := exists_of_dropBlanks? hfirst
  obtain ⟨at_, rfl, hletters⟩ := dropPhrase?_eq_some_iff.mp hat
  obtain ⟨second, rfl, hne', hblank'⟩ := exists_of_dropBlanks? hsecond
  obtain ⟨word, rfl, hplaceWord⟩ : ∃ word, afterBlanks = word ++ rest ∧
      (word.map foldChar = "line" ∨ word.map foldChar = "pos") := by
    rcases Option.or_eq_some_iff.mp hword with hline | ⟨-, hpos⟩
    · obtain ⟨word, hrest, hline⟩ := dropPhrase?_eq_some_iff.mp hline
      exact ⟨word, hrest, .inl hline⟩
    · obtain ⟨word, hrest, hpos⟩ := dropPhrase?_eq_some_iff.mp hpos
      exact ⟨word, hrest, .inr hpos⟩
  obtain ⟨before, c, rfl⟩ := (List.eq_nil_or_concat' first).resolve_left hne
  refine ⟨before, c, at_, second, word, rest, by simp, ?_, hletters, hne', hblank', hplaceWord, ?_⟩
  · simp only [allBlank, List.all_append, Bool.and_eq_true, List.all_cons, List.all_nil] at hblank
    exact hblank.2.1
  · refine continuesWord_eq_false_iff.mp ?_
    by_contra hcontinues
    simp [hcontinues] at hend

/-- What follows a text and begins with a space, if with anything, but then not with the word of a
place, adds no place to those that begin in the text. -/
theorem locationTail?_append {after : Text} (hlast : EndsVisible text) (hne : text ≠ [])
    (hafter : ∀ c ∈ after.head?, c = ' ')
    (hword : ∀ rest, dropBlanks? after = some rest → dropPlaceWord? rest = none) :
    locationTail? (text ++ after) = locationTail? text := by
  have hletter (phrase : Text) (hspace : foldChar ' ' ∉ phrase) :
      ∀ c ∈ after.head?, foldChar c ∉ phrase := by
    intro c hc
    rwa [hafter c hc]
  have hplaceWord (rest : Text) :
      dropPlaceWord? (rest ++ after) = (dropPlaceWord? rest).map (· ++ after) := by
    rw [dropPlaceWord?, dropPhrase?_append (hletter "line" (by decide)),
      dropPhrase?_append (hletter "pos" (by decide)), dropPlaceWord?]
    cases dropPhrase? "line" rest <;> rfl
  have hcontinues (rest : Text) : continuesWord (rest ++ after) = continuesWord rest := by
    cases rest with
    | nil =>
      refine continuesWord_eq_false_iff.mpr fun c hc => ?_
      rw [hafter c hc]
      decide
    | cons c rest => rfl
  rw [locationTail?_eq, locationTail?_eq, dropBlanks?_append (hlast.exists_visible hne)]
  cases hfirst : dropBlanks? text with
  | none => rfl
  | some afterBlank =>
    obtain ⟨first, rfl, -, -⟩ := exists_of_dropBlanks? hfirst
    simp only [Option.map_some, Option.bind_some, dropPhrase?_append (hletter "at" (by decide))]
    cases hat : dropPhrase? "at" afterBlank with
    | none => rfl
    | some afterAt =>
      obtain ⟨at_, rfl, -⟩ := dropPhrase?_eq_some_iff.mp hat
      simp only [Option.map_some, Option.bind_some]
      by_cases hnil : afterAt = []
      · -- `at` ends the text, so the white space after it is not of the text
        subst hnil
        cases hsecond : dropBlanks? after with
        | none =>
          rw [List.nil_append, hsecond]
          rfl
        | some rest =>
          rw [List.nil_append, hsecond, Option.bind_some, hword rest hsecond]
          rfl
      · have hend : EndsVisible afterAt := hlast.back.back
        rw [dropBlanks?_append (hend.exists_visible hnil)]
        cases dropBlanks? afterAt with
        | none => rfl
        | some rest =>
          simp only [Option.map_some, Option.bind_some, hplaceWord]
          cases dropPlaceWord? rest with
          | none => rfl
          | some rest => simp [hcontinues]

end Place

namespace Ending

variable (ending : Ending)

theorem text_cases :
    ending.text = [] ∨ (∃ rest, ending.text = " at " ++ ("Line: " ++ rest)) ∨
      ∃ rest, ending.text = " at pos " ++ rest := by
  cases ending with
  | nothing => exact .inl rfl
  | lineColumn line column => exact .inr (.inl ⟨_, rfl⟩)
  | position number => exact .inr (.inr ⟨_, rfl⟩)

theorem head_text : ∀ c ∈ ending.text.head?, c = ' ' := by
  obtain h | ⟨rest, h⟩ | ⟨rest, h⟩ := ending.text_cases <;> simp [h]

theorem dropPlaceWord?_text {rest : Text} (h : dropBlanks? ending.text = some rest) :
    dropPlaceWord? rest = none := by
  obtain hending | ⟨later, hending⟩ | ⟨later, hending⟩ := ending.text_cases <;> rw [hending] at h
  · cases h
  · obtain rfl := Option.some.inj h
    rfl
  · obtain rfl := Option.some.inj h
    rfl

theorem eq_nil_or_locationTail? : ending.text = [] ∨ locationTail? ending.text = some () := by
  obtain h | ⟨rest, h⟩ | ⟨rest, h⟩ := ending.text_cases
  · exact .inl h
  · rw [h]
    exact .inr rfl
  · rw [h]
    exact .inr rfl

end Ending

theorem beforeLocation_append {found : Text} (hlast : EndsVisible found)
    (hplace : ¬NamesPlace found) (ending : Ending) :
    beforeLocation (found ++ ending.text) = found := by
  have hnone : ∀ front back, found = front ++ back → back ≠ [] →
      locationTail? (back ++ ending.text) = none := by
    intro front back hfound hne
    rw [hfound] at hlast hplace
    rw [locationTail?_append hlast.back hne ending.head_text fun _ => ending.dropPlaceWord?_text,
      Option.eq_none_iff_forall_ne_some]
    exact fun _ htail => hplace ((namesPlace_of_locationTail? htail).append front)
  rcases ending.eq_nil_or_locationTail? with hending | hending
  · have hcut : cutAt? locationTail? found = none := by
      refine cutAt?_eq_none fun front back hfound => ?_
      by_cases hne : back = []
      · rw [hne]
        rfl
      · have := hnone front back hfound hne
        rwa [hending, List.append_nil] at this
    rw [hending, List.append_nil, beforeLocation, hcut]
  · rw [beforeLocation, cutAt?_append hending hnone]

section Written

variable {expected found token name : Text}

theorem Trimmed.trim_eq (h : Trimmed found) : trim found = found :=
  dropWhile_self h.ne_nil h.first h.last

theorem Trimmed.trimStart_append (h : Trimmed found) (rest : Text) :
    trimStart (found ++ rest) = found ++ rest := by
  obtain ⟨c, later, rfl⟩ := List.exists_cons_of_ne_nil h.ne_nil
  have hc : isBlank c = false := h.first c rfl
  simp [trimStart, hc]

/-- `Expected: E, found: F`, with the place that the message is about. -/
def expectedText (expected found : Text) (ending : Ending) : Text :=
  "Expected: " ++ (expected ++ (", found: " ++ (found ++ ending.text)))

theorem expectedFound_expectedText (hexpected : Trimmed expected) (hfound : Trimmed found)
    (hnames : ¬NamesFound expected) (hplace : ¬NamesPlace found) (ending : Ending) :
    expectedFound (expectedText expected found ending) = some (expected, found) := by
  have hstart : firstAtWord? (dropPhrase? "expected") false (expectedText expected found ending) =
      some (": " ++ (expected ++ (", found: " ++ (found ++ ending.text)))) := rfl
  have hcut : cutAt? foundPart? (trimStart (dropColon
      (": " ++ (expected ++ (", found: " ++ (found ++ ending.text)))))) =
      some (expected, ": " ++ (found ++ ending.text)) := by
    have hrest : trimStart (dropColon
        (": " ++ (expected ++ (", found: " ++ (found ++ ending.text))))) =
        expected ++ (", found: " ++ (found ++ ending.text)) := hexpected.trimStart_append _
    rw [hrest]
    exact cutAt?_foundPart? hexpected.last hnames _
  have hlater :
      beforeLocation (trimStart (dropColon (": " ++ (found ++ ending.text)))) = found := by
    have hrest : trimStart (dropColon (": " ++ (found ++ ending.text))) = found ++ ending.text :=
      hfound.trimStart_append _
    rw [hrest, beforeLocation_append hfound.last hplace]
  simp only [expectedFound, hstart, hcut, hlater, Option.bind_eq_bind, Option.bind_some,
    hexpected.trim_eq, hfound.trim_eq]
  simp [hexpected.ne_nil, hfound.ne_nil]

theorem expected_expectedText (hexpected : Trimmed expected) (hfound : Trimmed found)
    (hnames : ¬NamesFound expected) (hplace : ¬NamesPlace found) (ending : Ending) :
    Complaint.expected (expectedText expected found ending) = some expected := by
  rw [Complaint.expected, expectedFound_expectedText hexpected hfound hnames hplace]

/-- `unexpected token: 'T'`. -/
def tokenText (token : Text) : Text := "unexpected token: '" ++ (token ++ "'")

theorem unexpectedToken_tokenText (hquote : '\'' ∉ token) (hline : '\n' ∉ token) :
    unexpectedToken (tokenText token) = some token := by
  have htoken : (token ++ "'").takeWhile (fun c => c ≠ '\'' && c ≠ '\n') = token := by
    have hall : ∀ c ∈ token, (decide (c ≠ '\'') && decide (c ≠ '\n')) = true := by
      intro c hc
      have h : c ≠ '\'' ∧ c ≠ '\n' :=
        ⟨fun heq => hquote (heq ▸ hc), fun heq => hline (heq ▸ hc)⟩
      simp [h]
    rw [List.takeWhile_append_of_pos hall]
    exact List.append_nil token
  have hphrase : dropPhrase? "unexpected token" (tokenText token) =
      some (": '" ++ (token ++ "'")) := rfl
  have hopen : dropPhrase? "'" (trimStart (dropColon (": '" ++ (token ++ "'")))) =
      some (token ++ "'") := rfl
  refine first?_of_head ?_
  simp only [hphrase, hopen, Option.bind_eq_bind, Option.bind_some, htoken]
  simp

theorem nameAfter?_append {phrase message : Text}
    (hphrase : dropPhrase? phrase message = some (' ' :: name))
    (hne : name ≠ []) (hname : ∀ c ∈ name, isBlank c = false ∧ c ≠ '(') :
    nameAfter? phrase message = some name := by
  have htrim : trimStart (' ' :: name) = name := by
    obtain ⟨c, later, rfl⟩ := List.exists_cons_of_ne_nil hne
    have hc := (hname c List.mem_cons_self).1
    have hspace : isBlank ' ' := by decide
    simp [trimStart, hspace, hc]
  have hwhole : name.takeWhile (fun c => !isBlank c && c ≠ '(') = name := by
    refine List.takeWhile_eq_self_iff.mpr fun c hc => ?_
    simp [hname c hc]
  refine first?_of_head ?_
  simp only [hphrase, htrim, hwhole, Option.bind_eq_bind, Option.bind_some]
  simp [hne]

def columnText (name : Text) : Text := "no such column: " ++ name

def tableText (name : Text) : Text := "no such table: " ++ name

theorem noSuchColumn_columnText (hne : name ≠ [])
    (hname : ∀ c ∈ name, isBlank c = false ∧ c ≠ '(') :
    noSuchColumn (columnText name) = some name := by
  have hphrase : dropPhrase? "no such column:" (columnText name) = some (' ' :: name) := rfl
  exact nameAfter?_append hphrase hne hname

theorem noSuchTable_tableText (hne : name ≠ []) (hname : ∀ c ∈ name, isBlank c = false ∧ c ≠ '(') :
    noSuchTable (tableText name) = some name := by
  have hphrase : dropPhrase? "no such table:" (tableText name) = some (' ' :: name) := rfl
  exact nameAfter?_append hphrase hne hname

end Written

/-- What a message of one of the families says is read back from it: what was expected and what was
found, whatever stands in them apart from the marks that end them, and the token, the column or the
table. The wording of the message uses what was read, unless an earlier family claims it. -/
theorem complaints_read_back :
    (∀ expected found ending, Trimmed expected → Trimmed found →
      ¬NamesFound expected → ¬NamesPlace found →
      expectedFound (expectedText expected found ending) = some (expected, found) ∧
      Complaint.expected (expectedText expected found ending) = some expected ∧
      ∀ position text,
        Rejection.friendlyWording ⟨expectedText expected found ending, position⟩ text =
          "Syntax error: expected '" ++ expected ++ "' but found '" ++ found ++ "'") ∧
    (∀ token, '\'' ∉ token → '\n' ∉ token →
      unexpectedToken (tokenText token) = some token ∧
      (expectedFound (tokenText token) = none → ∀ position text,
        Rejection.friendlyWording ⟨tokenText token, position⟩ text =
          "Syntax error: unexpected token '" ++ token ++ "'")) ∧
    ∀ name, name ≠ [] → (∀ c ∈ name, isBlank c = false ∧ c ≠ '(') →
      (noSuchColumn (columnText name) = some name ∧
        (expectedFound (columnText name) = none → unexpectedToken (columnText name) = none →
          isMissingFrom (columnText name) = false → ∀ position text,
          Rejection.friendlyWording ⟨columnText name, position⟩ text =
            "Error: column '" ++ name ++ "' does not exist")) ∧
      (noSuchTable (tableText name) = some name ∧
        (expectedFound (tableText name) = none → unexpectedToken (tableText name) = none →
          isMissingFrom (tableText name) = false → noSuchColumn (tableText name) = none →
          ∀ position text,
          Rejection.friendlyWording ⟨tableText name, position⟩ text =
            "Error: table '" ++ name ++ "' does not exist")) := by
  refine ⟨?_, ?_, ?_⟩
  · intro expected found ending hexpected hfound hnames hplace
    have hread := expectedFound_expectedText hexpected hfound hnames hplace ending
    refine ⟨hread, expected_expectedText hexpected hfound hnames hplace ending, ?_⟩
    intro position text
    simp only [Rejection.friendlyWording, Rejection.familyWording?, hread]
  · intro token hquote hline
    have hread := unexpectedToken_tokenText hquote hline
    refine ⟨hread, fun hexpected position text => ?_⟩
    simp only [Rejection.friendlyWording, Rejection.familyWording?, hexpected, hread]
  · intro name hne hname
    have hcolumn := noSuchColumn_columnText hne hname
    have htable := noSuchTable_tableText hne hname
    refine ⟨⟨hcolumn, ?_⟩, htable, ?_⟩
    · intro hexpected htoken hfrom position text
      simp [Rejection.friendlyWording, Rejection.familyWording?, hexpected, htoken, hfrom, hcolumn]
    · intro hexpected htoken hfrom hother position text
      simp [Rejection.friendlyWording, Rejection.familyWording?, hexpected, htoken, hfrom, hother,
        htable]

theorem complaints_read_back_sample :
    expectedFound (expectedText "an SQL statement,\nat line 3:" "at 'it'"
      (.lineColumn ⟨"1", by decide, by decide⟩ ⟨"7", by decide, by decide⟩)) =
        some ("an SQL statement,\nat line 3:".toList, "at 'it'".toList) ∧
      Rejection.friendlyWording ⟨tokenText ")", none⟩ "SELECT )" =
        "Syntax error: unexpected token ')'".toList ∧
      Rejection.friendlyWording ⟨columnText "a", some 3⟩ "SELECT a" =
        "Error: column 'a' does not exist".toList ∧
      Rejection.friendlyWording ⟨tableText "t", some 3⟩ "SELECT a" =
        "Error: table 't' does not exist".toList := by
  obtain ⟨hexpected, htoken, hname⟩ := complaints_read_back
  -- the letters that would have to begin `found`, `line` or `pos` do not occur
  have hfound : ¬NamesFound "an SQL statement,\nat line 3:" := by
    rintro ⟨before, c, word, after, htext, -, hword⟩
    have hletter : 'f' ∉ ("an SQL statement,\nat line 3:" : Text).map foldChar := by decide
    rw [htext] at hletter
    simp [hword] at hletter
  have hplace : ¬NamesPlace "at 'it'" := by
    rintro ⟨before, c, at_, blanks, word, after, htext, -, -, -, -, hword, -⟩
    have hletters :
        'l' ∉ ("at 'it'" : Text).map foldChar ∧ 'p' ∉ ("at 'it'" : Text).map foldChar := by
      decide
    rw [htext] at hletters
    rcases hword with hword | hword <;> simp [hword] at hletters
  obtain ⟨⟨-, hcolumn⟩, -⟩ := hname "a" (by decide) (List.forall_mem_singleton.mpr (by decide))
  obtain ⟨-, -, htable⟩ := hname "t" (by decide) (List.forall_mem_singleton.mpr (by decide))
  refine ⟨?_, ?_, ?_, ?_⟩
  · exact (hexpected _ _ _ (by decide) (by decide) hfound hplace).1
  · exact (htoken ")" (by decide) (by decide)).2 (by decide) none "SELECT )"
  · exact hcolumn (by decide) (by decide) (by decide) (some 3) "SELECT a"
  · exact htable (by decide) (by decide) (by decide) (by decide) (some 3) "SELECT a"

end Complaint
end QueryLint
