import QueryLint.Proofs.Coordinates
import QueryLint.Proofs.Phrases

/-!
The places that messages name. A message that names a line and a column is about the position with
these coordinates, if there is one. Locating it fails when they lead beyond a word, and for no other
cause.
-/

namespace QueryLint
namespace Rejection

open Text

section Places

/-- `at pos N`, in any letter case. -/
def BeginsPosition (text : Text) : Prop :=
  ∃ phrase digit rest, text = phrase ++ digit :: rest ∧ phrase.map foldChar = "at pos ".toList ∧
    isDecimalDigit digit

def NamesPosition (message : Text) : Prop :=
  ∃ before rest, message = before ++ rest ∧ (∀ c ∈ before.getLast?, isWordChar c = false) ∧
    BeginsPosition rest

/-- `Line: L, Column: C`, in any letter case. The second colon may be missing, and white space may
stand, or not, before the numbers and before the second word. -/
def BeginsLineColumn (text : Text) : Prop :=
  ∃ word blanks digits blanks' word' colon blanks'' digit rest,
    text = word ++ (blanks ++ (digits ++ ',' :: (blanks' ++ (word' ++ (colon ++
      (blanks'' ++ digit :: rest)))))) ∧
    word.map foldChar = "line:".toList ∧ allBlank blanks ∧
    digits ≠ [] ∧ (∀ c ∈ digits, isDecimalDigit c) ∧ allBlank blanks' ∧
    word'.map foldChar = "column".toList ∧ (colon = [] ∨ colon = [':']) ∧ allBlank blanks'' ∧
    isDecimalDigit digit

variable {text message rest : Text}

theorem exists_of_takeDigits? {digits : Text} (h : takeDigits? text = some (digits, rest)) :
    text = digits ++ rest ∧ digits ≠ [] ∧ ∀ c ∈ digits, isDecimalDigit c := by
  simp only [takeDigits?] at h
  split at h
  · cases h
  · rename_i hne
    obtain ⟨rfl, rfl⟩ := Prod.mk.inj (Option.some.inj h)
    exact ⟨List.takeWhile_append_dropWhile.symm, by simpa using hne,
      fun c hc => List.mem_takeWhile_imp hc⟩

theorem exists_eq_append_trimStart (text : Text) :
    ∃ blanks, text = blanks ++ trimStart text ∧ allBlank blanks :=
  ⟨text.takeWhile isBlank, List.takeWhile_append_dropWhile.symm,
    List.all_eq_true.mpr fun _ hc => List.mem_takeWhile_imp hc⟩

theorem exists_eq_append_dropColon (text : Text) :
    ∃ colon, text = colon ++ dropColon text ∧ (colon = [] ∨ colon = [':']) := by
  unfold dropColon
  split
  · exact ⟨[':'], rfl, .inr rfl⟩
  · exact ⟨[], rfl, .inl rfl⟩

theorem positionDigits?_eq_none (h : ¬NamesPosition message) : positionDigits? message = none := by
  refine firstAtWord?_eq_none fun front back hmessage _ hlast => ?_
  rw [Option.eq_none_iff_forall_ne_some]
  intro digits hdigits
  simp only [Option.bind_eq_bind, Option.bind_eq_some_iff] at hdigits
  obtain ⟨later, hphrase, ⟨number, rest⟩, hnumber, -⟩ := hdigits
  obtain ⟨phrase, rfl, hletters⟩ := dropPhrase?_eq_some_iff.mp hphrase
  obtain ⟨rfl, hne, hall⟩ := exists_of_takeDigits? hnumber
  obtain ⟨digit, number, rfl⟩ := List.exists_cons_of_ne_nil hne
  exact h ⟨front, _, hmessage, hlast, phrase, digit, number ++ rest, rfl, hletters,
    hall digit List.mem_cons_self⟩

def takeLineColumn? (text : Text) : Option (Text × Text) := do
  let rest ← dropPhrase? "line:" text
  let (line, rest) ← takeDigits? (trimStart rest)
  let rest ← dropPhrase? "," rest
  let rest ← dropPhrase? "column" (trimStart rest)
  let (column, _) ← takeDigits? (trimStart (dropColon rest))
  pure (line, column)

theorem lineColumnDigits?_eq (message : Text) :
    lineColumnDigits? message = first? takeLineColumn? message := rfl

theorem eq_comma_of_foldChar {c : Char} (h : foldChar c = ',') : c = ',' := by
  rw [foldChar] at h
  split_ifs at h with hkelvin hlongS
  · cases h
  · cases h
  · by_cases hupper : 'A'.val ≤ c.val ∧ c.val ≤ 'Z'.val
    · have hcode : 65 ≤ c.toNat ∧ c.toNat ≤ 90 := hupper
      have hall : ∀ code ∈ List.range' 65 26, asciiLowerChar (Char.ofNat code) ≠ ',' := by decide
      have hc := hall c.toNat (List.mem_range'_1.mpr (by omega))
      rw [Char.ofNat_toNat] at hc
      exact absurd h hc
    · have hlower : c.toLower = c := dif_neg hupper
      rwa [asciiLowerChar, hlower] at h

theorem beginsLineColumn_of_takeLineColumn? {found : Text × Text}
    (h : takeLineColumn? text = some found) : BeginsLineColumn text := by
  simp only [takeLineColumn?, Option.bind_eq_bind, Option.bind_eq_some_iff] at h
  obtain ⟨afterWord, hword, ⟨line, afterLine⟩, hline, afterComma, hcomma, afterWord', hword',
    ⟨column, rest⟩, hcolumn, -⟩ := h
  obtain ⟨word, rfl, hletters⟩ := dropPhrase?_eq_some_iff.mp hword
  obtain ⟨blanks, hblanks, hblank⟩ := exists_eq_append_trimStart afterWord
  obtain ⟨htrim, hlineNe, hlineDigits⟩ := exists_of_takeDigits? hline
  obtain ⟨comma, rfl, hcommaLetter⟩ := dropPhrase?_eq_some_iff.mp hcomma
  obtain ⟨blanks', hblanks', hblank'⟩ := exists_eq_append_trimStart afterComma
  obtain ⟨word', htrim', hletters'⟩ := dropPhrase?_eq_some_iff.mp hword'
  obtain ⟨colon, hcolons, hcolon⟩ := exists_eq_append_dropColon afterWord'
  obtain ⟨blanks'', hblanks'', hblank''⟩ := exists_eq_append_trimStart (dropColon afterWord')
  obtain ⟨htrim'', hcolumnNe, hcolumnDigits⟩ := exists_of_takeDigits? hcolumn
  obtain ⟨digit, column, rfl⟩ := List.exists_cons_of_ne_nil hcolumnNe
  obtain rfl : comma = [','] := by
    obtain ⟨c, nothing, rfl, hc, hnothing⟩ := List.map_eq_cons_iff.mp hcommaLetter
    rw [eq_comma_of_foldChar hc, List.map_eq_nil_iff.mp hnothing]
  refine ⟨word, blanks, line, blanks', word', colon, blanks'', digit, column ++ rest, ?_, hletters,
    hblank, hlineNe, hlineDigits, hblank', hletters', hcolon, hblank'',
    hcolumnDigits digit List.mem_cons_self⟩
  have hdigits : trimStart (dropColon afterWord') = digit :: (column ++ rest) := htrim''
  have hline : trimStart afterWord = line ++ ',' :: afterComma := htrim
  rw [← hdigits, ← hblanks'', ← hcolons, ← htrim', ← hblanks', ← hline, ← hblanks]

theorem takeLineColumn?_lineColumnText (line column : Numeral) {after : Text}
    (hafter : ∀ c ∈ after.head?, isDecimalDigit c = false) :
    takeLineColumn? (lineColumnText line column ++ after) = some (line.text, column.text) := by
  have htext : lineColumnText line column ++ after =
      "Line: " ++ (line.text ++ (", Column: " ++ (column.text ++ after))) := by
    -- stating the equation of the definition would unfold its string literals
    delta lineColumnText
    simp only [List.append_assoc]
  have hword (rest : Text) : dropPhrase? "line:" ("Line: " ++ rest) = some (" " ++ rest) := rfl
  have hspace (rest : Text) : trimStart (" " ++ rest) = trimStart rest := rfl
  have hcomma (rest : Text) : dropPhrase? "," (", Column: " ++ rest) = some (" Column: " ++ rest) :=
    rfl
  have hword' (rest : Text) :
      dropPhrase? "column" (trimStart (" Column: " ++ rest)) = some (": " ++ rest) := rfl
  have hcolon (rest : Text) : trimStart (dropColon (": " ++ rest)) = trimStart rest := rfl
  have hline : takeDigits? (line.text ++ (", Column: " ++ (column.text ++ after))) =
      some (line.text, ", Column: " ++ (column.text ++ after)) := by
    refine line.takeDigits?_append fun c hc => ?_
    obtain rfl : ',' = c := Option.some.inj hc
    decide
  simp only [htext, takeLineColumn?, hword, hspace, line.trimStart_append, hline, hcomma, hword',
    hcolon, column.trimStart_append, column.takeDigits?_append hafter, Option.bind_eq_bind,
    Option.bind_some]
  rfl

theorem lineColumnDigits?_append {before after : Text} (line column : Numeral)
    (hafter : ∀ c ∈ after.head?, isDecimalDigit c = false)
    (hfirst : ∀ front back, before ++ (lineColumnText line column ++ after) = front ++ back →
      BeginsLineColumn back → before.length ≤ front.length) :
    lineColumnDigits? (before ++ (lineColumnText line column ++ after)) =
      some (line.text, column.text) := by
  rw [lineColumnDigits?_eq]
  refine first?_append (takeLineColumn?_lineColumnText line column hafter) ?_
  intro front back hbefore hne
  rw [Option.eq_none_iff_forall_ne_some]
  intro found hfound
  have hlength := hfirst front (back ++ (lineColumnText line column ++ after))
    (by rw [hbefore, List.append_assoc]) (beginsLineColumn_of_takeLineColumn? hfound)
  have hpos := List.length_pos_iff.mpr hne
  rw [hbefore, List.length_append] at hlength
  omega

theorem lineColumn?_of_digits {line column : Numeral}
    (hdigits : lineColumnDigits? message = some (line.text, column.text)) :
    lineColumn? message =
      if line.value ≤ maxWord ∧ column.value ≤ maxWord then some (line.value, column.value)
      else none := by
  simp only [lineColumn?, hdigits, Option.bind_eq_bind, Option.bind_some, Numeral.readWord?_text]
  by_cases hline : line.value ≤ maxWord
  · by_cases hcolumn : column.value ≤ maxWord
    · simp [hline, hcolumn]
    · simp [hline, hcolumn]
  · simp [hline]

/-- A text that fits a word has no line that does not. -/
theorem offset?_of_maxWord_lt (htext : text.length < maxWord) {line : Nat} (hline : maxWord < line)
    (column : Nat) : offset? text line column = some none := by
  have hplace (position column : Nat) : coordinates text position ≠ (line, column) := by
    intro hcoordinates
    have hle := (coordinates_le text position).1
    rw [hcoordinates] at hle
    omega
  cases hoffset : offset? text line column with
  | none =>
    obtain ⟨start, -, hcoordinates, -⟩ := (offset?_eq_none_iff htext).mp hoffset
    exact absurd hcoordinates (hplace start 1)
  | some found =>
    cases found with
    | none => rfl
    | some position =>
      have hcoordinates := ((offset?_eq_some_some_iff htext).mp hoffset).2
      exact absurd hcoordinates (hplace position column)

theorem namedPosition?_of_digits {line column : Numeral}
    (hposition : positionDigits? message = none)
    (hdigits : lineColumnDigits? message = some (line.text, column.text))
    (htext : text.length < maxWord) :
    namedPosition? message text =
      if column.value ≤ maxWord then offset? text line.value column.value else some none := by
  simp only [namedPosition?, writtenPosition?, hposition, Option.bind_none,
    lineColumn?_of_digits hdigits]
  by_cases hcolumn : column.value ≤ maxWord
  · by_cases hline : line.value ≤ maxWord
    · simp [hline, hcolumn]
    · simp [hline, hcolumn, offset?_of_maxWord_lt htext (Nat.lt_of_not_le hline)]
  · simp [hcolumn]

end Places

/-- Positions and coordinates are the same thing: a line and a column lead to a position of the
text, its end included, if and only if they are its coordinates. There is no answer where a column,
counted from the start of its line, does not fit a word; every other pair leads nowhere. A message
whose first place is a line and a column is about the position with these coordinates. No text in
memory has as many characters as the greatest word says. -/
theorem offset?_coordinates {text : Text} (htext : text.length < maxWord) :
    (∀ line column position, offset? text line column = some (some position) ↔
      position ≤ text.length ∧ coordinates text position = (line, column)) ∧
    (∀ line column, offset? text line column = none ↔ Beyond text line column) ∧
    (∀ line column, offset? text line column = some none ↔ ¬Beyond text line column ∧
      (line = 0 ∨ column = 0 ∨ (splitLines text).length < line ∨
        ∃ l, (splitLines text)[line - 1]? = some l ∧ l.length + 1 < column)) ∧
    (∀ before after, ∀ line column : Numeral,
      (∀ c ∈ after.head?, isDecimalDigit c = false) →
      ¬NamesPosition (before ++ (lineColumnText line column ++ after)) →
      (∀ front back, before ++ (lineColumnText line column ++ after) = front ++ back →
        BeginsLineColumn back → before.length ≤ front.length) →
      locate? (before ++ (lineColumnText line column ++ after)) text =
        (if column.value ≤ maxWord then offset? text line.value column.value else some none).map
          (Rejection.mk (before ++ (lineColumnText line column ++ after)))) := by
  refine ⟨fun _ _ _ => offset?_eq_some_some_iff htext, fun _ _ => offset?_eq_none_iff htext,
    fun _ _ => offset?_eq_some_none_iff htext, ?_⟩
  intro before after line column hafter hposition hfirst
  rw [locate?, namedPosition?_of_digits (positionDigits?_eq_none hposition)
    (lineColumnDigits?_append line column hafter hfirst) htext]

theorem offset?_coordinates_second_line :
    coordinates "SELECT *\nFROM t" 11 = (2, 3) ∧
      (locate? ("at " ++ (lineColumnText ⟨"2", by decide, by decide⟩ ⟨"3", by decide, by decide⟩ ++
        ", near M")) "SELECT *\nFROM t").map (·.position) = some (some 11) := by
  have htext : List.length ("SELECT *\nFROM t" : Text) < maxWord := by decide
  obtain ⟨hsome, -, -, hlocate⟩ := offset?_coordinates htext
  have hcoordinates : coordinates "SELECT *\nFROM t" 11 = (2, 3) := by decide
  refine ⟨hcoordinates, ?_⟩
  have hcomma : ∀ c ∈ (", near M" : Text).head?, isDecimalDigit c = false := by
    intro c hc
    obtain rfl : ',' = c := Option.some.inj hc
    decide
  rw [hlocate _ _ _ _ hcomma ?_ ?_]
  · have hoffset := (hsome 2 3 11).mpr ⟨by decide, hcoordinates⟩
    have hthree : digitsValue "3" ≤ maxWord := by decide
    show Option.map _ ((if digitsValue "3" ≤ maxWord then offset? _ 2 3 else some none).map _) = _
    rw [if_pos hthree, hoffset]
    rfl
  · -- no `p` stands in the message
    rintro ⟨before, rest, hmessage, -, phrase, digit, later, rfl, hphrase, -⟩
    have hletters : 'p' ∉ ("at Line: 2, Column: 3, near M" : Text).map foldChar := by decide
    apply hletters
    rw [show ("at Line: 2, Column: 3, near M" : Text) = _ from hmessage]
    simp only [List.map_append, hphrase]
    exact List.mem_append_right _ (List.mem_append_left _ (by decide))
  · -- no `l` stands before the place
    rintro front back hmessage ⟨word, blanks, digits, blanks', word', colon, blanks'', digit, rest,
      rfl, hword, -⟩
    obtain ⟨d, word, rfl, hd, -⟩ := List.map_eq_cons_iff.mp hword
    have hletters : 'l' ∉ (("at Line: 2, Column: 3, near M" : Text).take 3).map foldChar := by
      decide
    by_contra hlt
    have hlength : front.length + 1 ≤ 3 := Nat.lt_of_not_le hlt
    refine hletters (List.mem_map.mpr ⟨d, ?_, hd⟩)
    rw [show ("at Line: 2, Column: 3, near M" : Text) = _ from hmessage]
    refine List.take_subset_take_left _ hlength ?_
    simp [List.take_append]

/-- The second line starts after two characters, and the sum with the greatest column is two more
than a word holds. -/
theorem not_forall_offset?_eq_some_none :
    ¬∀ (text : Text) (line column : Nat), text.length < maxWord → line ≤ maxWord →
      column ≤ maxWord → (∀ position ≤ text.length, coordinates text position ≠ (line, column)) →
        offset? text line column = some none := by
  intro h
  have htext : List.length ("a\nb" : Text) < maxWord := by decide
  have hnone : offset? "a\nb" 2 maxWord = none := by decide
  have hnowhere : ∀ position ≤ List.length ("a\nb" : Text),
      coordinates "a\nb" position ≠ (2, maxWord) := by
    intro position hle hcoordinates
    have hsome := (offset?_eq_some_some_iff htext).mpr ⟨hle, hcoordinates⟩
    rw [hnone] at hsome
    cases hsome
  have hword := h "a\nb" 2 maxWord htext (by decide) (Nat.le_refl _) hnowhere
  rw [hnone] at hword
  cases hword

section Words

variable {text message : Text} {position : Nat}

/-- A message gives no position, and a column beyond a line. -/
def LeadsBeyond (message text : Text) : Prop :=
  writtenPosition? message = none ∧
    ∃ line column, lineColumn? message = some (line, column) ∧ Beyond text line column

def NamesPlace (message text : Text) (position : Nat) : Prop :=
  writtenPosition? message = some position ∨ writtenPosition? message = none ∧
    ∃ line column, lineColumn? message = some (line, column) ∧
      position ≤ text.length ∧ coordinates text position = (line, column)

theorem namedPosition?_eq_none_iff (htext : text.length < maxWord) :
    namedPosition? message text = none ↔ LeadsBeyond message text := by
  rw [namedPosition?, LeadsBeyond]
  cases writtenPosition? message with
  | some position => simp
  | none =>
    cases lineColumn? message with
    | none => simp
    | some place =>
      obtain ⟨line, column⟩ := place
      simp [offset?_eq_none_iff htext]

theorem namedPosition?_eq_some_iff (htext : text.length < maxWord) :
    namedPosition? message text = some (some position) ↔ NamesPlace message text position := by
  rw [namedPosition?, NamesPlace]
  cases writtenPosition? message with
  | some written => simp
  | none =>
    cases lineColumn? message with
    | none => simp
    | some place =>
      obtain ⟨line, column⟩ := place
      simp [offset?_eq_some_some_iff htext]

/-- Locating a rejection stays within the range of words unless its message gives no position and a
column so far beyond its line that, counted from the start of the line, it does not fit a word.
Otherwise the rejection is at the place that the message names. -/
theorem locate?_spec (message : Text) {text : Text} (htext : text.length < maxWord) :
    (locate? message text = none ↔ LeadsBeyond message text) ∧
      ∀ rejection, locate? message text = some rejection → rejection.message = message ∧
        ∀ position, rejection.position = some position ↔ NamesPlace message text position := by
  constructor
  · rw [locate?, Option.map_eq_none_iff, namedPosition?_eq_none_iff htext]
  · intro rejection hrejection
    obtain ⟨named, hnamed, rfl⟩ := Option.map_eq_some_iff.mp hrejection
    refine ⟨rfl, fun position => ?_⟩
    rw [← namedPosition?_eq_some_iff htext, hnamed, Option.some_inj]

theorem locate?_spec_second_line :
    LeadsBeyond "Line: 2, Column: 18446744073709551615" "a\nb" ∧
      NamesPlace "Line: 2, Column: 2" "a\nb" 3 := by
  have htext : List.length ("a\nb" : Text) < maxWord := by decide
  obtain ⟨hbeyond, -⟩ := locate?_spec "Line: 2, Column: 18446744073709551615" htext
  obtain ⟨-, hplace⟩ := locate?_spec "Line: 2, Column: 2" htext
  constructor
  · apply hbeyond.mp
    decide
  · apply ((hplace ⟨"Line: 2, Column: 2", some 3⟩ ?_).2 3).mp rfl
    decide

theorem not_forall_locate?_isSome :
    ¬∀ message text : Text, text.length < maxWord → (locate? message text).isSome := by
  intro h
  have hsome := h "Line: 2, Column: 18446744073709551615" "a\nb" (by decide)
  have hnone : locate? "Line: 2, Column: 18446744073709551615" "a\nb" = none := by decide
  rw [hnone] at hsome
  cases hsome

end Words

end Rejection
end QueryLint
