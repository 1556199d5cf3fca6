import QueryLint.Proofs.Trimming
import QueryLint.Rejection.Location

/-!
What the steps of a search take off the front of a text, and where a search succeeds: at the first
position from which its step does. Numbers are taken off as they are written.
-/

namespace QueryLint
namespace Text

section Steps

variable {phrase text rest : Text}

theorem dropPhrase?_eq_some_iff :
    dropPhrase? phrase text = some rest ↔
      ∃ word, text = word ++ rest ∧ word.map foldChar = phrase := by
  induction phrase generalizing text with
  | nil => simp [dropPhrase?, eq_comm]
  | cons letter letters ih =>
    cases text with
    | nil => simp [dropPhrase?]
    | cons c text =>
      rw [dropPhrase?]
      split
      · rename_i hc
        rw [ih]
        constructor
        · rintro ⟨word, rfl, rfl⟩
          exact ⟨c :: word, rfl, by rw [List.map_cons, hc]⟩
        · rintro ⟨word, htext, hword⟩
          obtain ⟨d, word, rfl, -, hletters⟩ := List.map_eq_cons_iff.mp hword
          obtain ⟨-, rfl⟩ := List.cons.inj htext
          exact ⟨word, rfl, hletters⟩
      · rename_i hc
        refine iff_of_false (by simp) ?_
        rintro ⟨word, htext, hword⟩
        obtain ⟨d, word, rfl, hd, -⟩ := List.map_eq_cons_iff.mp hword
        obtain ⟨rfl, -⟩ := List.cons.inj htext
        exact hc hd

/-- A phrase does not reach into what follows a text when that begins with no letter of it. -/
theorem dropPhrase?_append {after : Text} (h : ∀ c ∈ after.head?, foldChar c ∉ phrase)
    (text : Text) :
    dropPhrase? phrase (text ++ after) = (dropPhrase? phrase text).map (· ++ after) := by
  induction phrase generalizing text with
  | nil => rfl
  | cons letter letters ih =>
    cases text with
    | nil =>
      cases after with
      | nil => rfl
      | cons c after =>
        have hc : foldChar c ≠ letter := (List.ne_and_not_mem_of_not_mem_cons (h c rfl)).1
        simp [dropPhrase?, hc]
    | cons c text =>
      have hrest := ih (fun c hc hmem => h c hc (List.mem_cons_of_mem _ hmem)) text
      simp only [List.cons_append, dropPhrase?, hrest]
      split <;> rfl

theorem trimStart_append {after : Text} (h : ∃ c ∈ text, isBlank c = false) :
    trimStart (text ++ after) = trimStart text ++ after := by
  have hne : text.dropWhile isBlank ≠ [] := by
    obtain ⟨c, hc, hvisible⟩ := h
    intro hnil
    have hblank := List.dropWhile_eq_nil_iff.mp hnil c hc
    simp [hvisible] at hblank
  simp [trimStart, List.dropWhile_append, hne]

theorem dropBlanks?_append {after : Text} (h : ∃ c ∈ text, isBlank c = false) :
    dropBlanks? (text ++ after) = (dropBlanks? text).map (· ++ after) := by
  cases text with
  | nil => simp at h
  | cons c text =>
    simp only [List.cons_append, dropBlanks?]
    split
    · rename_i hc
      have hlater : ∃ d ∈ text, isBlank d = false := by
        obtain ⟨d, hd, hvisible⟩ := h
        rcases List.mem_cons.mp hd with rfl | hd
        · simp [hc] at hvisible
        · exact ⟨d, hd, hvisible⟩
      rw [trimStart_append hlater]
      rfl
    · rfl

theorem exists_of_dropBlanks? (h : dropBlanks? text = some rest) :
    ∃ blanks, text = blanks ++ rest ∧ blanks ≠ [] ∧ allBlank blanks := by
  cases text with
  | nil => cases h
  | cons c text =>
    rw [dropBlanks?] at h
    split at h
    · rename_i hc
      obtain rfl := Option.some.inj h
      refine ⟨c :: text.takeWhile isBlank, ?_, by simp, ?_⟩
      · rw [trimStart, List.cons_append, List.takeWhile_append_dropWhile]
      · simp only [allBlank, List.all_cons, hc, Bool.true_and, List.all_eq_true]
        exact fun d hd => List.mem_takeWhile_imp hd
    · cases h

end Steps

section Searches

variable {step : Text → Option α} {found : α}

theorem cutAt?_append {before rest : Text} (hrest : step rest = some found)
    (hbefore : ∀ front back, before = front ++ back → back ≠ [] → step (back ++ rest) = none) :
    cutAt? step (before ++ rest) = some (before, found) := by
  induction before with
  | nil => cases rest <;> simp [cutAt?, hrest]
  | cons c before ih =>
    have hnone : step (c :: (before ++ rest)) = none := hbefore [] (c :: before) rfl (by simp)
    have hlater := ih fun front back hfront => hbefore (c :: front) back (by rw [hfront]; rfl)
    rw [List.cons_append, cutAt?, hnone, hlater]
    rfl

theorem cutAt?_eq_none {text : Text} (h : ∀ front back, text = front ++ back → step back = none) :
    cutAt? step text = none := by
  induction text with
  | nil => simp [cutAt?, h [] [] rfl]
  | cons c text ih =>
    have hlater := ih fun front back hfront => h (c :: front) back (by rw [hfront]; rfl)
    rw [cutAt?, h [] (c :: text) rfl, hlater]
    rfl

theorem first?_of_head {text : Text} (h : step text = some found) :
    first? step text = some found := by
  cases text <;> simp [first?, cutAt?, h]

theorem first?_append {before rest : Text} (hrest : step rest = some found)
    (hbefore : ∀ front back, before = front ++ back → back ≠ [] → step (back ++ rest) = none) :
    first? step (before ++ rest) = some found := by
  rw [first?, cutAt?_append hrest hbefore]
  rfl

/-- A search that passes over the positions inside words fails when its step fails at all others. -/
theorem firstAtWord?_eq_none {text : Text} {inWord : Bool}
    (h : ∀ front back, text = front ++ back → (front = [] → inWord = false) →
      (∀ c ∈ front.getLast?, isWordChar c = false) → step back = none) :
    firstAtWord? step inWord text = none := by
  induction text generalizing inWord with
  | nil =>
    cases inWord with
    | false => simpa [firstAtWord?] using h [] [] rfl (fun _ => rfl) (by simp)
    | true => rfl
  | cons c text ih =>
    have hhere : (if inWord then none else step (c :: text)) = none := by
      cases inWord with
      | false => exact h [] (c :: text) rfl (fun _ => rfl) (by simp)
      | true => rfl
    rw [firstAtWord?, hhere]
    refine ih fun front back hfront hstart hlast => ?_
    refine h (c :: front) back (by rw [hfront]; rfl) (by simp) ?_
    cases front with
    | nil => simpa using hstart rfl
    | cons d front => simpa [List.getLast?_cons_cons] using hlast

end Searches

theorem isDecimalDigit_of_isDigit {c : Char} (h : c.isDigit) : isDecimalDigit c := by
  have hcode : c.toNat < 0x80 := by
    simp only [Char.isDigit, Bool.and_eq_true, decide_eq_true_eq, UInt32.le_iff_toNat_le] at h
    exact Nat.lt_of_le_of_lt h.2 (by decide)
  rw [isDecimalDigit, if_pos hcode, h]

theorem isBlank_of_isDigit {c : Char} (h : c.isDigit) : isBlank c = false := by
  have hcode : 48 ≤ c.toNat ∧ c.toNat ≤ 57 := by
    simp only [Char.isDigit, Bool.and_eq_true, decide_eq_true_eq, UInt32.le_iff_toNat_le] at h
    exact h
  rw [← Bool.not_eq_true, isBlank]
  simp only [inRanges, List.any_cons, List.any_nil, Bool.or_eq_true, Bool.and_eq_true,
    decide_eq_true_eq, Bool.or_false]
  omega

end Text

/-- A number as it is written: one or more ASCII digits. -/
structure Numeral where
  text : Text
  ne_nil : text ≠ []
  all_isDigit : text.all Char.isDigit

namespace Numeral

def value (numeral : Numeral) : Nat := Text.digitsValue numeral.text

variable (numeral : Numeral)

theorem isDigit : ∀ c ∈ numeral.text, c.isDigit := List.all_eq_true.mp numeral.all_isDigit

theorem takeDigits?_append {rest : Text} (h : ∀ c ∈ rest.head?, Text.isDecimalDigit c = false) :
    Rejection.takeDigits? (numeral.text ++ rest) = some (numeral.text, rest) := by
  have hdigits : ∀ c ∈ numeral.text, Text.isDecimalDigit c := fun c hc =>
    Text.isDecimalDigit_of_isDigit (numeral.isDigit c hc)
  have hrest : rest.takeWhile Text.isDecimalDigit = [] ∧
      rest.dropWhile Text.isDecimalDigit = rest := by
    cases rest with
    | nil => simp
    | cons c rest => simp [h c rfl]
  rw [Rejection.takeDigits?, List.takeWhile_append_of_pos hdigits,
    List.dropWhile_append_of_pos hdigits, hrest.1, hrest.2, List.append_nil]
  simp [numeral.ne_nil]

theorem trimStart_append (rest : Text) :
    Text.trimStart (numeral.text ++ rest) = numeral.text ++ rest := by
  obtain ⟨c, later, htext⟩ := List.exists_cons_of_ne_nil numeral.ne_nil
  have hc : Text.isBlank c = false :=
    Text.isBlank_of_isDigit (numeral.isDigit c (by rw [htext]; exact List.mem_cons_self))
  simp [htext, Text.trimStart, hc]

theorem readWord?_text :
    Text.readWord? numeral.text =
      if numeral.value ≤ Text.maxWord then some numeral.value else none := by
  rw [Text.readWord?, if_neg (by simp [numeral.ne_nil, numeral.all_isDigit])]
  rfl

end Numeral

/-- `Line: L, Column: C`. -/
def Rejection.lineColumnText (line column : Numeral) : Text :=
  "Line: " ++ (line.text ++ (", Column: " ++ column.text))

end QueryLint
