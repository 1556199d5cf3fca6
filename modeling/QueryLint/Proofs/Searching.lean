import Mathlib.Data.List.Basic
import QueryLint.Proofs.WordList
import QueryLint.TableList

/-!
What searches and cuts find in a text that is put together from parts: the first field, the first
occurrence of a phrase, the last occurrence of a character, and what is left between two ends. These
are the steps that lead from a reference to a table to its bare name.
-/

namespace QueryLint
namespace Text

/-- What is dropped at both ends of a text, up to a middle part that neither end goes on into. -/
theorem dropWhile_around {p q : Char → Bool} {before middle after : Text} (hne : middle ≠ [])
    (hbefore : ∀ c ∈ before, p c) (hfirst : ∀ c ∈ middle.head?, p c = false)
    (hlast : ∀ c ∈ middle.getLast?, q c = false) (hafter : ∀ c ∈ after, q c) :
    dropWhileEnd q ((before ++ (middle ++ after)).dropWhile p) = middle := by
  have hfront : (before ++ (middle ++ after)).dropWhile p = middle ++ after := by
    obtain ⟨c, rest, rfl⟩ := List.exists_cons_of_ne_nil hne
    have hc : ¬p c := by simpa using hfirst c rfl
    rw [List.dropWhile_append_of_pos hbefore, List.cons_append, List.dropWhile_cons_of_neg hc]
  obtain ⟨init, c, rfl⟩ := (List.eq_nil_or_concat' middle).resolve_left hne
  have hc : ¬q c := by simpa using hlast c (by simp)
  have hback : ∀ d ∈ after.reverse, q d := fun d hd => hafter d (List.mem_reverse.mp hd)
  rw [hfront, dropWhileEnd, List.reverse_append, List.dropWhile_append_of_pos hback,
    List.reverse_append, List.reverse_singleton, List.singleton_append,
    List.dropWhile_cons_of_neg hc]
  simp

theorem dropWhile_self {p q : Char → Bool} {text : Text} (hne : text ≠ [])
    (hfirst : ∀ c ∈ text.head?, p c = false) (hlast : ∀ c ∈ text.getLast?, q c = false) :
    dropWhileEnd q (text.dropWhile p) = text := by
  have hnone : ∀ c ∈ ([] : Text), p c ∧ q c := by simp
  have h := dropWhile_around hne (fun c hc => (hnone c hc).1) hfirst hlast fun c hc => (hnone c hc).2
  rwa [List.nil_append, List.append_nil] at h

theorem headD_fields {front rest : Text} (hne : front ≠ [])
    (hfront : ∀ c ∈ front, isBlank c = false) (hrest : ∀ c ∈ rest.head?, isBlank c) :
    (fields (front ++ rest)).headD [] = front := by
  have hruns : runsOf (fun c => !isBlank c) (front ++ rest) = ⟨0, 0 + front.length⟩ ::
      runsFrom (0 + front.length) (rest.map fun c => !isBlank c) := by
    have hrun : ∀ flag ∈ front.map fun c => !isBlank c, flag = true := by simpa using hfront
    have hnext : ∀ flag ∈ (rest.map fun c => !isBlank c).head?, flag = false := by
      simpa using hrest
    rw [runsOf, List.map_append, runsFrom_run_append 0 (by simpa using hne) hrun hnext,
      List.length_map]
  rw [fields, hruns, List.map_cons, List.headD_cons]
  simp [Span.slice]

section Find

variable {needle front back : Text} {d : Char}

theorem find?_append_of_not_mem (hfront : d ∉ front) (back : Text) :
    find? (d :: needle) (front ++ back) = (find? (d :: needle) back).map (front.length + ·) := by
  induction front with
  | nil => simp
  | cons c front ih =>
    obtain ⟨hc, hrest⟩ := not_or.mp (mt List.mem_cons.mpr hfront)
    have hnot : (d :: needle).isPrefixOf (c :: (front ++ back)) = false := by
      simp [List.isPrefixOf, hc]
    rw [List.cons_append, find?, hnot, ih hrest, if_neg Bool.false_ne_true, Option.map_map]
    congr 1
    funext position
    simp only [Function.comp_apply, List.length_cons]
    omega

theorem find?_lt_of_append {position : Nat} (hback : find? needle back = none)
    (h : find? needle (front ++ back) = some position) : position < front.length := by
  induction front generalizing position with
  | nil =>
    rw [List.nil_append, hback] at h
    cases h
  | cons c front ih =>
    rw [List.cons_append, find?] at h
    split at h
    · cases h
      simp
    · obtain ⟨later, hlater, rfl⟩ := Option.map_eq_some_iff.mp h
      have := ih hlater
      simp only [List.length_cons]
      omega

theorem find?_bounds {text : Text} {position : Nat} (h : find? needle text = some position) :
    position ≤ text.length := by
  induction text generalizing position with
  | nil =>
    simp only [find?] at h
    split at h <;> simp_all
  | cons c rest ih =>
    simp only [find?] at h
    split at h
    · cases h
      exact Nat.zero_le _
    · obtain ⟨position, hposition, rfl⟩ := Option.map_eq_some_iff.mp h
      have := ih hposition
      simp only [List.length_cons]
      omega

end Find

theorem findLast?_eq_none {c : Char} {text : Text} (h : c ∉ text) : findLast? c text = none := by
  induction text with
  | nil => rfl
  | cons d text ih =>
    obtain ⟨hd, hrest⟩ := not_or.mp (mt List.mem_cons.mpr h)
    have hne : d ≠ c := fun hdc => hd hdc.symm
    simp [findLast?, ih hrest, hne]

theorem findLast?_append_cons {c : Char} {back : Text} (h : c ∉ back) (front : Text) :
    findLast? c (front ++ c :: back) = some front.length := by
  induction front with
  | nil => simp [findLast?, findLast?_eq_none h]
  | cons d front ih => simp [findLast?, ih]

theorem drop_findLast? {c : Char} {text : Text} {position : Nat} (h : findLast? c text = some position) :
    ∃ rest, text.drop position = c :: rest := by
  induction text generalizing position with
  | nil => cases h
  | cons d rest ih =>
    simp only [findLast?] at h
    split at h
    · rename_i later hlater
      cases h
      exact ih hlater
    · split at h
      · rename_i hd
        cases h
        exact ⟨rest, by rw [hd]; rfl⟩
      · cases h

@[simp] theorem isBlank_asciiUpperChar (c : Char) : isBlank (asciiUpperChar c) = isBlank c := by
  by_cases hlower : 'a'.val ≤ c.val ∧ c.val ≤ 'z'.val
  · have hcode : 97 ≤ c.toNat ∧ c.toNat ≤ 122 := hlower
    have hall : ∀ code ∈ List.range' 97 26,
        isBlank (asciiUpperChar (Char.ofNat code)) = isBlank (Char.ofNat code) := by
      decide +kernel
    have hc := hall c.toNat (List.mem_range'_1.mpr (by omega))
    rwa [Char.ofNat_toNat] at hc
  · have hupper : c.toUpper = c := dif_neg hlower
    rw [asciiUpperChar, hupper]

section Alias

variable {front word blanks : Text}

theorem isBlank_map_asciiUpperChar {flag : Bool} {text : Text}
    (h : ∀ c ∈ text, isBlank c = flag) : ∀ c ∈ text.map asciiUpperChar, isBlank c = flag := by
  intro c hc
  obtain ⟨d, hd, rfl⟩ := List.mem_map.mp hc
  rw [isBlank_asciiUpperChar, h d hd]

theorem not_mem_space (h : ∀ c ∈ word, isBlank c = false) : ' ' ∉ word :=
  fun hspace => absurd (h ' ' hspace) (by decide)

/-- The word AS is looked for between spaces, so not in a field. -/
theorem find?_as_append (hfront : ∀ c ∈ front, isBlank c = false) (back : Text) :
    find? " AS " ((front ++ back).map asciiUpperChar) =
      (find? " AS " (back.map asciiUpperChar)).map (front.length + ·) := by
  have hspace := not_mem_space (isBlank_map_asciiUpperChar hfront)
  rw [List.map_append, ← List.length_map asciiUpperChar]
  exact find?_append_of_not_mem hspace _

/-- No white space follows the last field of a text. -/
theorem find?_as_eq_none (hblanks : ∀ c ∈ blanks, isBlank c) (hword : ∀ c ∈ word, isBlank c = false) :
    find? " AS " ((blanks ++ word).map asciiUpperChar) = none := by
  show find? [' ', 'A', 'S', ' '] ((blanks ++ word).map asciiUpperChar) = none
  induction blanks with
  | nil =>
    have hnone := find?_as_append hword []
    rwa [List.append_nil] at hnone
  | cons c blanks ih =>
    obtain ⟨hc, hblanks⟩ := List.forall_mem_cons.mp hblanks
    have hnot : List.isPrefixOf [' ', 'A', 'S', ' '] ((c :: (blanks ++ word)).map asciiUpperChar) =
        false := by
      by_contra h
      obtain ⟨after, hafter⟩ := List.isPrefixOf_iff_prefix.mp (Bool.not_eq_false _ |>.mp h)
      obtain ⟨-, hrest⟩ := List.cons.inj hafter
      cases blanks with
      | nil =>
        refine not_mem_space (isBlank_map_asciiUpperChar hword) ?_
        rw [← List.nil_append word, ← hrest]
        simp
      | cons b blanks =>
        have hb : isBlank (asciiUpperChar b) := by
          rw [isBlank_asciiUpperChar, hblanks b List.mem_cons_self]
        obtain ⟨hupper, -⟩ := List.cons.inj hrest
        rw [← hupper] at hb
        exact absurd hb (by decide)
    rw [List.cons_append, List.map_cons, find?, ← List.map_cons, hnot, ih hblanks]
    rfl

end Alias

end Text

section BareName

def withoutAlias (reference : Text) : Text :=
  match Text.find? " AS " (reference.map Text.asciiUpperChar) with
  | some position => reference.take position
  | none => (Text.fields reference).headD []

def withoutQualifier (name : Text) : Text :=
  match Text.findLast? '.' name with
  | some position => name.drop (position + 1)
  | none => name

theorem bareName_eq (reference : Text) :
    bareName reference =
      Text.dropWhileEnd isNameQuote ((withoutQualifier (Text.dropWhileEnd (· = ')')
        ((Text.trim (withoutAlias (Text.trim reference))).dropWhile (· = '(')))).dropWhile
          isNameQuote) := by
  cases halias : Text.find? " AS " ((Text.trim reference).map Text.asciiUpperChar) with
  | none =>
    cases hdot : Text.findLast? '.' (Text.dropWhileEnd (· = ')')
      ((Text.trim ((Text.fields (Text.trim reference)).headD [])).dropWhile (· = '('))) <;>
        simp only [bareName, withoutAlias, withoutQualifier, halias, hdot]
  | some position =>
    cases hdot : Text.findLast? '.' (Text.dropWhileEnd (· = ')')
      ((Text.trim ((Text.trim reference).take position)).dropWhile (· = '('))) <;>
        simp only [bareName, withoutAlias, withoutQualifier, halias, hdot]

end BareName

end QueryLint
