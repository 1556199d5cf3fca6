import Mathlib.Data.List.DropRight
import QueryLint.Text.CharClass

/-!
What trimming takes away and what it leaves: white space on both sides, and a text that begins
and ends with a visible character.
-/

namespace QueryLint

section Ends

variable {α : Type} {p q : α → Bool} {list front back : List α}

/-- What is cut off at the end of two lists reaches the first one only through the second. -/
theorem rdropWhile_append (p : α → Bool) (front back : List α) :
    (front ++ back).rdropWhile p =
      if (back.rdropWhile p).isEmpty then front.rdropWhile p else front ++ back.rdropWhile p := by
  simp only [List.rdropWhile, List.reverse_append, List.dropWhile_append, List.isEmpty_reverse]
  split_ifs <;> simp

theorem rdropWhile_append_of_last (h : ∀ a ∈ front.getLast?, p a = false) :
    (front ++ back).rdropWhile p = front ++ back.rdropWhile p := by
  rw [rdropWhile_append, ite_eq_right_iff, List.isEmpty_iff]
  intro hnil
  rw [hnil, List.append_nil, List.rdropWhile_eq_self_iff]
  intro hne
  simp [h _ (List.getLast?_eq_getLast_of_ne_nil hne)]

theorem rdropWhile_append_of_forall (h : ∀ a ∈ back, p a) :
    (front ++ back).rdropWhile p = front.rdropWhile p := by
  have hnil : back.rdropWhile p = [] := List.rdropWhile_eq_nil_iff.mpr h
  rw [rdropWhile_append, hnil]
  rfl

theorem getLast_rdropWhile {a : α} (ha : a ∈ (list.rdropWhile p).getLast?) : p a = false := by
  obtain ⟨hne, rfl⟩ := List.mem_getLast?_eq_getLast ha
  have hlast := List.rdropWhile_last_not p list hne
  exact Bool.not_eq_true _ |>.mp hlast

/-- It does not matter which end is cut first. -/
theorem dropWhile_rdropWhile (p q : α → Bool) (list : List α) :
    (list.rdropWhile q).dropWhile p = (list.dropWhile p).rdropWhile q := by
  have hfront : ∀ a ∈ list.takeWhile p, p a := fun a ha => List.mem_takeWhile_imp ha
  conv_lhs => rw [← List.takeWhile_append_dropWhile (p := p) (l := list), rdropWhile_append]
  split_ifs with hnil
  · -- what is left of the front is cut from the front as well
    rw [List.isEmpty_iff.mp hnil, List.dropWhile_eq_nil_iff]
    intro a ha
    exact hfront a ((List.rdropWhile_prefix q _).subset ha)
  · rw [List.dropWhile_append_of_pos hfront]
    obtain ⟨more, hmore⟩ := List.rdropWhile_prefix q (list.dropWhile p)
    obtain ⟨a, rest, hcons⟩ := List.exists_cons_of_ne_nil (mt List.isEmpty_iff.mpr hnil)
    have ha := List.head?_dropWhile_not p list
    rw [← hmore, hcons] at ha
    rw [hcons, List.dropWhile_cons_of_neg (by simpa using ha)]

end Ends

namespace Text

/-- A text is the white space before its trimmed part, that part, and the white space after it. -/
theorem eq_append_trim_append (text : Text) :
    ∃ after, allBlank after ∧ text = text.takeWhile isBlank ++ (trim text ++ after) := by
  refine ⟨(trimStart text).rtakeWhile isBlank, ?_, ?_⟩
  · simp only [allBlank, List.all_eq_true]
    intro c hc
    exact List.mem_rtakeWhile_imp hc
  · have hend : trim text ++ (trimStart text).rtakeWhile isBlank = trimStart text :=
      List.rdropWhile_append_rtakeWhile
    rw [hend]
    exact List.takeWhile_append_dropWhile.symm

theorem takeWhile_isBlank_trim (text : Text) : (trim text).takeWhile isBlank = [] := by
  have hfront : trim text <+: trimStart text := List.rdropWhile_prefix isBlank _
  cases htrim : trim text with
  | nil => rfl
  | cons c rest =>
    obtain ⟨after, hafter⟩ := htrim ▸ hfront
    have hc := List.head?_dropWhile_not isBlank text
    rw [show text.dropWhile isBlank = c :: (rest ++ after) from hafter.symm] at hc
    simp only [List.head?_cons] at hc
    simp [hc]

theorem head_trim {text : Text} {c : Char} (hc : c ∈ (trim text).head?) : isBlank c = false := by
  obtain ⟨rest, hrest⟩ := List.head?_eq_some_iff.mp hc
  have hnone := takeWhile_isBlank_trim text
  rw [hrest, List.takeWhile_cons] at hnone
  by_contra hblank
  simp [hblank] at hnone

theorem trimStart_trim (text : Text) : trimStart (trim text) = trim text := by
  have h : (trim text).takeWhile isBlank ++ trimStart (trim text) = trim text :=
    List.takeWhile_append_dropWhile
  rwa [takeWhile_isBlank_trim, List.nil_append] at h

@[simp] theorem trim_trim (text : Text) : trim (trim text) = trim text := by
  have hend : trimEnd (trim text) = trim text := List.rdropWhile_idempotent isBlank _
  rw [trim, trimStart_trim, hend]

theorem getLast_trimEnd {text : Text} {c : Char} (hc : c ∈ (trimEnd text).getLast?) :
    isBlank c = false := by
  have hlast : c ∈ (text.rdropWhile isBlank).getLast? := hc
  exact getLast_rdropWhile hlast

/-- White space is trimmed off the end of the last part that has more than that. -/
theorem trimEnd_append {front back : Text} (hback : ∃ c ∈ back, isBlank c = false) :
    trimEnd (front ++ back) = front ++ trimEnd back := by
  have hrest : ¬(back.rdropWhile isBlank).isEmpty := by
    obtain ⟨c, hc, hvisible⟩ := hback
    intro h
    have hall := List.rdropWhile_eq_nil_iff.mp (List.isEmpty_iff.mp h) c hc
    simp [hvisible] at hall
  exact (rdropWhile_append isBlank front back).trans (if_neg hrest)

theorem trimStart_trimEnd (text : Text) : trimStart (trimEnd text) = trim text :=
  dropWhile_rdropWhile isBlank isBlank text

end Text
end QueryLint
