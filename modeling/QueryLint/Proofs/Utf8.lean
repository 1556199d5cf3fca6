import Mathlib.Data.List.Nodup
import QueryLint.Text.Basic

/-!
Texts as they are stored. A character takes from one to four bytes, so that an offset in bytes may
lie inside a character; a piece can be taken only between two offsets that do not, and in order.
-/

namespace QueryLint.Utf8

def size : Text → Nat
  | [] => 0
  | c :: text => c.utf8Size + size text

/-- The byte offset of a position: the number of bytes before it. -/
def offset (text : Text) (position : Nat) : Nat := size (text.take position)

/-- The byte offsets that lie in no character: that of every character, and the end. -/
def boundaries (text : Text) : List Nat := (List.range (text.length + 1)).map (offset text)

/-- The piece of a text between two byte offsets. There is none unless the offsets are in order and
neither lies in a character. -/
def slice? (text : Text) (start stop : Nat) : Option Text :=
  if start ≤ stop ∧ start ∈ boundaries text ∧ stop ∈ boundaries text then
    some ((Span.mk ((boundaries text).idxOf start) ((boundaries text).idxOf stop)).slice text)
  else none

/-- A span of positions as a span of byte offsets. -/
def bytes (text : Text) (span : Span) : Span := ⟨offset text span.start, offset text span.stop⟩

@[simp] theorem size_nil : size [] = 0 := rfl

@[simp] theorem size_cons (c : Char) (text : Text) : size (c :: text) = c.utf8Size + size text :=
  rfl

@[simp] theorem size_append (text rest : Text) : size (text ++ rest) = size text + size rest := by
  induction text with
  | nil => simp
  | cons c text ih => simp [ih, Nat.add_assoc]

@[simp] theorem offset_zero (text : Text) : offset text 0 = 0 := by simp [offset]

@[simp] theorem offset_length (text : Text) : offset text text.length = size text := by
  simp [offset]

variable {text : Text} {position start stop : Nat}

theorem offset_succ {c : Char} {rest : Text} (h : text.drop position = c :: rest) :
    offset text (position + 1) = offset text position + c.utf8Size := by
  rw [offset, List.take_add, h]
  simp [offset]

theorem offset_lt_of_lt (h : start < stop) (hstop : stop ≤ text.length) :
    offset text start < offset text stop := by
  have hmiddle : (text.drop start).take (stop - start) ≠ [] := by
    rw [← List.length_pos_iff, List.length_take, List.length_drop]
    omega
  obtain ⟨c, rest, hrest⟩ := List.exists_cons_of_ne_nil hmiddle
  have hsplit : offset text stop =
      offset text start + size ((text.drop start).take (stop - start)) := by
    have htake : text.take stop = text.take start ++ (text.drop start).take (stop - start) := by
      rw [← List.take_add, Nat.add_sub_of_le (Nat.le_of_lt h)]
    rw [offset, htake, size_append, offset]
  have := c.utf8Size_pos
  rw [hsplit, hrest, size_cons]
  omega

theorem offset_le_of_le (h : start ≤ stop) (hstop : stop ≤ text.length) :
    offset text start ≤ offset text stop := by
  rcases Nat.eq_or_lt_of_le h with rfl | h
  · exact Nat.le_refl _
  · exact Nat.le_of_lt (offset_lt_of_lt h hstop)

theorem offset_inj (hstart : start ≤ text.length) (hstop : stop ≤ text.length) :
    offset text start = offset text stop ↔ start = stop := by
  refine ⟨fun h => ?_, fun h => by rw [h]⟩
  rcases Nat.lt_trichotomy start stop with hlt | heq | hlt
  · exact absurd h (Nat.ne_of_lt (offset_lt_of_lt hlt hstop))
  · exact heq
  · exact absurd h (Nat.ne_of_gt (offset_lt_of_lt hlt hstart))

theorem offset_lt_iff (hstart : start ≤ text.length) (hstop : stop ≤ text.length) :
    offset text start < offset text stop ↔ start < stop := by
  refine ⟨fun h => ?_, fun h => offset_lt_of_lt h hstop⟩
  by_contra hle
  have := offset_le_of_le (Nat.le_of_not_lt hle) hstart
  omega

theorem mem_boundaries_offset (h : position ≤ text.length) :
    offset text position ∈ boundaries text :=
  List.mem_map_of_mem (List.mem_range.mpr (by omega))

theorem idxOf_offset (h : position ≤ text.length) :
    (boundaries text).idxOf (offset text position) = position := by
  have hnodup : (boundaries text).Nodup := by
    refine List.Nodup.map_on ?_ List.nodup_range
    intro a ha b hb hab
    rw [List.mem_range] at ha hb
    exact (offset_inj (by omega) (by omega)).mp hab
  have hlength : position < (boundaries text).length := by simp [boundaries]; omega
  have hget : (boundaries text)[position] = offset text position := by simp [boundaries]
  rw [← hget]
  exact hnodup.idxOf_getElem position hlength

/-- Between the offsets of two positions in order stand the characters between the positions. -/
theorem slice?_offset (text : Text) (h : start ≤ stop) (hstop : stop ≤ text.length) :
    slice? text (offset text start) (offset text stop) =
      some ((Span.mk start stop).slice text) := by
  have hstart : start ≤ text.length := by omega
  rw [slice?, if_pos ⟨offset_le_of_le h hstop, mem_boundaries_offset hstart,
    mem_boundaries_offset hstop⟩, idxOf_offset hstart, idxOf_offset hstop]

example : slice? "aé" 0 2 = none ∧ slice? "aé" 0 3 = some ['a', 'é'] := by decide

end QueryLint.Utf8
