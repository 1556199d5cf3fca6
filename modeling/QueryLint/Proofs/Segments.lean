import Mathlib.Data.List.Basic
import QueryLint.Proofs.Separators
import QueryLint.Proofs.Trimming
import QueryLint.Script

/-!
The segments of a script. A segment begins in the code and holds no cut; what is left of it when
it is trimmed can be read on its own and still holds none.
-/

namespace QueryLint

namespace Script

/-- Where the reading of a text ends: the state, and what the next character would see as the one
before it. -/
def readFrom : State → Option Char → Text → State × Option Char
  | state, previous, [] => (state, previous)
  | state, previous, c :: rest =>
    readFrom (state.step previous c) (state.remember previous c) rest

theorem readFrom_append (state : State) (previous : Option Char) (before rest : Text) :
    readFrom state previous (before ++ rest) =
      readFrom (readFrom state previous before).1 (readFrom state previous before).2 rest := by
  induction before generalizing state previous with
  | nil => rfl
  | cons c before ih => simp [readFrom, ih]

theorem cutsFrom_append (state : State) (previous : Option Char) (position : Nat)
    (before rest : Text) :
    cutsFrom state previous position (before ++ rest) =
      cutsFrom state previous position before ++
        cutsFrom (readFrom state previous before).1 (readFrom state previous before).2
          (position + before.length) rest := by
  induction before generalizing state previous position with
  | nil => simp [cutsFrom, readFrom]
  | cons c before ih =>
    simp only [List.cons_append, cutsFrom, readFrom, ih, List.length_cons]
    rw [show position + 1 + before.length = position + (before.length + 1) by omega]
    split <;> simp

theorem cutsFrom_shift (state : State) (previous : Option Char) (position offset : Nat)
    (text : Text) :
    cutsFrom state previous (position + offset) text =
      (cutsFrom state previous position text).map (· + offset) := by
  induction text generalizing state previous position with
  | nil => rfl
  | cons c rest ih =>
    have hrest := ih (state.step previous c) (state.remember previous c) (position + 1)
    rw [Nat.add_right_comm] at hrest
    simp only [cutsFrom, hrest]
    split <;> rfl

theorem separators_cutsFrom (state : State) (previous : Option Char) (position : Nat)
    (text : Text) :
    Separators position (position + text.length) (cutsFrom state previous position text) := by
  induction text generalizing state previous position with
  | nil => exact ⟨by simp [cutsFrom], by simp [cutsFrom]⟩
  | cons c rest ih =>
    have hrest := ih (state.step previous c) (state.remember previous c) (position + 1)
    have hbounds : ∀ cut ∈ cutsFrom (state.step previous c) (state.remember previous c)
        (position + 1) rest, position + 1 ≤ cut ∧ cut < position + (rest.length + 1) := by
      intro cut hcut
      have := hrest.bounds cut hcut
      omega
    simp only [cutsFrom, List.length_cons]
    split
    · refine ⟨List.pairwise_cons.mpr ⟨fun cut hcut => (hbounds cut hcut).1, hrest.ascending⟩, ?_⟩
      intro cut hcut
      rcases List.mem_cons.mp hcut with rfl | hcut
      · omega
      · have := hbounds cut hcut
        omega
    · refine ⟨hrest.ascending, fun cut hcut => ?_⟩
      have := hbounds cut hcut
      omega

theorem separators_cuts (script : Text) : Separators 0 script.length (cuts script) := by
  have h := separators_cutsFrom .code none 0 script
  rwa [Nat.zero_add] at h

theorem of_mem_cuts {script : Text} {cut : Nat} (h : cut ∈ cuts script) :
    (readFrom .code none (script.take cut)).1 = .code ∧
      ∃ rest, script.drop cut = ';' :: rest := by
  have hcut := ((separators_cuts script).bounds cut h).2
  have hlength : (script.take cut).length = cut := by simp; omega
  cases hdrop : script.drop cut with
  | nil =>
    have := List.drop_eq_nil_iff.mp hdrop
    omega
  | cons c rest =>
    rw [cuts, ← List.take_append_drop cut script, hdrop, cutsFrom_append] at h
    simp only [hlength, Nat.zero_add, cutsFrom] at h
    rcases List.mem_append.mp h with h | h
    · have := ((separators_cutsFrom _ _ _ _).bounds cut h).2
      omega
    · split at h
      · rename_i hcode
        simp only [Bool.and_eq_true, decide_eq_true_eq] at hcode
        exact ⟨hcode.1, rest, by rw [hcode.2]⟩
      · have := ((separators_cutsFrom _ _ _ _).bounds cut h).1
        omega

/-- Whether the character before can open no comment together with the next one. -/
def OpensNone (previous : Option Char) : Prop := previous ≠ some '-' ∧ previous ≠ some '/'

/-- Where a character that opens no comment precedes a text, the cuts are those of the text on
its own. -/
theorem cutsFrom_code_eq {previous : Option Char} (h : OpensNone previous) (position : Nat)
    (text : Text) : cutsFrom .code previous position text = cutsFrom .code none position text := by
  cases text with
  | nil => rfl
  | cons c rest =>
    have hstep : State.code.step previous c = State.code.step none c := by
      simp [State.step, State.opensBlock, h.1, h.2]
    have hremember : State.code.remember previous c = State.code.remember none c := by
      simp [State.remember, State.opensBlock, State.closesBlock, h.2]
    simp only [cutsFrom, hstep, hremember]

theorem readFrom_blank {previous : Option Char} (h : OpensNone previous) {blanks : Text}
    (hblanks : Text.allBlank blanks) :
    (readFrom .code previous blanks).1 = .code ∧
      OpensNone (readFrom .code previous blanks).2 := by
  induction blanks generalizing previous with
  | nil => exact ⟨rfl, h⟩
  | cons c rest ih =>
    simp only [Text.allBlank, List.all_cons, Bool.and_eq_true] at hblanks
    have hne : ∀ d, Text.isBlank d = false → c ≠ d := by
      rintro d hd rfl
      simp [hblanks.1] at hd
    have hquote : c ≠ '\'' ∧ c ≠ '"' ∧ c ≠ '`' :=
      ⟨hne _ (by decide), hne _ (by decide), hne _ (by decide)⟩
    have hopen : c ≠ '-' ∧ c ≠ '/' ∧ c ≠ '*' :=
      ⟨hne _ (by decide), hne _ (by decide), hne _ (by decide)⟩
    have hstep : State.code.step previous c = .code := by
      simp [State.step, State.opensBlock, hquote, hopen]
    have hremember : State.code.remember previous c = some c := by
      simp [State.remember, State.opensBlock, State.closesBlock, hopen]
    simp only [readFrom, hstep, hremember]
    exact ih ⟨by simp [hopen], by simp [hopen]⟩ hblanks.2

theorem readFrom_append_semicolon {before : Text}
    (h : (readFrom .code none before).1 = .code) :
    readFrom .code none (before ++ [';']) = (.code, some ';') := by
  rw [readFrom_append, h]
  simp [readFrom, State.step, State.remember, State.opensBlock, State.closesBlock]

def segments (script : Text) : List Span := spansBetween 0 script.length (cuts script)

variable {script : Text} {segment : Span}

theorem segment_bounds (h : segment ∈ segments script) :
    segment.start ≤ segment.stop ∧ segment.stop ≤ script.length :=
  ((separators_cuts script).of_mem_spansBetween (Nat.zero_le _) h).1.2

theorem segments_pairwise (script : Text) : (segments script).Pairwise (·.stop < ·.start) :=
  (separators_cuts script).pairwise_spansBetween (Nat.zero_le _)

theorem readFrom_segment (h : segment ∈ segments script) :
    (readFrom .code none (script.take segment.start)).1 = .code ∧
      OpensNone (readFrom .code none (script.take segment.start)).2 := by
  obtain ⟨_, hstart, _⟩ := (separators_cuts script).of_mem_spansBetween (Nat.zero_le _) h
  rcases hstart with hstart | ⟨cut, hcut, hstart⟩
  · rw [hstart, List.take_zero]
    exact ⟨rfl, by decide, by decide⟩
  · obtain ⟨hcode, rest, hdrop⟩ := of_mem_cuts hcut
    have htake : script.take (cut + 1) = script.take cut ++ [';'] := by
      rw [List.take_add, hdrop]
      rfl
    rw [hstart, htake, readFrom_append_semicolon hcode]
    exact ⟨rfl, by decide, by decide⟩

/-- A segment holds no cut, not even when it is read on its own. -/
theorem cuts_segment (h : segment ∈ segments script) : cuts (segment.slice script) = [] := by
  obtain ⟨hle, hstop⟩ := segment_bounds h
  obtain ⟨hcode, hnone⟩ := readFrom_segment h
  obtain ⟨_, _, hfree⟩ := (separators_cuts script).of_mem_spansBetween (Nat.zero_le _) h
  set before := script.take segment.start with hbefore
  have hlength : before.length = segment.start := by simp [hbefore]; omega
  have hslice : (segment.slice script).length = segment.stop - segment.start :=
    Text.length_slice hstop
  have hsplit : script = before ++ (segment.slice script ++ script.drop segment.stop) :=
    segment.eq_append_slice_append script hle
  have hinside : cutsFrom .code none segment.start (segment.slice script) = [] := by
    rw [← cutsFrom_code_eq hnone]
    apply List.eq_nil_iff_forall_not_mem.mpr
    intro cut hcut
    have hbounds := (separators_cutsFrom _ _ _ _).bounds cut hcut
    have hmem : cut ∈ cuts script := by
      rw [cuts, hsplit, cutsFrom_append, cutsFrom_append, hcode, hlength, Nat.zero_add]
      exact List.mem_append_right _ (List.mem_append_left _ hcut)
    exact hfree cut hmem ⟨hbounds.1, by omega⟩
  have hshift := cutsFrom_shift .code none 0 segment.start (segment.slice script)
  rw [Nat.zero_add, hinside] at hshift
  exact List.map_eq_nil_iff.mp hshift.symm

/-- A text without cuts has none when it is trimmed. -/
theorem cuts_trim {text : Text} (h : cuts text = []) : cuts (Text.trim text) = [] := by
  obtain ⟨after, -, hsplit⟩ := Text.eq_append_trim_append text
  have hblanks : Text.allBlank (text.takeWhile Text.isBlank) := by
    simp only [Text.allBlank, List.all_eq_true]
    intro c hc
    exact List.mem_takeWhile_imp hc
  have hstart : OpensNone none := ⟨by simp, by simp⟩
  obtain ⟨hcode, hnone⟩ := readFrom_blank hstart hblanks
  rw [cuts, hsplit, cutsFrom_append, cutsFrom_append, hcode, cutsFrom_code_eq hnone] at h
  simp only [List.append_eq_nil_iff] at h
  have hshift := cutsFrom_shift .code none 0 (text.takeWhile Text.isBlank).length (Text.trim text)
  rw [h.2.1] at hshift
  exact List.map_eq_nil_iff.mp hshift.symm

end Script
end QueryLint
