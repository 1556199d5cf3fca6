import Mathlib.Data.List.Forall2
import QueryLint.Proofs.ScriptCuts
import QueryLint.Proofs.Segments

/-!
Where the statements of a script stand. A statement takes up what the white space at the ends of a
segment leaves of it, so that only white space and the semicolons that cut the script stand
outside the statements. Two scripts with a semicolon between them have the statements of both.
-/

namespace QueryLint

namespace Script

/-- A span of a script from which a statement is taken, and the line on which it starts. -/
structure Placed (script : Text) (statement : Statement) (span : Span) : Prop where
  start_le_stop : span.start ≤ span.stop
  stop_le_length : span.stop ≤ script.length
  slice : span.slice script = statement.sql
  line : statement.line = (script.take span.start).count '\n' + 1

/-- The statement that takes up a span of a script. -/
def statementAt (script : Text) (span : Span) : Statement :=
  ⟨(script.take span.start).count '\n' + 1, span.slice script⟩

/-- What is left of a segment without the white space at its ends, if anything is. -/
def placeOf? (script : Text) (segment : Span) : Option Span :=
  let piece := segment.slice script
  let start := segment.start + (piece.takeWhile Text.isBlank).length
  if Text.trim piece = [] then none else some ⟨start, start + (Text.trim piece).length⟩

def places (script : Text) : List Span := (segments script).filterMap (placeOf? script)

variable {script : Text} {segment place : Span}

theorem of_placeOf (hle : segment.start ≤ segment.stop) (hstop : segment.stop ≤ script.length)
    (h : placeOf? script segment = some place) :
    segment.start ≤ place.start ∧ place.start < place.stop ∧ place.stop ≤ segment.stop ∧
      place.slice script = Text.trim (segment.slice script) := by
  simp only [placeOf?] at h
  split at h
  · cases h
  rename_i hne
  cases h
  obtain ⟨after, -, hpiece⟩ := Text.eq_append_trim_append (segment.slice script)
  set blanks := (segment.slice script).takeWhile Text.isBlank
  set sql := Text.trim (segment.slice script)
  have hsql : 0 < sql.length := List.length_pos_iff.mpr hne
  have hlength : blanks.length + (sql.length + after.length) = segment.stop - segment.start := by
    rw [← Text.length_slice hstop, hpiece]
    simp
  have hscript : script = (script.take segment.start ++ blanks) ++
      (sql ++ (after ++ script.drop segment.stop)) := by
    have hsplit := segment.eq_append_slice_append script hle
    rw [hpiece] at hsplit
    simpa using hsplit
  have hstart : (script.take segment.start ++ blanks).length = segment.start + blanks.length := by
    simp; omega
  have hslice := Text.slice_append (script.take segment.start ++ blanks) sql
    (after ++ script.drop segment.stop)
  rw [hstart, ← hscript] at hslice
  exact ⟨by simp, by simp; omega, by simp; omega, hslice⟩

theorem statementOf?_eq (hle : segment.start ≤ segment.stop) (hstop : segment.stop ≤ script.length) :
    statementOf? script segment = (placeOf? script segment).map (statementAt script) := by
  by_cases hnil : Text.trim (segment.slice script) = []
  · simp [statementOf?, placeOf?, hnil]
  · have hplace : placeOf? script segment = some _ := if_neg hnil
    have hslice := (of_placeOf hle hstop hplace).2.2.2
    simp only [hplace, Option.map_some, statementAt, hslice]
    simp [statementOf?, hnil]

theorem statements_eq_map_places (script : Text) :
    statements script = (places script).map (statementAt script) := by
  rw [places, List.map_filterMap]
  refine List.filterMap_congr fun segment hsegment => ?_
  obtain ⟨hle, hstop⟩ := segment_bounds hsegment
  exact statementOf?_eq hle hstop

theorem exists_segment_of_mem_places (h : place ∈ places script) :
    ∃ segment ∈ segments script, segment.start ≤ place.start ∧ place.start < place.stop ∧
      place.stop ≤ segment.stop ∧ place.slice script = Text.trim (segment.slice script) := by
  obtain ⟨segment, hsegment, hplace⟩ := List.mem_filterMap.mp h
  obtain ⟨hle, hstop⟩ := segment_bounds hsegment
  exact ⟨segment, hsegment, of_placeOf hle hstop hplace⟩

theorem forall₂_placed (script : Text) :
    List.Forall₂ (Placed script) (statements script) (places script) := by
  rw [statements_eq_map_places, List.forall₂_map_left_iff, List.forall₂_same]
  intro place hplace
  obtain ⟨segment, hsegment, -, hlt, hstop, -⟩ := exists_segment_of_mem_places hplace
  have := segment_bounds hsegment
  exact ⟨by omega, by omega, rfl, rfl⟩

/-- A semicolon that cuts the script stands between any two places. -/
theorem pairwise_places (script : Text) :
    (places script).Pairwise fun place later =>
      ∃ cut ∈ cuts script, place.stop ≤ cut ∧ cut < later.start := by
  have hsegments : (segments script).Pairwise fun segment later =>
      segment ∈ segments script ∧ later ∈ segments script ∧ segment.stop < later.start :=
    (segments_pairwise script).imp_of_mem fun hsegment hlater hlt => ⟨hsegment, hlater, hlt⟩
  refine hsegments.filterMap _ ?_
  rintro segment later ⟨hsegment, hlater, hlt⟩ place hplace next hnext
  obtain ⟨hle, hstop⟩ := segment_bounds hsegment
  obtain ⟨hle', hstop'⟩ := segment_bounds hlater
  have hplace := of_placeOf hle hstop hplace
  have hnext := of_placeOf hle' hstop' hnext
  -- Only the last segment ends without a cut, and another one starts behind this one.
  have hcut : segment.stop ∈ cuts script := by
    refine (Separators.stop_of_mem_spansBetween hsegment).resolve_left fun hlast => ?_
    omega
  exact ⟨segment.stop, hcut, by omega, by omega⟩

theorem not_covers_of_mem_cuts (h : place ∈ places script) {cut : Nat} (hcut : cut ∈ cuts script) :
    ¬place.Covers cut := by
  obtain ⟨segment, hsegment, hstart, -, hstop, -⟩ := exists_segment_of_mem_places h
  obtain ⟨-, -, hfree⟩ := (separators_cuts script).of_mem_spansBetween (Nat.zero_le _) hsegment
  rintro ⟨hle, hlt⟩
  exact hfree cut hcut ⟨by omega, by omega⟩

theorem mem_or_mem_of_getElem? {front middle back : Text} {index : Nat} {c : Char}
    (h : (front ++ (middle ++ back))[index]? = some c)
    (houtside : ¬(front.length ≤ index ∧ index < front.length + middle.length)) :
    c ∈ front ∨ c ∈ back := by
  rw [List.getElem?_append] at h
  split at h
  · exact .inl (List.mem_of_getElem? h)
  · rw [List.getElem?_append] at h
    split at h
    · omega
    · exact .inr (List.mem_of_getElem? h)

theorem isBlank_of_not_covers (hsegment : segment ∈ segments script) {position : Nat} {c : Char}
    (hcovers : segment.Covers position) (hc : script[position]? = some c)
    (h : ∀ place ∈ placeOf? script segment, ¬place.Covers position) : Text.isBlank c := by
  obtain ⟨hle, hstop⟩ := segment_bounds hsegment
  obtain ⟨hstart, hlt⟩ := hcovers
  have hindex : (segment.slice script)[position - segment.start]? = some c := by
    rw [Span.slice, List.getElem?_take_of_lt (by omega), List.getElem?_drop,
      Nat.add_sub_of_le hstart, hc]
  obtain ⟨after, hafter, hpiece⟩ := Text.eq_append_trim_append (segment.slice script)
  rw [hpiece] at hindex
  have hmem := mem_or_mem_of_getElem? hindex ?_
  · rcases hmem with hfront | hback
    · exact List.mem_takeWhile_imp hfront
    · exact List.all_eq_true.mp hafter c hback
  · rintro ⟨hfirst, hlast⟩
    by_cases hnil : Text.trim (segment.slice script) = []
    · rw [hnil] at hlast
      simp at hlast
      omega
    · have hplace : placeOf? script segment = some _ := if_neg hnil
      exact h _ hplace ⟨by simp; omega, by simp; omega⟩

/-- Outside the places stand only white space and cuts. -/
theorem isBlank_or_mem_cuts {position : Nat} {c : Char} (hc : script[position]? = some c)
    (h : ∀ place ∈ places script, ¬place.Covers position) :
    Text.isBlank c ∨ position ∈ cuts script := by
  have hlt : position < script.length := (List.getElem?_eq_some_iff.mp hc).1
  rcases (separators_cuts script).mem_or_exists_covers (Nat.zero_le _) hlt with
    hcut | ⟨segment, hsegment, hcovers⟩
  · exact .inr hcut
  · refine .inl (isBlank_of_not_covers hsegment hcovers hc fun place hplace => ?_)
    exact h place (List.mem_filterMap.mpr ⟨segment, hsegment, hplace⟩)

/-- The statements of a script stand in it one after the other, each from its first visible
character to its last and on the line of the first. What stands outside them is white space and the
semicolons of the code; such a semicolon stands between any two statements, and none in one. -/
theorem statements_cover (script : Text) :
    ∃ spans : List Span,
      List.Forall₂ (Placed script) (statements script) spans ∧
      (∀ statement ∈ statements script, (∃ c ∈ statement.sql.head?, Text.isBlank c = false) ∧
        ∃ c ∈ statement.sql.getLast?, Text.isBlank c = false) ∧
      (spans.Pairwise fun span later =>
        ∃ cut, SemicolonAt script cut ∧ span.stop ≤ cut ∧ cut < later.start) ∧
      (∀ span ∈ spans, ∀ position, span.Covers position → ¬SemicolonAt script position) ∧
      ∀ position c, script[position]? = some c → (∀ span ∈ spans, ¬span.Covers position) →
        Text.isBlank c ∨ SemicolonAt script position := by
  simp only [← mem_cuts_iff]
  refine ⟨places script, forall₂_placed script, ?ends, pairwise_places script, ?inside, ?outside⟩
  case ends =>
    intro statement hstatement
    rw [statements_eq_map_places] at hstatement
    obtain ⟨place, hplace, rfl⟩ := List.mem_map.mp hstatement
    obtain ⟨segment, hsegment, -, hlt, hstop, hslice⟩ := exists_segment_of_mem_places hplace
    have hne : place.slice script ≠ [] := by
      have hbounds := segment_bounds hsegment
      rw [← List.length_pos_iff, Text.length_slice (by omega)]
      omega
    simp only [statementAt]
    rw [hslice] at hne ⊢
    obtain ⟨first, hfirst⟩ := Option.isSome_iff_exists.mp (List.isSome_head?.mpr hne)
    obtain ⟨last, hlast⟩ := Option.isSome_iff_exists.mp (List.getLast?_isSome.mpr hne)
    exact ⟨⟨first, hfirst, Text.head_trim hfirst⟩, ⟨last, hlast, Text.getLast_trimEnd hlast⟩⟩
  case inside =>
    intro place hplace position hcovers hcut
    exact not_covers_of_mem_cuts hplace hcut hcovers
  case outside =>
    intro position c hc h
    exact isBlank_or_mem_cuts hc h

/-! ## Two scripts with a semicolon between them -/

theorem Agrees.readFrom {mode : Scan.Mode} {state : State} {previous : Option Char} {text : Text}
    (h : Agrees mode state previous text) :
    Agrees (Scan.endMode mode text) (readFrom state previous text).1
      (readFrom state previous text).2 [] := by
  induction text generalizing mode state previous with
  | nil => exact h
  | cons c rest ih => exact ih h.step

theorem readFrom_of_endMode {text : Text} (h : Scan.endMode .code text = .code) :
    (readFrom .code none text).1 = .code := by
  have hagrees : Agrees (Scan.endMode .code text) (readFrom .code none text).1
      (readFrom .code none text).2 [] := Agrees.readFrom (.code (by simp) (by simp))
  rw [h] at hagrees
  -- With nothing left to read, the readings cannot differ about the opening of a comment.
  generalize readFrom .code none text = ended at hagrees
  obtain ⟨state, previous⟩ := ended
  cases hagrees
  rfl

variable {front : Text}

theorem cuts_append_semicolon (h : Scan.endMode .code front = .code) (back : Text) :
    cuts (front ++ ';' :: back) =
      cuts front ++ front.length :: (cuts back).map (· + (front.length + 1)) := by
  have hopens : OpensNone (some ';') := ⟨by decide, by decide⟩
  have hstep (previous : Option Char) : State.code.step previous ';' = .code ∧
      State.code.remember previous ';' = some ';' := by
    simp [State.step, State.remember, State.opensBlock, State.closesBlock]
  have hback := cutsFrom_shift .code none 0 (front.length + 1) back
  rw [Nat.zero_add] at hback
  rw [cuts, cutsFrom_append, readFrom_of_endMode h, cutsFrom, (hstep _).1, (hstep _).2,
    cutsFrom_code_eq hopens, Nat.zero_add, hback]
  rfl

theorem segments_append_semicolon (h : Scan.endMode .code front = .code) (back : Text) :
    segments (front ++ ';' :: back) =
      segments front ++ (segments back).map (·.moved (front.length + 1)) := by
  have hlength : (front ++ ';' :: back).length = back.length + (front.length + 1) := by
    simp; omega
  have hback := spansBetween_map_add 0 back.length (front.length + 1) (cuts back)
  rw [Nat.zero_add] at hback
  rw [segments, cuts_append_semicolon h, spansBetween_append_cons, hlength, hback]
  rfl

theorem placeOf?_append_left (hstop : segment.stop ≤ front.length) (back : Text) :
    placeOf? (front ++ back) segment = placeOf? front segment := by
  simp only [placeOf?, Span.slice_append_left hstop]

theorem placeOf?_append_right (segment : Span) (front back : Text) :
    placeOf? (front ++ back) (segment.moved front.length) =
      (placeOf? back segment).map (·.moved front.length) := by
  simp only [placeOf?, Span.slice_append_right]
  split
  · rfl
  · simp only [Option.map_some, Span.moved, Option.some.injEq, Span.mk.injEq]
    omega

theorem places_append_semicolon (h : Scan.endMode .code front = .code) (back : Text) :
    places (front ++ ';' :: back) =
      places front ++ (places back).map (·.moved (front.length + 1)) := by
  -- The segments of the first part see none of the semicolon, those of the second start after it.
  have hsplit : front ++ ';' :: back = (front ++ [';']) ++ back := by simp
  have hlength : front.length + 1 = (front ++ [';']).length := by simp
  rw [places, segments_append_semicolon h, List.filterMap_append]
  congr 1
  · refine List.filterMap_congr fun segment hsegment => ?_
    exact placeOf?_append_left (segment_bounds hsegment).2 _
  · rw [List.filterMap_map, places, List.map_filterMap]
    refine List.filterMap_congr fun segment _ => ?_
    rw [Function.comp_apply, hsplit, hlength]
    exact placeOf?_append_right segment (front ++ [';']) back

theorem statementAt_append_left (hle : place.start ≤ place.stop) (hstop : place.stop ≤ front.length)
    (back : Text) : statementAt (front ++ back) place = statementAt front place := by
  rw [statementAt, List.take_append_of_le_length (Nat.le_trans hle hstop),
    Span.slice_append_left hstop]
  rfl

theorem statementAt_append_right (place : Span) (front back : Text) :
    statementAt (front ++ back) (place.moved front.length) =
      { statementAt back place with
        line := (statementAt back place).line + front.count '\n' } := by
  have htake : (front ++ back).take (place.start + front.length) =
      front ++ back.take place.start := by
    rw [Nat.add_comm, List.take_length_add_append]
  simp only [statementAt, Span.slice_append_right]
  simp only [Span.moved, htake, List.count_append, Statement.mk.injEq, and_true]
  omega

/-- A script in two parts with a semicolon between them has the statements of the first part and
then those of the second, further down by the lines of the first, if the first ends outside quotes
and comments. -/
theorem statements_append_semicolon (h : Scan.endMode .code front = .code) (back : Text) :
    statements (front ++ [';'] ++ back) =
      statements front ++ (statements back).map fun statement =>
        { statement with line := statement.line + front.count '\n' } := by
  have hfront : ∀ place ∈ places front,
      statementAt (front ++ [';'] ++ back) place = statementAt front place := by
    intro place hplace
    obtain ⟨segment, hsegment, -, hlt, hstop, -⟩ := exists_segment_of_mem_places hplace
    have hbounds := segment_bounds hsegment
    rw [List.append_assoc]
    exact statementAt_append_left (by omega) (by omega) _
  have hcount : (front ++ [';']).count '\n' = front.count '\n' := by simp
  have hlength : front.length + 1 = (front ++ [';']).length := by simp
  have hplaces : places (front ++ [';'] ++ back) =
      places front ++ (places back).map (·.moved (front.length + 1)) := by
    rw [List.append_assoc]
    exact places_append_semicolon h back
  rw [statements_eq_map_places, hplaces, List.map_append, List.map_congr_left hfront,
    ← statements_eq_map_places, statements_eq_map_places back, List.map_map, List.map_map]
  congr 1
  refine List.map_congr_left fun place _ => ?_
  simp only [Function.comp_apply, hlength]
  rw [statementAt_append_right, hcount]

/-- Neither the hyphens on the two sides of the semicolon nor the slash and the star open a
comment. -/
theorem statements_append_semicolon_seams :
    let front : Text := "SELECT ';' -- x;\n;\n1 -"
    let middle : Text := "- 2 /"
    let back : Text := "* 3 ; /* ; */\n'4;"
    Scan.endMode .code front = .code ∧ Scan.endMode .code middle = .code ∧
      statements (front ++ [';'] ++ (middle ++ [';'] ++ back)) =
        [⟨1, "SELECT ';' -- x;"⟩, ⟨3, "1 -"⟩, ⟨3, "- 2 /"⟩, ⟨3, "* 3"⟩, ⟨3, "/* ; */\n'4;"⟩] := by
  intro front middle back
  have hfront : Scan.endMode .code front = .code := by decide
  have hmiddle : Scan.endMode .code middle = .code := by decide
  refine ⟨hfront, hmiddle, ?_⟩
  rw [statements_append_semicolon hfront, statements_append_semicolon hmiddle]
  decide

end Script

end QueryLint
