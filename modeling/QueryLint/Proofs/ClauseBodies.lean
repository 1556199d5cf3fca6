import QueryLint.Proofs.KeywordOccurrences
import QueryLint.Proofs.VisibleText

/-!
The body of a clause among the marks of its statement: it stands between the first occurrence of
the opening keyword and the earliest boundary after that, and it is found exactly where it stands.
-/

namespace QueryLint

open Keyword

variable {text opening boundary : Text} {boundaries : List Text}
  {before keyword body rest : List Marked}

/-- Marks in four parts: those before the first occurrence of the opening keyword, that
occurrence, those after it in front of the earliest boundary, and the others. The first mark after
the opening keyword belongs to no word, so that a boundary is an occurrence among the marks after
the keyword exactly when it is one in the statement. -/
structure ClauseAt (opening : Text) (boundaries : List Text)
    (before keyword body rest : List Marked) : Prop where
  first : FirstOccurs opening before keyword (body ++ rest)
  free : ∀ boundary ∈ boundaries, NoneBegins (Text.fields boundary) body rest
  stops : rest = [] ∨ ∃ boundary ∈ boundaries, ∃ found after, rest = found ++ after ∧
    Occurs boundary body found after

theorem exists_earliest {front : Text} {marks : List Marked} (boundaries : List Text)
    (htext : text = front ++ marks.map Prod.fst) :
    ∃ body rest, marks = body ++ rest ∧
      (∀ boundary ∈ boundaries, NoneBegins (Text.fields boundary) body rest) ∧
      (rest = [] ∨ ∃ boundary ∈ boundaries, ∃ found after, rest = found ++ after ∧
        Occurs boundary body found after) ∧
      (boundaries.filterMap fun boundary =>
        (findKeyword? text (runs front.length marks) boundary).map (·.start)).min?.getD
          text.length = front.length + body.length := by
  set stops := boundaries.filterMap fun boundary =>
    (findKeyword? text (runs front.length marks) boundary).map (·.start) with hstops
  have hfind (boundary : Text) := findKeyword?_spec boundary
    (show text.drop front.length = marks.map Prod.fst by rw [htext, List.drop_left])
  have hofStop : ∀ position ∈ stops, ∃ boundary ∈ boundaries, ∃ before found after,
      marks = before ++ (found ++ after) ∧ Occurs boundary before found after ∧
        position = front.length + before.length := by
    intro position hposition
    obtain ⟨boundary, hboundary, hsome⟩ := List.mem_filterMap.mp hposition
    rcases hfind boundary with ⟨hnone, -⟩ | ⟨before, found, after, hsplit, hfirst, hspan⟩
    · rw [hnone] at hsome
      cases hsome
    · rw [hspan] at hsome
      cases hsome
      exact ⟨boundary, hboundary, before, found, after, hsplit, hfirst.occurs, rfl⟩
  have htoStop : ∀ boundary ∈ boundaries, ∀ before found after,
      marks = before ++ (found ++ after) → Occurs boundary before found after →
        ∃ position ∈ stops, position ≤ front.length + before.length := by
    intro boundary hboundary before found after hsplit h
    rcases hfind boundary with ⟨-, habsent⟩ | ⟨before', found', after', hsplit', hfirst, hspan⟩
    · exact absurd h (habsent before found after hsplit)
    · have hle := hfirst.length_le h (hsplit'.symm.trans hsplit)
      refine ⟨front.length + before'.length, ?_, by omega⟩
      exact List.mem_filterMap.mpr ⟨boundary, hboundary, by rw [hspan]; rfl⟩
  cases hmin : stops.min? with
  | none =>
    refine ⟨marks, [], by simp, ?_, .inl rfl, ?_⟩
    · intro boundary hboundary before back found after hsplit _ hback h
      obtain ⟨position, hposition, -⟩ := htoStop boundary hboundary before found after
        (by rw [hsplit, ← hback, List.append_nil]) h
      rw [List.min?_eq_none_iff.mp hmin] at hposition
      cases hposition
    · simp [htext]
  | some position =>
    obtain ⟨hmem, hleast⟩ := List.min?_eq_some_iff.mp hmin
    obtain ⟨boundary, hboundary, body, found, after, hsplit, hoccurs, rfl⟩ := hofStop position hmem
    refine ⟨body, found ++ after, hsplit, ?_,
      .inr ⟨boundary, hboundary, found, after, rfl, hoccurs⟩, rfl⟩
    intro boundary' hboundary' before back found' after' hbody hne hback h
    obtain ⟨position, hposition, hle⟩ := htoStop boundary' hboundary' before found' after'
      (by rw [hsplit, ← hback, hbody, List.append_assoc]) h
    have hbefore := hleast position hposition
    have := List.length_pos_iff.mpr hne
    rw [hbody, List.length_append] at hbefore
    omega

/-- The boundary after a body would begin in every longer one. -/
theorem length_le_of_stops {body' rest' : List Marked} (hsplit : body ++ rest = body' ++ rest')
    (hstops : rest = [] ∨ ∃ boundary ∈ boundaries, ∃ found after, rest = found ++ after ∧
      Occurs boundary body found after)
    (hfree : ∀ boundary ∈ boundaries, NoneBegins (Text.fields boundary) body' rest') :
    body'.length ≤ body.length := by
  rcases List.append_eq_append_iff.mp hsplit with ⟨back, rfl, rfl⟩ | ⟨back, rfl, -⟩
  · rcases hstops with hnil | ⟨boundary, hboundary, found, after, hrest, hoccurs⟩
    · simp [(List.append_eq_nil_iff.mp hnil).1]
    · by_cases hback : back = []
      · simp [hback]
      · exact absurd hoccurs (hfree boundary hboundary body back found after rfl hback hrest)
  · simp

theorem earliest_eq {front : Text} (htext : text = front ++ (body ++ rest).map Prod.fst)
    (hfree : ∀ boundary ∈ boundaries, NoneBegins (Text.fields boundary) body rest)
    (hstops : rest = [] ∨ ∃ boundary ∈ boundaries, ∃ found after, rest = found ++ after ∧
      Occurs boundary body found after) :
    (boundaries.filterMap fun boundary =>
      (findKeyword? text (runs front.length (body ++ rest)) boundary).map (·.start)).min?.getD
        text.length = front.length + body.length := by
  obtain ⟨body', rest', hsplit, hfree', hstops', hstop⟩ := exists_earliest boundaries htext
  rw [hstop]
  have hle := length_le_of_stops hsplit hstops hfree'
  have hge := length_le_of_stops hsplit.symm hstops' hfree
  omega

theorem clauseSpan?_cases (text opening : Text) (boundaries : List Text) :
    (clauseSpan? text opening boundaries = none ∧ Absent opening (scan text)) ∨
      ∃ before keyword body rest, scan text = before ++ (keyword ++ (body ++ rest)) ∧
        ClauseAt opening boundaries before keyword body rest ∧
        clauseSpan? text opening boundaries =
          some ⟨(before ++ keyword).length, (before ++ keyword).length + body.length⟩ := by
  have htext : text.drop 0 = (scan text).map Prod.fst := drop_zero_eq_scan text
  rcases findKeyword?_spec opening htext with
    ⟨hnone, habsent⟩ | ⟨before, keyword, after, hsplit, hfirst, hspan⟩
  · refine .inl ⟨?_, habsent⟩
    rw [clauseSpan?, wordSpans, hnone]
    rfl
  · have hfront : text = (before ++ keyword).map Prod.fst ++ after.map Prod.fst := by
      rw [← List.map_append, List.append_assoc, ← hsplit, Scan.map_fst_scan]
    have hlater := dropWhile_runs (before ++ keyword) hfirst.occurs.ends
    obtain ⟨body, rest, rfl, hfree, hstops, hstop⟩ := exists_earliest boundaries hfront
    refine .inr ⟨before, keyword, body, rest, hsplit, ⟨hfirst, hfree, hstops⟩, ?_⟩
    simp only [Nat.zero_add, ← List.length_append] at hspan
    rw [List.length_map] at hstop
    simp only [clauseSpan?, wordSpans, hspan, Option.map_some, Option.some.injEq]
    rw [hsplit, ← List.append_assoc, hlater, hstop]

theorem extractClause_cases (text opening : Text) (boundaries : List Text) :
    (extractClause text opening boundaries = none ∧ Absent opening (scan text)) ∨
      ∃ before keyword body rest, scan text = before ++ (keyword ++ (body ++ rest)) ∧
        ClauseAt opening boundaries before keyword body rest ∧
        extractClause text opening boundaries = some (trimClause (body.map Prod.fst)) := by
  rcases clauseSpan?_cases text opening boundaries with
    ⟨hnone, habsent⟩ | ⟨before, keyword, body, rest, hsplit, hclause, hspan⟩
  · refine .inl ⟨?_, habsent⟩
    rw [extractClause, hnone, Option.map_none]
  · refine .inr ⟨before, keyword, body, rest, hsplit, hclause, ?_⟩
    have hdrop : text.drop (before ++ keyword).length = (body ++ rest).map Prod.fst := by
      rw [← List.append_assoc] at hsplit
      exact drop_of_scan_eq hsplit
    rw [extractClause, hspan, Option.map_some, slice_of_drop_eq hdrop]

theorem ClauseAt.unique {before' keyword' body' rest' : List Marked}
    (h : ClauseAt opening boundaries before keyword body rest)
    (h' : ClauseAt opening boundaries before' keyword' body' rest')
    (hsplit : before ++ (keyword ++ (body ++ rest)) =
      before' ++ (keyword' ++ (body' ++ rest'))) :
    before = before' ∧ keyword = keyword' ∧ body = body' ∧ rest = rest' := by
  obtain ⟨rfl, rfl, hafter⟩ := h.first.unique h'.first hsplit
  have hlength : body.length = body'.length :=
    Nat.le_antisymm (length_le_of_stops hafter.symm h'.stops h.free)
      (length_le_of_stops hafter h.stops h'.free)
  obtain ⟨rfl, rfl⟩ := List.append_inj hafter hlength
  exact ⟨rfl, rfl, rfl, rfl⟩

theorem extractClause_eq_none_iff :
    extractClause text opening boundaries = none ↔ Absent opening (scan text) := by
  constructor
  · intro h
    rcases extractClause_cases text opening boundaries with ⟨-, habsent⟩ | ⟨_, _, _, _, -, -, hsome⟩
    · exact habsent
    · rw [h] at hsome
      cases hsome
  · intro habsent
    rcases extractClause_cases text opening boundaries with
      ⟨hnone, -⟩ | ⟨before, keyword, body, rest, hsplit, hclause, -⟩
    · exact hnone
    · exact absurd hclause.first.occurs (habsent before keyword (body ++ rest) hsplit)

theorem extractClause_eq_some (hsplit : scan text = before ++ (keyword ++ (body ++ rest)))
    (h : ClauseAt opening boundaries before keyword body rest) :
    extractClause text opening boundaries = some (trimClause (body.map Prod.fst)) := by
  rcases extractClause_cases text opening boundaries with
    ⟨-, habsent⟩ | ⟨before', keyword', body', rest', hsplit', hclause, hsome⟩
  · exact absurd h.first.occurs (habsent before keyword (body ++ rest) hsplit)
  · obtain ⟨-, -, rfl, -⟩ := h.unique hclause (hsplit.symm.trans hsplit')
    exact hsome

theorem exists_of_extractClause {result : Text}
    (hresult : extractClause text opening boundaries = some result) :
    ∃ before keyword body rest, scan text = before ++ (keyword ++ (body ++ rest)) ∧
      ClauseAt opening boundaries before keyword body rest ∧
      result = trimClause (body.map Prod.fst) := by
  rcases extractClause_cases text opening boundaries with
    ⟨hnone, -⟩ | ⟨before, keyword, body, rest, hsplit, hclause, hsome⟩
  · cases hnone.symm.trans hresult
  · exact ⟨before, keyword, body, rest, hsplit, hclause,
      Option.some.inj (hresult.symm.trans hsome)⟩

theorem hasKeyword_eq_false_iff {keyword : Text} :
    ClauseReader.lexical.hasKeyword text keyword = false ↔ Absent keyword (scan text) := by
  have hnone : extractClause text keyword [] = none ↔ Absent keyword (scan text) :=
    extractClause_eq_none_iff
  rw [← hnone]
  exact Option.isSome_eq_false_iff.trans Option.isNone_iff_eq_none

namespace ClauseAt

variable (h : ClauseAt opening boundaries before keyword body rest)
include h

theorem scanned_body (hscanned : Scanned (before ++ (keyword ++ (body ++ rest)))) :
    Scanned body := by
  obtain ⟨init, last, rfl, hlast⟩ := h.first.occurs.spells.exists_concat
  have hafter : Scanned (body ++ rest) := by
    rw [← List.append_assoc] at hscanned
    exact hscanned.right_of_last (by simp) (Marked.eq_code_of_isWord hlast)
  refine hafter.left_of_head fun mark hmark => ?_
  rcases h.stops with rfl | ⟨boundary, -, found, after, rfl, hoccurs⟩
  · cases hmark
  · have hword := hoccurs.spells.head mark hmark
    constructor
    · exact Marked.ne_of_isWord hword (by decide) (by decide)
    · exact Marked.ne_of_isWord hword (by decide) (by decide)

/-- A part of a clause body, around which the body has no word, holds no boundary. -/
theorem absent_of_middle {front middle back : List Marked}
    (hbody : body = front ++ (middle ++ back)) (hfront : ∀ mark ∈ front, mark.isWord = false)
    (hback : ∀ mark ∈ back, mark.isWord = false) (hboundary : boundary ∈ boundaries) :
    Absent boundary middle := by
  rintro left found right rfl hoccurs
  obtain ⟨init, last, hfound, hlast⟩ := hoccurs.spells.exists_concat
  refine h.free boundary hboundary (front ++ left) (found ++ (right ++ back)) found
    (right ++ (back ++ rest)) (by simp [hbody]) (by simp [hfound]) (by simp)
    ⟨hoccurs.spells, ?_, ?_⟩
  · intro mark hmark
    rcases List.eq_nil_or_concat' left with rfl | ⟨more, other, rfl⟩
    · exact hfront mark (List.mem_of_getLast? (by simpa using hmark))
    · exact hoccurs.fresh mark (by simpa using hmark)
  · intro mark hmark
    cases right with
    | cons other right => exact hoccurs.ends mark (by simpa using hmark)
    | nil =>
      cases back with
      | cons other back => exact hback mark (by simpa using Or.inl hmark.symm)
      | nil =>
        rcases h.stops with rfl | ⟨boundary', -, found', after', rfl, hoccurs'⟩
        · cases hmark
        · -- a word would go on from the end of the body into the boundary
          have hfresh := hoccurs'.fresh last (by simp [hbody, hfound])
          simp [hlast] at hfresh

end ClauseAt

/-- Trimming a clause body takes no word away. -/
theorem exists_around_trimClause (text : Text) :
    ∃ front back, scan text = front ++ (scan (trimClause text) ++ back) ∧
      (∀ mark ∈ front, mark.isWord = false) ∧ ∀ mark ∈ back, mark.isWord = false := by
  obtain ⟨front, back, hsplit, hfront, hback⟩ := exists_scan_trimClause text
  refine ⟨front, back, hsplit, fun mark hmark => Marked.isWord_of_hidden (hfront mark hmark), ?_⟩
  intro mark hmark
  rcases hback mark hmark with hhidden | hsemicolon
  · exact Marked.isWord_of_hidden hhidden
  · by_contra hword
    exact Marked.ne_of_isWord (by simpa using hword) (by decide) (by decide) hsemicolon

theorem absent_extractClause {result : Text}
    (hresult : extractClause text opening boundaries = some result)
    (hboundary : boundary ∈ boundaries) : Absent boundary (scan result) := by
  obtain ⟨before, keyword, body, rest, hsplit, hclause, rfl⟩ := exists_of_extractClause hresult
  have hbody : Scanned body := hclause.scanned_body (hsplit ▸ scanned_scan text)
  obtain ⟨front, back, htrim, hfront, hback⟩ := exists_around_trimClause (body.map Prod.fst)
  rw [hbody] at htrim
  exact hclause.absent_of_middle htrim hfront hback hboundary

/-- A keyword that a statement does not have is none of a clause body either. -/
theorem absent_extractClause_of_absent {name result : Text} (habsent : Absent name (scan text))
    (hresult : extractClause text opening boundaries = some result) :
    Absent name (scan result) := by
  obtain ⟨before, keyword, body, rest, hsplit, hclause, rfl⟩ := exists_of_extractClause hresult
  rw [hsplit, ← List.append_assoc] at habsent
  have hafter := habsent.right hclause.first.occurs.ends
  -- one more boundary that does not occur leaves the clause as it is
  have hmore : ClauseAt opening (name :: boundaries) before keyword body rest := by
    refine ⟨hclause.first, List.forall_mem_cons.mpr ⟨?_, hclause.free⟩, ?_⟩
    · rintro front back found more rfl - hback hoccurs
      exact hafter front found more (by rw [List.append_assoc, hback]) hoccurs
    · refine hclause.stops.imp_right fun ⟨boundary, hboundary, hoccurs⟩ => ?_
      exact ⟨boundary, List.mem_cons_of_mem _ hboundary, hoccurs⟩
  exact absent_extractClause (extractClause_eq_some hsplit hmore) List.mem_cons_self

/-- The body of a clause as it stands in its statement, in parts that trimming tells apart. -/
theorem extractClause_eq_some_iff {result : Text} :
    extractClause text opening boundaries = some result ↔
      ∃ before keyword body rest, scan text = before ++ (keyword ++ (body ++ rest)) ∧
        ClauseAt opening boundaries before keyword body rest ∧
        ∃ lead blanks cut trail, body = lead ++ (((scan result ++ blanks) ++ cut) ++ trail) ∧
          TrimmedBody lead (scan result) blanks cut trail := by
  constructor
  · intro hresult
    obtain ⟨before, keyword, body, rest, hsplit, hclause, rfl⟩ := exists_of_extractClause hresult
    obtain ⟨lead, kept, blanks, cut, trail, hparts, rfl, htrimmed⟩ :=
      exists_trimmedBody (hclause.scanned_body (hsplit ▸ scanned_scan text))
    exact ⟨before, keyword, body, rest, hsplit, hclause, lead, blanks, cut, trail, hparts,
      htrimmed⟩
  · rintro ⟨before, keyword, body, rest, hsplit, hclause, lead, blanks, cut, trail, hparts,
      htrimmed⟩
    have hbody : Scanned body := hclause.scanned_body (hsplit ▸ scanned_scan text)
    rw [extractClause_eq_some hsplit hclause, Option.some_inj, hparts,
      (htrimmed.trimmed (hparts ▸ hbody)).2, Scan.map_fst_scan]

/-- The extraction of a clause against the places of keywords in the statement. There is no clause
exactly when the opening keyword does not occur. Otherwise the body stands after the leftmost
occurrence of that keyword and is the longest one in which no boundary begins; of its marks the
result has all but those that are hidden in front, the semicolons at the end, the white space
before these, and what is hidden after them. Read from its own beginning, the result holds none of
the boundaries either. -/
theorem extractClause_spec (text opening : Text) (boundaries : List Text) :
    (extractClause text opening boundaries = none ↔ Absent opening (scan text)) ∧
      (∀ result, extractClause text opening boundaries = some result ↔
        ∃ before keyword body rest, scan text = before ++ (keyword ++ (body ++ rest)) ∧
          ClauseAt opening boundaries before keyword body rest ∧
          ∃ lead blanks cut trail, body = lead ++ (((scan result ++ blanks) ++ cut) ++ trail) ∧
            TrimmedBody lead (scan result) blanks cut trail) ∧
      ∀ result, extractClause text opening boundaries = some result →
        ∀ boundary ∈ boundaries, ClauseReader.lexical.hasKeyword result boundary = false := by
  refine ⟨extractClause_eq_none_iff, fun _ => extractClause_eq_some_iff, ?_⟩
  intro result hresult boundary hboundary
  exact hasKeyword_eq_false_iff.mpr (absent_extractClause hresult hboundary)

theorem extractClause_spec_selection :
    Absent "FROM" (scan "SELECT 'FROM' -- FROM") ∧
      (∃ before keyword body rest,
        scan "SELECT /* c */ a, 'FROM' ; FROM t" = before ++ (keyword ++ (body ++ rest)) ∧
          ClauseAt "SELECT" ["FROM"] before keyword body rest ∧
          ∃ lead blanks cut trail,
            body = lead ++ (((scan "a, 'FROM'" ++ blanks) ++ cut) ++ trail) ∧
              TrimmedBody lead (scan "a, 'FROM'") blanks cut trail) ∧
      ClauseReader.lexical.hasKeyword "a, 'FROM'" "FROM" = false := by
  obtain ⟨hnone, -⟩ := extractClause_spec "SELECT 'FROM' -- FROM" "FROM" []
  obtain ⟨-, hsome, hfree⟩ :=
    extractClause_spec "SELECT /* c */ a, 'FROM' ; FROM t" "SELECT" ["FROM"]
  have hquoted : extractClause "SELECT 'FROM' -- FROM" "FROM" [] = none := by decide
  have hresult : extractClause "SELECT /* c */ a, 'FROM' ; FROM t" "SELECT" ["FROM"] =
      some "a, 'FROM'" := by decide
  exact ⟨hnone.mp hquoted, (hsome _).mp hresult, hfree _ hresult "FROM" (by simp)⟩

end QueryLint
