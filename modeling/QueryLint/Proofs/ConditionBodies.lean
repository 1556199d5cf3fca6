import QueryLint.Proofs.AppendedMarks
import QueryLint.Proofs.ItemSplitting

/-!
The body after WHERE against the keywords that end the tables. All of them end the conditions too,
except WINDOW: where a WINDOW clause follows WHERE, it is read as a part of the conditions, up to
the next boundary, and the commas between its windows count as commas between conditions.
-/

namespace QueryLint

open Keyword

theorem ClauseAt.exists_more {opening : Text} {boundaries more : List Text}
    {before keyword body rest : List Marked}
    (h : ClauseAt opening boundaries before keyword body rest) (hmore : boundaries ⊆ more) :
    ∃ front back, body = front ++ back ∧
      ClauseAt opening more before keyword front (back ++ rest) ∧
      (back = [] ∨ ∃ boundary ∈ more, boundary ∉ boundaries ∧ ∃ found after,
        back ++ rest = found ++ after ∧ Occurs boundary front found after) := by
  have htext : (body ++ rest).map Prod.fst = [] ++ (body ++ rest).map Prod.fst := rfl
  obtain ⟨front, rest', hsplit, hfree, hstops, -⟩ := exists_earliest more htext
  have hlength := length_le_of_stops hsplit h.stops fun boundary hboundary =>
    hfree boundary (hmore hboundary)
  obtain ⟨back, rfl, rfl⟩ : ∃ back, body = front ++ back ∧ rest' = back ++ rest := by
    rcases List.append_eq_append_iff.mp hsplit with ⟨more, rfl, hrest⟩ | h
    · rw [List.length_append] at hlength
      obtain rfl : more = [] := List.length_eq_zero_iff.mp (by omega)
      exact ⟨[], by simp, hrest.symm⟩
    · exact h
  refine ⟨front, back, rfl, ⟨by simpa using h.first, hfree, hstops⟩, ?_⟩
  by_cases hback : back = []
  · exact .inl hback
  obtain ⟨boundary, hboundary, found, after, hrest, hoccurs⟩ :=
    hstops.resolve_left (by simp [hback])
  refine .inr ⟨boundary, hboundary, fun hold => ?_, found, after, hrest, hoccurs⟩
  exact h.free boundary hold front back found after rfl hback hrest hoccurs

theorem ClauseAt.exists_within {opening part : Text} {boundaries : List Text}
    {before keyword front back rest found after : List Marked}
    (h : ClauseAt opening boundaries before keyword (front ++ back) rest) (hback : back ≠ [])
    (hsplit : back ++ rest = found ++ after) (hword : SpellsWord part found) :
    ∃ between, back = found ++ between ∧ after = between ++ rest := by
  rcases List.append_eq_append_iff.mp hsplit with ⟨more, rfl, rfl⟩ | ⟨between, rfl, rfl⟩
  · cases more with
    | nil => exact ⟨[], by simp, rfl⟩
    | cons mark more =>
      -- the word would go on from the body into the boundary
      obtain ⟨boundary, -, name, after', hrest, hoccurs⟩ := h.stops.resolve_left (by simp)
      obtain ⟨init, last, rfl⟩ := (List.eq_nil_or_concat' back).resolve_left hback
      have hfresh := hoccurs.fresh last (by simp)
      simp [hword.isWord last (by simp)] at hfresh
  · exact ⟨between, rfl, rfl⟩

/-- A list has a comma between items exactly where a comma of the code stands under no
parenthesis, whatever is trimmed around the list. -/
theorem hasTopLevelComma_trimClause_iff {body : List Marked} (hbody : Scanned body) :
    hasTopLevelComma (trimClause (body.map Prod.fst)) ↔
      ∃ front back, body = front ++ (',', .code) :: back ∧ depthFrom 0 front = 0 := by
  have hempty : (topLevelCommas (trimClause (body.map Prod.fst))).isEmpty =
      (commasFrom 0 0 body).isEmpty := by
    rw [topLevelCommas, isEmpty_commasFrom_filter 0 0, filter_isListMark_trimClause hbody,
      ← isEmpty_commasFrom_filter 0 0]
  rw [hasTopLevelComma, hempty, Bool.not_eq_true', List.isEmpty_eq_false_iff_exists_mem]
  simp only [mem_commasFrom_iff]
  constructor
  · rintro ⟨_, front, back, hsplit, -, hdepth⟩
    exact ⟨front, back, hsplit, hdepth⟩
  · rintro ⟨front, back, hsplit, hdepth⟩
    exact ⟨_, front, back, hsplit, rfl, hdepth⟩

theorem exists_append_eq_iff {front' back' : List Marked} {mark : Marked} {p : List Marked → Prop} :
    (∃ front back, front' ++ back' = front ++ mark :: back ∧ p front) ↔
      (∃ front back, front' = front ++ mark :: back ∧ p front) ∨
        ∃ front back, back' = front ++ mark :: back ∧ p (front' ++ front) := by
  constructor
  · rintro ⟨front, back, hsplit, hp⟩
    rcases List.append_eq_append_iff.mp hsplit with ⟨lead, rfl, hback⟩ | ⟨lead, rfl, hlead⟩
    · exact .inr ⟨lead, back, hback, hp⟩
    · cases lead with
      | nil => exact .inr ⟨[], back, hlead.symm, by simpa using hp⟩
      | cons first lead =>
        obtain ⟨rfl, rfl⟩ := List.cons.inj hlead
        exact .inl ⟨front, lead, rfl, hp⟩
  · rintro (⟨front, back, rfl, hp⟩ | ⟨front, back, rfl, hp⟩)
    · exact ⟨front, back ++ back', by simp, hp⟩
    · exact ⟨front' ++ front, back, by simp, hp⟩

def laterKeywords : List Text := (Clause.boundaries .source).erase "WHERE"

/-- Of the keywords that end the tables and can follow the conditions, only WINDOW does not end
these. -/
theorem mem_laterKeywords_iff {keyword : Text} :
    keyword ∈ laterKeywords ↔ keyword ∈ Clause.boundaries .condition ∨ keyword = "WINDOW" := by
  have hlists : laterKeywords = Clause.boundaries .condition ++ [("WINDOW" : Text)] := by decide
  rw [hlists, List.mem_append, List.mem_singleton]

/-- Conditions that no keyword interrupts after which the tables would end, and behind them nothing
or a WINDOW clause. -/
theorem ClauseAt.exists_windows {before keyword body rest : List Marked}
    (h : ClauseAt "WHERE" (Clause.boundaries .condition) before keyword body rest) :
    ∃ conditions windows, body = conditions ++ windows ∧
      ClauseAt "WHERE" laterKeywords before keyword conditions (windows ++ rest) ∧
      (windows = [] ∨ ∃ found after, windows = found ++ after ∧
        Occurs "WINDOW" conditions found (after ++ rest)) ∧
      (windows = [] ↔ Absent "WINDOW" body) := by
  obtain ⟨conditions, windows, rfl, hconditions, hwindows⟩ :=
    h.exists_more fun name hname => mem_laterKeywords_iff.mpr (.inl hname)
  have hwindow : windows = [] ∨ ∃ found after, windows = found ++ after ∧
      Occurs "WINDOW" conditions found (after ++ rest) := by
    by_cases hnil : windows = []
    · exact .inl hnil
    obtain ⟨name, hname, hnew, found, after, hrest, hoccurs⟩ := hwindows.resolve_left hnil
    obtain rfl : name = ("WINDOW" : Text) := (mem_laterKeywords_iff.mp hname).resolve_left hnew
    have hfields : Text.fields "WINDOW" = [("WINDOW" : Text)] := by decide
    have hspells := hoccurs.spells
    rw [hfields] at hspells
    obtain ⟨between, rfl, rfl⟩ := h.exists_within hnil hrest hspells.spellsWord
    exact .inr ⟨found, between, rfl, hoccurs⟩
  refine ⟨conditions, windows, rfl, hconditions, hwindow, ?_, fun habsent => ?_⟩
  · rintro rfl
    have hmiddle : conditions = [] ++ (conditions ++ []) := by simp
    rw [List.append_nil]
    exact hconditions.absent_of_middle hmiddle (by simp) (by simp)
      (mem_laterKeywords_iff.mpr (.inr rfl))
  · refine hwindow.resolve_right ?_
    rintro ⟨found, after, rfl, hoccurs⟩
    exact habsent conditions found after rfl hoccurs.of_append_tail

/-- The body after WHERE in two parts. The first one, the conditions, ends where any keyword stands
that ends the tables; the second one begins with a WINDOW or is empty, and runs to the next boundary
of the conditions. No other keyword that ends the tables is in the body, and the commas for which
the rule looks are the ones under no parenthesis, in either part. -/
theorem condition_body_parts {text body : Text}
    (hbody : ClauseReader.lexical.clause text .condition = some body) :
    (∀ keyword ∈ laterKeywords, keyword ≠ "WINDOW" →
        ClauseReader.lexical.hasKeyword body keyword = false) ∧
      ∃ before keyword conditions windows rest,
        scan text = before ++ (keyword ++ ((conditions ++ windows) ++ rest)) ∧
        ClauseAt "WHERE" laterKeywords before keyword conditions (windows ++ rest) ∧
        body = trimClause ((conditions ++ windows).map Prod.fst) ∧
        (windows = [] ∨ ∃ found after, windows = found ++ after ∧
          Occurs "WINDOW" conditions found (after ++ rest)) ∧
        (windows = [] ↔ ClauseReader.lexical.hasKeyword body "WINDOW" = false) ∧
        (Rule.check .commaInWhere .lexical text = some .commaInWhere ↔
          (∃ front back, conditions = front ++ (',', .code) :: back ∧ depthFrom 0 front = 0) ∨
            ∃ front back, windows = front ++ (',', .code) :: back ∧
              depthFrom 0 (conditions ++ front) = 0) := by
  obtain ⟨before, keyword, raw, rest, hsplit, hclause, rfl⟩ := exists_of_extractClause hbody
  have hscanned : Scanned raw := hclause.scanned_body (hsplit ▸ scanned_scan text)
  refine ⟨fun name hname hne => ?_, ?_⟩
  · have hboundary := (mem_laterKeywords_iff.mp hname).resolve_right hne
    exact hasKeyword_eq_false_iff.mpr (absent_extractClause hbody hboundary)
  obtain ⟨conditions, windows, rfl, hconditions, hwindow, hnil⟩ := hclause.exists_windows
  refine ⟨before, keyword, conditions, windows, rest, hsplit, hconditions, rfl, hwindow, ?_, ?_⟩
  · rw [hnil, hasKeyword_eq_false_iff, absent_trimClause_iff, hscanned]
  · rw [← exists_append_eq_iff, ← hasTopLevelComma_trimClause_iff hscanned, Rule.check,
      Rule.checkConditions, hbody]
    simp

theorem condition_body_parts_two_windows :
    let text : Text := "SELECT a FROM t WHERE f(a, b) = 1 WINDOW w AS (), v AS () LIMIT 3"
    let body : Text := "f(a, b) = 1 WINDOW w AS (), v AS ()"
    ClauseReader.lexical.clause text .condition = some body ∧
      ClauseReader.lexical.hasKeyword body "LIMIT" = false ∧
      ∃ conditions windows : List Marked, windows ≠ [] ∧
        body = trimClause ((conditions ++ windows).map Prod.fst) := by
  intro text body
  have hbody : ClauseReader.lexical.clause text .condition = some body := by decide +kernel
  have hwindow : ClauseReader.lexical.hasKeyword body "WINDOW" = true := by decide +kernel
  obtain ⟨hother, before, keyword, conditions, windows, rest, -, -, htrim, -, hnil, -⟩ :=
    condition_body_parts hbody
  refine ⟨hbody, hother "LIMIT" (by decide) (by decide), conditions, windows, ?_, htrim⟩
  rw [Ne, hnil, hwindow]
  exact Bool.true_eq_false.mp

/-- Not every keyword that ends the tables is missing from the body after WHERE, and the rule about
commas between conditions finds some that stand behind the conditions. -/
theorem not_forall_condition_body_keywords :
    (¬∀ text body, ClauseReader.lexical.clause text .condition = some body →
        ∀ keyword ∈ laterKeywords, ClauseReader.lexical.hasKeyword body keyword = false) ∧
      ¬∀ text conditions, extractClause text "WHERE" laterKeywords = some conditions →
        Rule.check .commaInWhere .lexical text = some .commaInWhere →
          hasTopLevelComma conditions := by
  let text : Text := "SELECT a FROM t WHERE a = 1 WINDOW w AS (PARTITION BY a), v AS (PARTITION BY b)"
  have hbody : ClauseReader.lexical.clause text .condition =
      some ("a = 1 WINDOW w AS (PARTITION BY a), v AS (PARTITION BY b)" : Text) := by
    decide +kernel
  have hconditions : extractClause text "WHERE" laterKeywords = some ("a = 1" : Text) := by
    decide +kernel
  constructor
  · intro h
    have hwindow := h _ _ hbody "WINDOW" (by decide)
    revert hwindow
    decide +kernel
  · intro h
    have hcomma := h _ _ hconditions (by decide +kernel)
    revert hcomma
    decide +kernel

end QueryLint
