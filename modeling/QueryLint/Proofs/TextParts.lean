import Mathlib.Data.List.Infix
import QueryLint.Proofs.Searching
import QueryLint.Proofs.Separators
import QueryLint.Rule.Mistake

/-!
Parts of texts. Whatever a rule reads out of a statement is a part of it in one piece: a clause, an
item, a bare name, a sort column. A part in lower case is a part of the text in lower case, except
that the lower case of a capital sigma depends on what stands around it.
-/

namespace QueryLint

open Text

theorem Span.slice_isInfix (span : Span) (text : Text) : span.slice text <:+: text :=
  (List.take_prefix _ _).isInfix.trans (List.drop_suffix _ _).isInfix

theorem Span.slice_of_isPrefix {span : Span} {front text : Text} (h : front <+: text)
    (hstop : span.stop ≤ front.length) : span.slice text = span.slice front := by
  obtain ⟨back, rfl⟩ := h
  exact Span.slice_append_left hstop back

namespace Text

theorem dropWhileEnd_isPrefix (p : Char → Bool) (text : Text) : dropWhileEnd p text <+: text := by
  have hsuffix := List.dropWhile_suffix p (l := text.reverse)
  rwa [← List.reverse_prefix, List.reverse_reverse] at hsuffix

theorem dropWhile_around_isInfix (p q : Char → Bool) (text : Text) :
    dropWhileEnd q (text.dropWhile p) <:+: text :=
  (dropWhileEnd_isPrefix q _).isInfix.trans (List.dropWhile_suffix p).isInfix

theorem trim_isInfix (text : Text) : trim text <:+: text := dropWhile_around_isInfix _ _ text

theorem headD_fields_isInfix (text : Text) : (fields text).headD [] <:+: text := by
  rw [fields]
  cases runsOf (fun c => !isBlank c) text with
  | nil => exact List.nil_infix
  | cons run runs => exact run.slice_isInfix text

theorem cutAt?_isPrefix {α : Type} {step : Text → Option α} {text before : Text} {found : α}
    (h : cutAt? step text = some (before, found)) : before <+: text := by
  induction text generalizing before with
  | nil =>
    obtain ⟨_, -, hcut⟩ := Option.map_eq_some_iff.mp h
    cases hcut
    exact List.prefix_rfl
  | cons c text ih =>
    simp only [cutAt?] at h
    split at h
    · cases h
      exact List.nil_prefix
    · obtain ⟨⟨front, _⟩, hfront, hcut⟩ := Option.map_eq_some_iff.mp h
      cases hcut
      exact (List.prefix_cons_inj c).mpr (ih hfront)

theorem contains_iff_isInfix {text needle : Text} : text.contains needle ↔ needle <:+: text := by
  rw [Text.contains]
  induction text with
  | nil => simp [find?]
  | cons c text ih =>
    rw [List.infix_cons_iff, ← ih, find?, ← List.isPrefixOf_iff_prefix]
    by_cases hhead : needle.isPrefixOf (c :: text) = true
    · simp [hhead]
    · simp [hhead]

/-- Without a capital sigma every character has its own lower case. -/
theorem lower_eq_flatMap {text : Text} (h : 'Σ' ∉ text) : lower text = text.flatMap lowerChar := by
  have hafter : ∀ before, lowerAfter before text = text.flatMap lowerChar := by
    induction text with
    | nil => exact fun _ => rfl
    | cons c text ih =>
      obtain ⟨hc, hrest⟩ := not_or.mp (mt List.mem_cons.mpr h)
      intro before
      rw [lowerAfter, if_neg (Ne.symm hc), ih hrest, List.flatMap_cons]
  exact hafter []

theorem lower_isInfix {part text : Text} (hpart : part <:+: text) (h : 'Σ' ∉ text) :
    lower part <:+: lower text := by
  have hsigma : 'Σ' ∉ part := fun hmem => h (hpart.subset hmem)
  rw [lower_eq_flatMap h, lower_eq_flatMap hsigma]
  exact hpart.flatMap _

theorem contains_lower {part text : Text} (hpart : part <:+: text) (h : 'Σ' ∉ text) :
    (lower text).contains (lower part) :=
  contains_iff_isInfix.mpr (lower_isInfix hpart h)

end Text

section Parts

theorem trimCode_isInfix (text : Text) : trimCode text <:+: text := Span.slice_isInfix _ text

theorem trimClause_isInfix (body : Text) : trimClause body <:+: body :=
  (dropWhileEnd_isPrefix _ _).isInfix.trans
    ((dropWhileEnd_isPrefix _ _).isInfix.trans (trimCode_isInfix body))

theorem clause_isInfix {text body : Text} {clause : Clause}
    (h : ClauseReader.lexical.clause text clause = some body) : body <:+: text := by
  obtain ⟨span, -, rfl⟩ := Option.map_eq_some_iff.mp h
  exact (trimClause_isInfix _).trans (span.slice_isInfix text)

theorem dropQuantifier_isSuffix (selection : Text) : dropQuantifier selection <:+ selection := by
  rw [dropQuantifier]
  split_ifs
  · exact (List.dropWhile_suffix _).trans (List.dropWhile_suffix _)
  · exact List.suffix_rfl

theorem isInfix_of_mem_splitItems {text item : Text} (h : item ∈ splitItems text) : item <:+: text := by
  obtain ⟨span, -, rfl⟩ := List.mem_map.mp (List.mem_of_mem_filter h)
  exact (trimCode_isInfix _).trans (span.slice_isInfix text)

theorem withoutAlias_isInfix (reference : Text) : withoutAlias reference <:+: reference := by
  rw [withoutAlias]
  split
  · exact (List.take_prefix _ _).isInfix
  · exact headD_fields_isInfix reference

theorem withoutQualifier_isSuffix (name : Text) : withoutQualifier name <:+ name := by
  rw [withoutQualifier]
  split
  · exact List.drop_suffix _ _
  · exact List.suffix_rfl

theorem bareName_isInfix (reference : Text) : bareName reference <:+: reference := by
  have halias := (withoutAlias_isInfix (trim reference)).trans (trim_isInfix reference)
  have hhead := (dropWhile_around_isInfix (· = '(') (· = ')') _).trans ((trim_isInfix _).trans halias)
  rw [bareName_eq]
  exact (dropWhile_around_isInfix _ _ _).trans ((withoutQualifier_isSuffix _).isInfix.trans hhead)

theorem sortColumn_isPrefix (key : Text) : Selection.sortColumn key <+: key := by
  rw [Selection.sortColumn]
  split
  · rename_i hcut
    exact cutAt?_isPrefix hcut
  · exact List.prefix_rfl

theorem projection_isInfix {text projection : Text}
    (h : ClauseReader.lexical.projection text = some projection) : projection <:+: text := by
  obtain ⟨selection, hselection, rfl⟩ := Option.map_eq_some_iff.mp h
  exact (dropQuantifier_isSuffix selection).isInfix.trans (clause_isInfix hselection)

end Parts

theorem Finding.ungroupedColumn_injective {item other : Text}
    (h : Finding.ungroupedColumn item = .ungroupedColumn other) : item = other := by
  simpa [Finding.ungroupedColumn] using h

theorem Finding.danglingOrderBy_injective {column other : Text}
    (h : Finding.danglingOrderBy column = .danglingOrderBy other) : column = other := by
  simpa [Finding.danglingOrderBy] using h

namespace Rule

theorem checkGrouping_eq_some {text : Text} {finding : Finding}
    (h : checkGrouping .lexical text = some finding) :
    ∃ grouping ∈ ClauseReader.lexical.clause text .grouping,
      ∃ projection ∈ ClauseReader.lexical.projection text, ∃ item ∈ splitItems projection,
        isUngrouped (lower grouping) item ∧ finding = .ungroupedColumn item := by
  simp only [checkGrouping, Option.bind_eq_bind, Option.bind_eq_some_iff] at h
  obtain ⟨grouping, hgrouping, projection, hprojection, item, hitem, h⟩ := h
  cases h
  exact ⟨grouping, hgrouping, projection, hprojection, item, List.mem_of_find?_eq_some hitem,
    List.find?_some hitem, rfl⟩

theorem checkOrdering_eq_some {text : Text} {finding : Finding}
    (h : checkOrdering .lexical text = some finding) :
    ∃ ordering ∈ ClauseReader.lexical.clause text .ordering,
      ∃ projection ∈ ClauseReader.lexical.projection text, ∃ key ∈ splitItems ordering,
        isDangling (lower projection) (Selection.sortColumn key) ∧
          finding = .danglingOrderBy (Selection.sortColumn key) := by
  simp only [checkOrdering, Option.bind_eq_bind, Option.bind_eq_some_iff] at h
  obtain ⟨ordering, hordering, projection, hprojection, h⟩ := h
  split at h
  · cases h
  · obtain ⟨column, hcolumn, h⟩ := Option.bind_eq_some_iff.mp h
    cases h
    obtain ⟨key, hkey, rfl⟩ := List.mem_map.mp (List.mem_of_find?_eq_some hcolumn)
    exact ⟨ordering, hordering, projection, hprojection, key, hkey, List.find?_some hcolumn, rfl⟩

end Rule

end QueryLint
