import Mathlib.Data.List.Infix
import QueryLint.Proofs.Outcomes
import QueryLint.Proofs.Quantifiers
import QueryLint.Proofs.TextParts
import QueryLint.Proofs.WrittenClauses

/-!
Text that stands in a statement twice. What a rule looks for is a part of the item that it looks at,
so an item that another clause repeats is found there.
-/

namespace QueryLint

open Text

namespace Rule

theorem isUngrouped_eq_false {grouping item : Text} (hsigma : 'Σ' ∉ item)
    (hrepeats : (lower grouping).contains (lower item)) :
    isUngrouped (lower grouping) item = false := by
  have hbare : (lower grouping).contains (lower (bareName item)) :=
    contains_iff_isInfix.mpr
      ((lower_isInfix (bareName_isInfix item) hsigma).trans (contains_iff_isInfix.mp hrepeats))
  simp [isUngrouped, hbare]

theorem isDangling_eq_false {selection column : Text} (hsigma : 'Σ' ∉ selection)
    (hpart : column <:+: selection) : isDangling (lower selection) column = false := by
  have hcolumn := contains_lower hpart hsigma
  simp [isDangling, hcolumn]

theorem exists_of_mem_detect {rules : List Rule} {reader : ClauseReader} {text : Text}
    {finding : Finding} (h : finding ∈ detect rules reader text) :
    finding.rule.check reader text = some finding := by
  obtain ⟨rule, -, hcheck⟩ := List.mem_filterMap.mp h
  obtain rfl := rule_of_check hcheck
  exact hcheck

end Rule

theorem dropQuantifier_eq_self {selection : Text}
    (h : isQuantifier (selection.takeWhile fun c => !isBlank c) = false) :
    dropQuantifier selection = selection := by
  refine if_neg fun hdropped => ?_
  have hword := (Bool.and_eq_true_iff.mp hdropped).2
  exact Bool.false_ne_true (h.symm.trans hword)

/-- Text that is repeated after GROUP BY or ORDER BY is no mistake, in statements without a capital
sigma. A selected item whose text the grouping repeats, in any letter case, is never the one that is
reported. Where the SELECT list itself is written again, no item is reported, and neither is a sort
column. -/
theorem detect_repeated :
    (∀ text : Text, 'Σ' ∉ text → ∀ grouping ∈ ClauseReader.lexical.clause text .grouping,
      ∀ projection ∈ ClauseReader.lexical.projection text, ∀ item ∈ splitItems projection,
        (lower grouping).contains (lower item) →
          ∀ rules, Finding.ungroupedColumn item ∉ Rule.detect rules .lexical text) ∧
      ∀ statement : SelectText, 'Σ' ∉ statement.text →
        isQuantifier (statement.selection.body.1.takeWhile fun c => !isBlank c) = false →
          ∀ rules, ∀ finding ∈ Rule.detect rules .lexical statement.text,
            (statement.body .grouping = some statement.selection.body.1 →
              finding.rule ≠ .ungroupedColumn) ∧
            (statement.body .ordering = some statement.selection.body.1 →
              finding.rule ≠ .danglingOrderBy) := by
  constructor
  · intro text hsigma grouping hgrouping projection hprojection item hitem hrepeats rules hmem
    have hpart : item <:+: text :=
      (isInfix_of_mem_splitItems hitem).trans (projection_isInfix hprojection)
    obtain ⟨grouping', hgrouping', -, -, item', -, hungrouped, hfinding⟩ :=
      Rule.checkGrouping_eq_some (Rule.exists_of_mem_detect hmem)
    obtain rfl := Option.mem_unique hgrouping hgrouping'
    obtain rfl := Finding.ungroupedColumn_injective hfinding
    rw [Rule.isUngrouped_eq_false (fun hmem => hsigma (hpart.subset hmem)) hrepeats] at hungrouped
    cases hungrouped
  · intro statement hsigma hquantifier rules finding hmem
    set list := statement.selection.body.1 with hlist
    have hselection : ClauseReader.lexical.clause statement.text .selection = some list :=
      SelectText.clause_eq_some rfl
    have hprojection : ClauseReader.lexical.projection statement.text = some list := by
      rw [ClauseReader.projection, hselection, Option.map_some, dropQuantifier_eq_self hquantifier]
    have hlistSigma : 'Σ' ∉ list := fun hmem => hsigma ((clause_isInfix hselection).subset hmem)
    have hcheck := Rule.exists_of_mem_detect hmem
    constructor
    · intro hbody hrule
      rw [hrule] at hcheck
      obtain ⟨grouping, hgrouping, projection, hprojection', item, hitem, hungrouped, -⟩ :=
        Rule.checkGrouping_eq_some hcheck
      obtain rfl := Option.mem_unique (SelectText.clause_eq_some hbody) hgrouping
      obtain rfl := Option.mem_unique hprojection hprojection'
      have hpart := isInfix_of_mem_splitItems hitem
      rw [Rule.isUngrouped_eq_false (fun hmem => hlistSigma (hpart.subset hmem))
        (contains_lower hpart hlistSigma)] at hungrouped
      cases hungrouped
    · intro hbody hrule
      rw [hrule] at hcheck
      obtain ⟨ordering, hordering, projection, hprojection', key, hkey, hdangling, -⟩ :=
        Rule.checkOrdering_eq_some hcheck
      obtain rfl := Option.mem_unique (SelectText.clause_eq_some hbody) hordering
      obtain rfl := Option.mem_unique hprojection hprojection'
      have hpart := (sortColumn_isPrefix key).isInfix.trans (isInfix_of_mem_splitItems hkey)
      rw [Rule.isDangling_eq_false hlistSigma hpart] at hdangling
      cases hdangling

theorem spelling_opening (clause : Clause) :
    Keyword.Spelling (fields clause.opening) clause.opening := by
  have hby : ∀ first word : Text, sameLetters word first →
      Keyword.Spelling [first, "BY".toList] (word ++ (" ".toList ++ "BY".toList)) := by
    intro first word hword
    exact .next hword gap_space.1 gap_space.2 (.last (by decide))
  cases clause with
  | selection => exact .last (by decide)
  | source => exact .last (by decide)
  | condition => exact .last (by decide)
  | grouping => exact hby "GROUP" "GROUP" (by decide)
  | ordering => exact hby "ORDER" "ORDER" (by decide)

theorem plainBody_list : PlainBody "f(t.a, 'from') AS x, /* , */ T.\"b\" nulls" := by decide +kernel

theorem plainBody_table : PlainBody "t" := by decide +kernel

def repeatedList : SelectText :=
  let space : Gap := ⟨" ", gap_space⟩
  { selection := ⟨⟨"SELECT", spelling_opening .selection⟩, space, ⟨_, plainBody_list⟩⟩
    source := (space, ⟨⟨"FROM", spelling_opening .source⟩, space, ⟨_, plainBody_table⟩⟩)
    condition := none
    grouping := some (space, ⟨⟨"GROUP BY", spelling_opening .grouping⟩, space,
      ⟨_, plainBody_list⟩⟩)
    ordering := some (space, ⟨⟨"ORDER BY", spelling_opening .ordering⟩, space,
      ⟨_, plainBody_list⟩⟩) }

theorem detect_repeated_repeatedList :
    let text : Text := "select T.Name, b from t group by t.name"
    (Finding.ungroupedColumn "T.Name" ∉ Rule.detect Rule.all .lexical text ∧
      Finding.ungroupedColumn "b" ∈ Rule.detect Rule.all .lexical text) ∧
      repeatedList.text =
        ("SELECT f(t.a, 'from') AS x, /* , */ T.\"b\" nulls FROM t " ++
          "GROUP BY f(t.a, 'from') AS x, /* , */ T.\"b\" nulls " ++
          "ORDER BY f(t.a, 'from') AS x, /* , */ T.\"b\" nulls").toList ∧
      ∀ finding ∈ Rule.detect Rule.all .lexical repeatedList.text,
        finding.rule ≠ .ungroupedColumn ∧ finding.rule ≠ .danglingOrderBy := by
  intro text
  have hsigma : 'Σ' ∉ text := by decide
  have hgrouping : ClauseReader.lexical.clause text .grouping = some "t.name".toList := by
    decide +kernel
  have hprojection : ClauseReader.lexical.projection text = some "T.Name, b".toList := by
    decide +kernel
  have hitem : "T.Name".toList ∈ splitItems "T.Name, b" := by decide +kernel
  have hrepeats : (lower "t.name").contains (lower "T.Name") := by decide +kernel
  have hlistSigma : 'Σ' ∉ repeatedList.text := by decide +kernel
  have hquantifier :
      isQuantifier (repeatedList.selection.body.1.takeWhile fun c => !isBlank c) = false := by
    decide +kernel
  refine ⟨⟨?_, by decide +kernel⟩, by decide +kernel, fun finding hfinding => ?_⟩
  · exact detect_repeated.1 text hsigma _ hgrouping _ hprojection _ hitem hrepeats Rule.all
  · obtain ⟨hgrouped, hordered⟩ :=
      detect_repeated.2 repeatedList hlistSigma hquantifier Rule.all finding hfinding
    exact ⟨hgrouped rfl, hordered rfl⟩

end QueryLint
