import Mathlib.Data.List.Chain
import QueryLint.Proofs.CommentRemoval
import QueryLint.Proofs.Quantifiers

/-!
Comments and the rules about mistakes. Taking the comments out of a statement changes nothing in
what the rules find, as long as no comment stands between the two words of a keyword or in the
text that a rule compares.
-/

namespace QueryLint

open Keyword

/-- Whether no character between two positions of a text is visible. -/
def hiddenBetween (text : Text) (start stop : Nat) : Bool :=
  (((scan text).drop start).take (stop - start)).all fun mark => !mark.isVisible

/-- No comment stands in the gap of GROUP BY or ORDER BY: where no character between the two words
is visible, all of them are white space. -/
def KeywordsUnbroken (text : Text) : Prop :=
  (wordSpans text).IsChain fun word next =>
    (Text.sameLetters (word.slice text) "GROUP" ∨ Text.sameLetters (word.slice text) "ORDER") →
      Text.sameLetters (next.slice text) "BY" → hiddenBetween text word.stop next.start →
        blankBetween text word.stop next.start

instance (text : Text) : Decidable (KeywordsUnbroken text) :=
  inferInstanceAs (Decidable ((wordSpans text).IsChain _))

instance (text : Text) : Decidable (CommentsClosed text) :=
  inferInstanceAs (Decidable ((Scan.endMode .code text).isOutside = true))

instance (text : Text) : Decidable (Uncommented text) :=
  inferInstanceAs (Decidable (∀ mark ∈ scan text, mark.2 ≠ .comment))

section Keywords

variable {gap : Marked → Bool} {part : Text} {text : Text} {marks : List Marked}

theorem tight_single (part : Text) (marks : List Marked) : Tight gap [part] marks := by
  intro before found after _ h
  exact ⟨.last h.spells.spellsWord, h.fresh, h.ends⟩

/-- Two words of a statement with no other word between them are neighbours in its word list. -/
theorem wordSpans_pair {before word space next after : List Marked} {other : Text}
    (hsplit : scan text = before ++ (word ++ (space ++ (next ++ after))))
    (hfresh : ∀ mark ∈ before.getLast?, mark.isWord = false) (hword : SpellsWord part word)
    (hne : space ≠ []) (hspace : ∀ mark ∈ space, mark.isWord = false)
    (hnext : SpellsWord other next) (hends : ∀ mark ∈ after.head?, mark.isWord = false) :
    wordSpans text = runs 0 before ++ ⟨before.length, before.length + word.length⟩ ::
      ⟨before.length + word.length + space.length,
        before.length + word.length + space.length + next.length⟩ ::
        runs (before.length + word.length + space.length + next.length) after := by
  have hends' : ∀ mark ∈ (space ++ (next ++ after)).head?, mark.isWord = false := by
    intro mark hmark
    rw [List.head?_append_of_ne_nil _ hne] at hmark
    exact hspace mark (List.mem_of_mem_head? hmark)
  rw [wordSpans, hsplit, ← runs, runs_append 0 (.inl hfresh), Nat.zero_add,
    runs_word_append _ hword.ne_nil hword.isWord hends', runs_append_of_not_word _ hspace,
    runs_word_append _ hnext.ne_nil hnext.isWord hends]

theorem tight_pair (hunbroken : KeywordsUnbroken text)
    (hpart : ∀ word : Text, Text.sameLetters word part →
      Text.sameLetters word "GROUP" ∨ Text.sameLetters word "ORDER") :
    Tight (fun mark => !mark.isVisible) [part, "BY"] (scan text) := by
  rintro before found after hsplit ⟨hspells, hfresh, hends⟩
  cases hspells with
  | @next _ _ word space rest hword hne hspace hrest =>
    have hby := hrest.spellsWord
    have hspaceWord : ∀ mark ∈ space, mark.isWord = false := fun mark hmark =>
      Marked.isWord_of_hidden (by simpa using hspace mark hmark)
    simp only [List.append_assoc] at hsplit
    have hruns := wordSpans_pair hsplit hfresh hword hne hspaceWord hby hends
    have hdropWord : text.drop before.length = (word ++ (space ++ (rest ++ after))).map Prod.fst :=
      drop_of_scan_eq hsplit
    have hdropSpace := drop_of_drop_eq hdropWord
    have hdropRest := drop_of_drop_eq hdropSpace
    have hhidden : hiddenBetween text (before.length + word.length)
        (before.length + word.length + space.length) := by
      rw [hiddenBetween, hsplit, ← List.append_assoc, List.drop_left' (by simp)]
      simpa [List.all_eq_true] using hspace
    rw [KeywordsUnbroken, hruns, List.isChain_append_cons_cons] at hunbroken
    obtain ⟨-, hpair, -⟩ := hunbroken
    rw [slice_of_drop_eq hdropWord, slice_of_drop_eq hdropRest] at hpair
    have hblank := hpair (hpart _ hword.same) hby.same hhidden
    rw [blankBetween, slice_of_drop_eq hdropSpace, Text.allBlank, List.all_eq_true] at hblank
    refine ⟨.next hword hne (fun mark hmark => ?_) (.last hby), hfresh, hends⟩
    exact hblank mark.1 (List.mem_map_of_mem hmark)

theorem tight_clause (hunbroken : KeywordsUnbroken text) (clause : Clause) :
    ∀ name ∈ clause.opening :: clause.boundaries,
      Tight (fun mark => !mark.isVisible) (Text.fields name) (scan text) := by
  have hnames : ∀ name ∈ clause.opening :: clause.boundaries,
      Text.fields name = ["GROUP", "BY"] ∨ Text.fields name = ["ORDER", "BY"] ∨
        ∃ part ∈ (Text.fields name).head?, Text.fields name = [part] := by
    cases clause <;> decide
  intro name hname
  rcases hnames name hname with hfields | hfields | ⟨part, -, hfields⟩
  · rw [hfields]
    exact tight_pair hunbroken fun _ h => .inl h
  · rw [hfields]
    exact tight_pair hunbroken fun _ h => .inr h
  · rw [hfields]
    exact tight_single part _

end Keywords

variable {text : Text}

/-- Without its comments, a statement has the same clauses, with bodies that are the same but for
comments. -/
theorem clause_withoutComments (hclosed : CommentsClosed text) (hunbroken : KeywordsUnbroken text)
    (clause : Clause) :
    (ClauseReader.lexical.clause text clause = none ∧
        ClauseReader.lexical.clause (withoutComments text) clause = none) ∨
      ∃ result result', SameButComments result result' ∧
        ClauseReader.lexical.clause text clause = some result ∧
        ClauseReader.lexical.clause (withoutComments text) clause = some result' := by
  rcases extractClause_rewritten clause.opening clause.boundaries CommentSwap.unnoticed
      (rewritten_withoutComments hclosed) (tight_clause hunbroken clause) with
    hnone | ⟨body, body', hbodies, hbody, hbody', hsome, hsome'⟩
  · exact .inl hnone
  · exact .inr ⟨_, _, .of_rewritten hbodies hbody hbody', hsome, hsome'⟩

theorem hasKeyword_withoutComments (hclosed : CommentsClosed text) {keyword part : Text}
    (hpart : Text.fields keyword = [part]) :
    ClauseReader.lexical.hasKeyword (withoutComments text) keyword =
      ClauseReader.lexical.hasKeyword text keyword := by
  have hwords : ∀ name ∈ [keyword], Tight (fun mark => !mark.isVisible) (Text.fields name)
      (scan text) := by
    intro name hname
    obtain rfl := List.mem_singleton.mp hname
    rw [hpart]
    exact tight_single part _
  simp only [ClauseReader.lexical]
  rcases extractClause_rewritten keyword [] CommentSwap.unnoticed
      (rewritten_withoutComments hclosed) hwords with
    ⟨hnone, hnone'⟩ | ⟨body, body', -, -, -, hsome, hsome'⟩
  · rw [hnone, hnone']
  · rw [hsome, hsome']
    rfl

theorem tableNames_of_not_join {result : Text}
    (hjoin : ClauseReader.lexical.hasKeyword text "JOIN" = false)
    (hresult : ClauseReader.lexical.clause text .source = some result) :
    tableNames result = TableList.ofCommaList result :=
  tableNames_of_absent
    (absent_extractClause_of_absent (hasKeyword_eq_false_iff.mp hjoin) hresult)

namespace Rule

/-- No comment stands where the rule compares text: in the items of a FROM list for several tables,
in the items of the SELECT list and in what follows GROUP BY for ungrouped columns, in the SELECT
list and in the items after ORDER BY for sort columns. A word DISTINCT or ALL with a comment right
after it is not dropped from a SELECT list, so that with comments in the list it must not be an
item. -/
def ReadsNoComment : Rule → Text → Prop
  | commaInWhere, _ => True
  | implicitJoin, text => ClauseReader.lexical.hasKeyword text "JOIN" ∨
      ∀ tables ∈ ClauseReader.lexical.clause text .source,
        ∀ item ∈ splitItems tables, Uncommented item
  | ungroupedColumn, text =>
      (∀ grouping ∈ ClauseReader.lexical.clause text .grouping, Uncommented grouping) ∧
        ∀ selection ∈ ClauseReader.lexical.clause text .selection, Uncommented selection ∨
          (∀ item ∈ splitItems (dropQuantifier selection), Uncommented item) ∧
            ∀ item ∈ (splitItems selection).head?, isQuantifier item = false
  | danglingOrderBy, text =>
      (∀ selection ∈ ClauseReader.lexical.clause text .selection, Uncommented selection) ∧
        ∀ ordering ∈ ClauseReader.lexical.clause text .ordering,
          ∀ item ∈ splitItems ordering, Uncommented item

instance : ∀ rule text, Decidable (ReadsNoComment rule text)
  | commaInWhere, _ => inferInstanceAs (Decidable True)
  | implicitJoin, _ => inferInstanceAs (Decidable (_ ∨ _))
  | ungroupedColumn, _ => inferInstanceAs (Decidable (_ ∧ _))
  | danglingOrderBy, _ => inferInstanceAs (Decidable (_ ∧ _))

section Checks

variable (hclosed : CommentsClosed text) (hunbroken : KeywordsUnbroken text)
include hclosed hunbroken

theorem checkConditions_withoutComments :
    checkConditions .lexical (withoutComments text) = checkConditions .lexical text :=
  (checkConditions_rewritten CommentSwap.unnoticed CommentSwap.avoids_isListMark
    (rewritten_withoutComments hclosed) (tight_clause hunbroken .condition)).symm

theorem checkTables_withoutComments (hreads : implicitJoin.ReadsNoComment text) :
    checkTables .lexical (withoutComments text) = checkTables .lexical text := by
  have hkeyword := hasKeyword_withoutComments hclosed fields_join
  rw [checkTables, checkTables]
  rcases clause_withoutComments hclosed hunbroken .source with
    ⟨hnone, hnone'⟩ | ⟨tables, tables', hsame, hsome, hsome'⟩
  · rw [hnone, hnone']
    rfl
  by_cases hjoin : ClauseReader.lexical.hasKeyword text "JOIN"
  · simp only [hsome, hsome', hkeyword, hjoin, Option.bind_eq_bind, Option.bind_some, Bool.true_or,
      if_true]
  have hnot := Bool.not_eq_true _ |>.mp hjoin
  have hitems := hreads.resolve_left hjoin tables hsome
  have hnames : tableNames tables' = tableNames tables := by
    rw [tableNames_of_not_join (hkeyword.trans hnot) hsome', tableNames_of_not_join hnot hsome,
      TableList.ofCommaList, TableList.ofCommaList, hsame.splitItems_eq hitems]
  simp only [hsome, hsome', hkeyword, hnames, Option.bind_eq_bind, Option.bind_some]

theorem checkGrouping_withoutComments (hreads : ungroupedColumn.ReadsNoComment text) :
    checkGrouping .lexical (withoutComments text) = checkGrouping .lexical text := by
  obtain ⟨hgroupings, hselections⟩ := hreads
  rw [checkGrouping, checkGrouping]
  rcases clause_withoutComments hclosed hunbroken .grouping with
    ⟨hnone, hnone'⟩ | ⟨grouping, grouping', hsameGrouping, hgrouping, hgrouping'⟩
  · rw [hnone, hnone']
    rfl
  obtain rfl := hsameGrouping.eq_of_uncommented (hgroupings grouping hgrouping)
  rw [ClauseReader.projection, ClauseReader.projection]
  rcases clause_withoutComments hclosed hunbroken .selection with
    ⟨hnone, hnone'⟩ | ⟨selection, selection', hsame, hselection, hselection'⟩
  · rw [hgrouping, hgrouping', hnone, hnone']
  have hitems : splitItems (dropQuantifier selection') = splitItems (dropQuantifier selection) := by
    rcases hselections selection hselection with huncommented | ⟨hitems, hfirst⟩
    · rw [hsame.eq_of_uncommented huncommented]
    · exact hsame.splitItems_dropQuantifier_eq hitems hfirst
  simp [hgrouping, hgrouping', hselection, hselection', hitems]

theorem checkOrdering_withoutComments (hreads : danglingOrderBy.ReadsNoComment text) :
    checkOrdering .lexical (withoutComments text) = checkOrdering .lexical text := by
  obtain ⟨hselections, horderings⟩ := hreads
  rw [checkOrdering, checkOrdering]
  rcases clause_withoutComments hclosed hunbroken .ordering with
    ⟨hnone, hnone'⟩ | ⟨ordering, ordering', hsameOrdering, hordering, hordering'⟩
  · rw [hnone, hnone']
    rfl
  rw [ClauseReader.projection, ClauseReader.projection]
  rcases clause_withoutComments hclosed hunbroken .selection with
    ⟨hnone, hnone'⟩ | ⟨selection, selection', hsame, hselection, hselection'⟩
  · rw [hordering, hordering', hnone, hnone']
    rfl
  obtain rfl := hsame.eq_of_uncommented (hselections selection hselection)
  have hitems := hsameOrdering.splitItems_eq (horderings ordering hordering)
  simp [hordering, hordering', hselection, hselection', hitems]

end Checks

/-- Taken out of a statement, comments leave none behind, and the rules find the same without
them. -/
theorem detect_withoutComments {rules : List Rule} (hclosed : CommentsClosed text)
    (hunbroken : KeywordsUnbroken text) (hreads : ∀ rule ∈ rules, rule.ReadsNoComment text) :
    Uncommented (withoutComments text) ∧
      detect rules .lexical (withoutComments text) = detect rules .lexical text := by
  refine ⟨uncommented_withoutComments hclosed, List.filterMap_congr fun rule hrule => ?_⟩
  have hrule := hreads rule hrule
  cases rule with
  | commaInWhere => exact checkConditions_withoutComments hclosed hunbroken
  | implicitJoin => exact checkTables_withoutComments hclosed hunbroken hrule
  | ungroupedColumn => exact checkGrouping_withoutComments hclosed hunbroken hrule
  | danglingOrderBy => exact checkOrdering_withoutComments hclosed hunbroken hrule

/-- A statement with comments at the ends of its items and clauses, in which three rules find a
mistake. -/
def commentedStatement : Text :=
  "SELECT /* all */ a, b -- of both\nFROM t /* first */, u -- second\n" ++
    "WHERE x = 1 /* , */\nGROUP BY a -- key\nORDER BY b, /* then */ c"

theorem detect_withoutComments_commentedStatement :
    CommentsClosed commentedStatement ∧ KeywordsUnbroken commentedStatement ∧
      (∀ rule ∈ all, rule.ReadsNoComment commentedStatement) ∧
      (Uncommented (withoutComments commentedStatement) ∧
        detect all .lexical (withoutComments commentedStatement) =
          detect all .lexical commentedStatement) ∧
      detect all .lexical commentedStatement =
        [.implicitJoin, .ungroupedColumn "b", .danglingOrderBy "c"] := by
  have hclosed : CommentsClosed commentedStatement := by decide +kernel
  have hunbroken : KeywordsUnbroken commentedStatement := by decide +kernel
  have hreads : ∀ rule ∈ all, rule.ReadsNoComment commentedStatement := by decide +kernel
  exact ⟨hclosed, hunbroken, hreads, detect_withoutComments hclosed hunbroken hreads,
    by decide +kernel⟩

/-- Comments do not mean the same as white space everywhere: not between the words of a keyword,
not in the parentheses of a subquery, not after GROUP BY, not between a column and its alias, not
right after DISTINCT, not in front of a sort direction and not between the selected columns among
which a sort column is looked for. -/
theorem detect_withoutComments_ne :
    (["SELECT a, b FROM t GROUP/**/BY a",
      "SELECT 1 FROM t, (/**/ SELECT 1) x",
      "SELECT a, b FROM t GROUP BY a /* b */, a",
      "SELECT dept /* key */ AS d FROM t GROUP BY dept",
      "SELECT DISTINCT/**/, a FROM t GROUP BY a",
      "SELECT a FROM t ORDER BY 1 /* x */ DESC",
      "SELECT a /* b */, c FROM t ORDER BY b"] : List Text).all fun text =>
        decide (CommentsClosed text ∧
          (detect all .lexical (withoutComments text)).map (fun finding => finding.rule.id) ≠
            (detect all .lexical text).map fun finding => finding.rule.id) := by
  decide +kernel

end Rule

end QueryLint
