import QueryLint.Proofs.Guarded.Lists
import QueryLint.Proofs.Guarded.Messages
import QueryLint.Proofs.Outcomes

/-!
A check on byte offsets. The rules and the messages are those of the guarded readings, a grammar
may break down, and whatever fails in the analysis of a statement is caught. Nothing but the grammar
does fail.
-/

namespace QueryLint.Guarded

open Text Utf8 TableList

def clause? (text : Text) (clause : Clause) : Option (Option Text) :=
  extractClause? text clause.opening clause.boundaries

def hasKeyword? (text keyword : Text) : Option Bool := do
  let body ← extractClause? text keyword []
  return body.isSome

def projection? (text : Text) : Option (Option Text) := do
  let selection ← clause? text .selection
  return selection.map dropQuantifier

theorem clause?_eq (text : Text) (clause : Clause) :
    clause? text clause = some (ClauseReader.lexical.clause text clause) :=
  extractClause?_eq text clause.opening clause.boundaries

theorem hasKeyword?_eq (text keyword : Text) :
    hasKeyword? text keyword = some (ClauseReader.lexical.hasKeyword text keyword) := by
  rw [hasKeyword?, extractClause?_eq]
  rfl

theorem projection?_eq (text : Text) :
    projection? text = some (ClauseReader.lexical.projection text) := by
  rw [projection?, clause?_eq]
  rfl

def checkConditions? (text : Text) : Option (Option Finding) := do
  match ← clause? text .condition with
  | none => return none
  | some body => return if (topLevelCommas body).isEmpty then none else some .commaInWhere

def checkTables? (text : Text) : Option (Option Finding) := do
  match ← clause? text .source with
  | none => return none
  | some body =>
    let joined ← hasKeyword? text "JOIN"
    let names ← tableNames? body
    return if joined || names.length < 2 then none else some .implicitJoin

def isUngrouped? (grouping item : Text) : Option Bool := do
  let name ← bareName? item
  return !Selection.isAggregate item && !Selection.isWildcard item && !Selection.isLiteral item
    && !name.isEmpty && !Text.contains grouping (lower name)

def checkGrouping? (text : Text) : Option (Option Finding) := do
  match ← clause? text .grouping with
  | none => return none
  | some grouping =>
    match ← projection? text with
    | none => return none
    | some projection =>
      let items ← splitItems? projection
      let item ← items.findM? (isUngrouped? (lower grouping))
      return item.map .ungroupedColumn

def isDangling? (selection column : Text) : Option Bool := do
  let name ← bareName? column
  let bare := lower name
  return !column.isEmpty && !column.all Char.isDigit && !Text.contains selection (lower column)
    && (bare.isEmpty || !Text.contains selection bare)

def checkOrdering? (text : Text) : Option (Option Finding) := do
  match ← clause? text .ordering with
  | none => return none
  | some ordering =>
    match ← projection? text with
    | none => return none
    | some projection =>
      if Selection.isWildcard projection then return none
      else
        let items ← splitItems? ordering
        let columns := items.map Selection.sortColumn
        let column ← columns.findM? (isDangling? (lower projection))
        return column.map .danglingOrderBy

def checkRule? : Rule → Text → Option (Option Finding)
  | .commaInWhere => checkConditions?
  | .implicitJoin => checkTables?
  | .ungroupedColumn => checkGrouping?
  | .danglingOrderBy => checkOrdering?

theorem checkConditions?_eq (text : Text) :
    checkConditions? text = some (Rule.checkConditions .lexical text) := by
  simp only [checkConditions?, Rule.checkConditions, clause?_eq, Option.bind_eq_bind,
    Option.bind_some]
  cases ClauseReader.lexical.clause text .condition with
  | none => rfl
  | some body =>
    have hcomma : (topLevelCommas body).isEmpty = !hasTopLevelComma body := by
      rw [topLevelCommas_eq, List.isEmpty_map, hasTopLevelComma, Bool.not_not]
    simp only [Option.bind_some, hcomma]
    cases hasTopLevelComma body with
    | true => rfl
    | false => rfl

theorem checkTables?_eq (text : Text) :
    checkTables? text = some (Rule.checkTables .lexical text) := by
  simp only [checkTables?, Rule.checkTables, clause?_eq, hasKeyword?_eq, Option.bind_eq_bind,
    Option.bind_some]
  cases ClauseReader.lexical.clause text .source with
  | none => rfl
  | some body =>
    simp only [Option.bind_some, tableNames?_eq]
    rfl

theorem isUngrouped?_eq (grouping : Text) :
    isUngrouped? grouping = fun item => pure (Rule.isUngrouped grouping item) := by
  funext item
  rw [isUngrouped?, bareName?_eq]
  rfl

theorem checkGrouping?_eq (text : Text) :
    checkGrouping? text = some (Rule.checkGrouping .lexical text) := by
  simp only [checkGrouping?, Rule.checkGrouping, clause?_eq, projection?_eq, Option.bind_eq_bind,
    Option.bind_some]
  cases ClauseReader.lexical.clause text .grouping with
  | none => rfl
  | some grouping =>
    simp only [Option.bind_some]
    cases ClauseReader.lexical.projection text with
    | none => rfl
    | some projection =>
      simp only [Option.bind_some, splitItems?_eq, isUngrouped?_eq, List.findM?_pure]
      cases (splitItems projection).find? (Rule.isUngrouped (lower grouping)) with
      | none => rfl
      | some item => rfl

theorem isDangling?_eq (selection : Text) :
    isDangling? selection = fun column => pure (Rule.isDangling selection column) := by
  funext column
  rw [isDangling?, bareName?_eq]
  rfl

theorem checkOrdering?_eq (text : Text) :
    checkOrdering? text = some (Rule.checkOrdering .lexical text) := by
  simp only [checkOrdering?, Rule.checkOrdering, clause?_eq, projection?_eq, Option.bind_eq_bind,
    Option.bind_some]
  cases ClauseReader.lexical.clause text .ordering with
  | none => rfl
  | some ordering =>
    simp only [Option.bind_some]
    cases ClauseReader.lexical.projection text with
    | none => rfl
    | some projection =>
      simp only [Option.bind_some, splitItems?_eq, isDangling?_eq, List.findM?_pure]
      cases Selection.isWildcard projection with
      | true => rfl
      | false =>
        cases ((splitItems ordering).map Selection.sortColumn).find?
            (Rule.isDangling (lower projection)) with
        | none => rfl
        | some column => rfl

theorem checkRule?_eq (rule : Rule) (text : Text) :
    checkRule? rule text = some (rule.check .lexical text) := by
  cases rule with
  | commaInWhere => exact checkConditions?_eq text
  | implicitJoin => exact checkTables?_eq text
  | ungroupedColumn => exact checkGrouping?_eq text
  | danglingOrderBy => exact checkOrdering?_eq text

def detect? (rules : List Rule) (text : Text) : Option (List Finding) := do
  let findings ← rules.mapM fun rule => checkRule? rule text
  return findings.filterMap id

def syntaxError? (settings : Settings) (rejection : Rejection) (sql : Text) :
    Option CheckResult := do
  let error ← match settings.wording with
    | .friendly => friendlyWording? rejection sql
    | .raw => some rejection.rawWording
  let suggestion ← if settings.suggestFixes then remedy? rejection sql else some none
  return .invalid .syntaxError [error] suggestion.toList

/-- The analysis of a statement, which a failure anywhere in it ends. -/
def analyze? (checker : Checker) (sql : Text) : Option CheckResult :=
  match checker.grammar sql with
  | .brokeDown => none
  | .rejected rejection => syntaxError? checker.settings rejection sql
  | .accepted => do
    let findings ← detect? checker.rules sql
    return .ofFindings findings

/-- Checks one statement; a failure of the analysis is caught. -/
def check (checker : Checker) (sql : Text) : CheckResult :=
  if allBlank sql then .emptyInput else (analyze? checker sql).getD .internalFailure

theorem detect?_eq (rules : List Rule) (text : Text) :
    detect? rules text = some (Rule.detect rules .lexical text) := by
  have hfindings : rules.mapM (fun rule => checkRule? rule text) =
      some (rules.map fun rule => rule.check .lexical text) :=
    mapM_eq_some fun rule _ => checkRule?_eq rule text
  rw [detect?, hfindings]
  simp [Rule.detect, List.filterMap_map]

theorem syntaxError?_eq (settings : Settings) (rejection : Rejection) (sql : Text) :
    syntaxError? settings rejection sql = some (.ofRejection settings rejection sql) := by
  simp only [syntaxError?, CheckResult.ofRejection, friendlyWording?_eq, remedy?_eq]
  cases settings.wording <;> cases settings.suggestFixes <;> rfl

theorem analyze?_eq (checker : Checker) (sql : Text) :
    analyze? checker sql =
      match checker.grammar sql with
      | .brokeDown => none
      | .rejected rejection => some (.ofRejection checker.settings rejection sql)
      | .accepted => some (.ofFindings (Rule.detect checker.rules .lexical sql)) := by
  rw [analyze?]
  cases checker.grammar sql with
  | brokeDown => rfl
  | rejected rejection => exact syntaxError?_eq checker.settings rejection sql
  | accepted =>
    rw [detect?_eq]
    rfl

theorem check_eq (checker : Checker) (sql : Text) : check checker sql = checker.check sql := by
  rw [check, Checker.check, analyze?_eq]
  cases checker.grammar sql with
  | brokeDown => rfl
  | rejected rejection => rfl
  | accepted => rfl

theorem analyze?_eq_none_iff (checker : Checker) (sql : Text) :
    analyze? checker sql = none ↔ checker.grammar sql = .brokeDown := by
  rw [analyze?_eq]
  cases checker.grammar sql <;> simp

theorem check_internalFailure_iff {checker : Checker} {sql : Text} (hblank : ¬allBlank sql) :
    (check checker sql).outcome = .internalFailure ↔ checker.grammar sql = .brokeDown := by
  rw [check, if_neg hblank, analyze?_eq]
  cases checker.grammar sql with
  | brokeDown => simp [CheckResult.internalFailure]
  | rejected rejection => simp [CheckResult.ofRejection]
  | accepted =>
    obtain ⟨houtcome, -⟩ := CheckResult.ofFindings_shape (Rule.detect checker.rules .lexical sql)
    simp only [Option.getD_some, houtcome, reduceCtorEq, iff_false]
    split <;> simp

/-- A keyword can be looked for from any byte on, even one inside a character. -/
theorem exists_findKeyword? (text keyword : Text) (start : Nat) :
    ∃ found, findKeyword? text ((wordSpans text).dropWhile (·.start < start)) keyword =
      some found := by
  have hwords := wordList_wordSpans text
  rw [wordSpans_eq, List.dropWhile_map]
  exact ⟨_, findKeyword?_eq (hwords.sublist (List.dropWhile_sublist _)) keyword⟩

/-- No slice, index or subtraction of the analysis is out of range, whatever the texts, the
positions and the messages are, so that nothing but the grammar can break down. -/
theorem analysis_total {settings : Settings} {grammar : Grammar} {checker : Checker}
    (haccepted : Checker.ofSettings settings grammar = .ok checker) (sql : Text) :
    (∀ text opening boundaries, extractClause? text opening boundaries =
      some (extractClause text opening boundaries)) ∧
    (∀ text keyword start, ∃ found,
      findKeyword? text ((wordSpans text).dropWhile (·.start < start)) keyword = some found) ∧
    (∀ text, trimCode? text = some (trimCode text)) ∧
    (∀ text, splitItems? text = some (splitItems text)) ∧
    (∀ text, bareName? text = some (bareName text)) ∧
    (∀ text, dropCondition? text = some (text.take (conditionStart text))) ∧
    (∀ text, tableNames? text = some (tableNames text)) ∧
    (∀ text position, snippet? text position = some (QueryLint.snippet? text position)) ∧
    (∀ a b, editDistance? a b = some (editDistance a b)) ∧
    (∀ rejection text, unbalancedParentheses? rejection text =
      some (Remedy.unbalancedParentheses rejection text)) ∧
    (analyze? checker sql = none ↔ grammar sql = .brokeDown) ∧
    check checker sql = checker.check sql ∧
    (¬allBlank sql →
      ((checker.check sql).outcome = .internalFailure ↔ grammar sql = .brokeDown)) := by
  obtain ⟨-, rfl⟩ := Checker.of_ofSettings haccepted
  refine ⟨extractClause?_eq, exists_findKeyword?, trimCode?_eq, splitItems?_eq, bareName?_eq,
    dropCondition?_eq, tableNames?_eq, snippet?_eq, editDistance?_eq, unbalancedParentheses?_eq,
    analyze?_eq_none_iff checker sql, check_eq checker sql, fun hblank => ?_⟩
  rw [← check_eq]
  exact check_internalFailure_iff hblank

theorem analysis_total_wide :
    let sql : Text := "SELECT é FROM 表 LEFT JOIN b ON 𝒙 = 'ß"
    let grammar : Grammar := fun text => if text = sql then .brokeDown else .accepted
    let checker : Checker := ⟨{}, grammar⟩
    Checker.ofSettings {} grammar = .ok checker ∧ ¬allBlank sql ∧
      analyze? checker sql = none ∧ (checker.check sql).outcome = .internalFailure ∧
      ¬(checker.check (';' :: sql)).outcome = .internalFailure := by
  intro sql grammar checker
  have haccepted : Checker.ofSettings {} grammar = .ok checker := by rfl
  have hblank : ¬allBlank sql := by decide
  have hblank' : ¬allBlank (';' :: sql) := by decide
  have hbrokeDown : grammar sql = .brokeDown := if_pos rfl
  have hother : ¬grammar (';' :: sql) = .brokeDown := by
    simp [grammar]
  obtain ⟨-, -, -, -, -, -, -, -, -, -, hnone, -, hfailure⟩ := analysis_total haccepted sql
  obtain ⟨-, -, -, -, -, -, -, -, -, -, -, -, hfailure'⟩ := analysis_total haccepted (';' :: sql)
  exact ⟨haccepted, hblank, hnone.mpr hbrokeDown, (hfailure hblank).mpr hbrokeDown,
    fun h => hother ((hfailure' hblank').mp h)⟩

end QueryLint.Guarded
