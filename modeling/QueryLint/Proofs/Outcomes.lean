import Mathlib.Data.List.Forall2
import QueryLint.Check.Checker

/-!
The shape of a result by its cause: how many problems and suggestions a check reports, and which
rule each of them comes from.
-/

namespace QueryLint

open Text

namespace Rule

theorem rule_of_check {rule : Rule} {reader : ClauseReader} {text : Text} {finding : Finding}
    (h : rule.check reader text = some finding) : finding.rule = rule := by
  cases rule with
  | commaInWhere =>
    simp only [check, checkConditions, Option.bind_eq_bind, Option.bind_eq_some_iff] at h
    obtain ⟨body, _, h⟩ := h
    split at h
    · cases h; rfl
    · cases h
  | implicitJoin =>
    simp only [check, checkTables, Option.bind_eq_bind, Option.bind_eq_some_iff] at h
    obtain ⟨body, _, h⟩ := h
    split at h
    · cases h
    · cases h; rfl
  | ungroupedColumn =>
    simp only [check, checkGrouping, Option.bind_eq_bind, Option.bind_eq_some_iff] at h
    obtain ⟨grouping, _, projection, _, item, _, h⟩ := h
    cases h; rfl
  | danglingOrderBy =>
    simp only [check, checkOrdering, Option.bind_eq_bind, Option.bind_eq_some_iff] at h
    obtain ⟨ordering, _, projection, _, h⟩ := h
    split at h
    · cases h
    · obtain ⟨column, _, h⟩ := Option.bind_eq_some_iff.mp h
      cases h; rfl

/-- The rules, in reporting order, that no identifier disables and that find something. -/
def firing (disabled : List Text) (text : Text) : List Rule :=
  (enabled disabled).filter fun rule => (rule.check .lexical text).isSome

/-- The findings are those of the firing rules, one for each and in their order. -/
theorem forall₂_firing_detect (rules : List Rule) (reader : ClauseReader) (text : Text) :
    List.Forall₂ (fun rule finding => rule.check reader text = some finding)
      (rules.filter fun rule => (rule.check reader text).isSome) (detect rules reader text) := by
  induction rules with
  | nil => exact .nil
  | cons rule rules ih =>
    cases hcheck : rule.check reader text with
    | none => simpa [detect, hcheck] using ih
    | some finding =>
      have hdetect : detect (rule :: rules) reader text = finding :: detect rules reader text := by
        simp [detect, hcheck]
      rw [hdetect, List.filter_cons_of_pos (by simp [hcheck])]
      exact .cons hcheck ih

end Rule

theorem Rejection.exists_remedy (rejection : Rejection) (text : Text) :
    ∃ remedy, rejection.remedy? text = some remedy := by
  have hgeneric : Remedy.generic ∈ Remedy.rules := by simp [Remedy.rules]
  apply Option.isSome_iff_exists.mp
  rw [Rejection.remedy?, List.findSome?_isSome_iff]
  exact ⟨Remedy.generic, hgeneric, rfl⟩

namespace Checker

variable {checker : Checker} {sql : Text}

theorem check_blank (h : allBlank sql) : checker.check sql = .emptyInput := by
  rw [check, if_pos h]

theorem check_brokeDown (hblank : ¬allBlank sql) (h : checker.grammar sql = .brokeDown) :
    checker.check sql = .internalFailure := by
  rw [check, if_neg hblank, h]

theorem check_rejected (hblank : ¬allBlank sql) {rejection : Rejection}
    (h : checker.grammar sql = .rejected rejection) :
    checker.check sql = .ofRejection checker.settings rejection sql := by
  rw [check, if_neg hblank, h]

theorem check_accepted (hblank : ¬allBlank sql) (h : checker.grammar sql = .accepted) :
    checker.check sql = .ofFindings (Rule.detect checker.rules .lexical sql) := by
  rw [check, if_neg hblank, h]

theorem of_ofSettings {settings : Settings} {grammar : Grammar}
    (h : ofSettings settings grammar = .ok checker) :
    checker.settings = settings ∧ checker.grammar = grammar := by
  unfold ofSettings at h
  cases hvalid : settings.validate with
  | error error => simp [hvalid, Except.map] at h
  | ok _ =>
    obtain rfl : Checker.mk settings grammar = checker := by simpa [hvalid, Except.map] using h
    exact ⟨rfl, rfl⟩

end Checker

namespace CheckResult

def Consistent (result : CheckResult) : Prop := result.isValid = result.errors.isEmpty

theorem consistent_clean : clean.Consistent := rfl

theorem consistent_invalid (outcome : Outcome) (errors suggestions : List Text) :
    (invalid outcome errors suggestions).Consistent := rfl

theorem consistent_ofFindings (findings : List Finding) : (ofFindings findings).Consistent := by
  rw [ofFindings]
  split
  · exact consistent_clean
  · exact consistent_invalid _ _ _

theorem ofRejection_shape (settings : Settings) (rejection : Rejection) (sql : Text) :
    (ofRejection settings rejection sql).outcome = .syntaxError ∧
      (ofRejection settings rejection sql).errors.length = 1 ∧
      (ofRejection settings rejection sql).suggestions.length =
        if settings.suggestFixes then 1 else 0 := by
  obtain ⟨remedy, hremedy⟩ := rejection.exists_remedy sql
  refine ⟨rfl, rfl, ?_⟩
  simp only [ofRejection, hremedy, invalid_suggestions]
  by_cases hfix : settings.suggestFixes = true <;> simp [hfix]

theorem ofFindings_shape (findings : List Finding) :
    (ofFindings findings).outcome = (if findings = [] then .clean else .structuralMistake) ∧
      (ofFindings findings).errors = findings.map (·.error) ∧
      (ofFindings findings).suggestions = findings.map (·.suggestion) := by
  cases findings with
  | nil => exact ⟨rfl, rfl, rfl⟩
  | cons finding findings => exact ⟨rfl, rfl, rfl⟩

end CheckResult

/-- A check finds no problem exactly when its outcome is clean. -/
theorem Checker.errors_eq_nil_iff_clean (checker : Checker) (sql : Text) :
    (checker.check sql).errors = [] ↔ (checker.check sql).outcome = .clean := by
  by_cases hblank : allBlank sql
  · rw [check_blank hblank]
    simp [CheckResult.emptyInput]
  cases hverdict : checker.grammar sql with
  | brokeDown =>
    rw [check_brokeDown hblank hverdict]
    simp [CheckResult.internalFailure]
  | rejected rejection =>
    rw [check_rejected hblank hverdict]
    simp [CheckResult.ofRejection]
  | accepted =>
    obtain ⟨houtcome, herrors, -⟩ :=
      CheckResult.ofFindings_shape (Rule.detect checker.rules .lexical sql)
    rw [check_accepted hblank hverdict, houtcome, herrors, List.map_eq_nil_iff]
    simp

theorem Checker.consistent_check (checker : Checker) (sql : Text) :
    (checker.check sql).Consistent := by
  by_cases hblank : allBlank sql
  · rw [check_blank hblank]
    exact CheckResult.consistent_invalid _ _ _
  cases hverdict : checker.grammar sql with
  | brokeDown =>
    rw [check_brokeDown hblank hverdict]
    exact CheckResult.consistent_invalid _ _ _
  | rejected rejection =>
    rw [check_rejected hblank hverdict]
    exact CheckResult.consistent_invalid _ _ _
  | accepted =>
    rw [check_accepted hblank hverdict]
    exact CheckResult.consistent_ofFindings _

theorem Checker.isValid_iff_errors_eq_nil (checker : Checker) (sql : Text) :
    (checker.check sql).isValid ↔ (checker.check sql).errors = [] := by
  rw [checker.consistent_check sql, List.isEmpty_iff]

theorem Checker.isValid_iff_clean (checker : Checker) (sql : Text) :
    (checker.check sql).isValid ↔ (checker.check sql).outcome = .clean := by
  rw [checker.isValid_iff_errors_eq_nil, checker.errors_eq_nil_iff_clean]

/-- Two checkers with the same rules give the same result for a statement that both accept. -/
theorem Checker.check_congr {checker other : Checker} {sql : Text}
    (hrules : other.settings.disabled = checker.settings.disabled)
    (h : checker.grammar sql = .accepted) (hother : other.grammar sql = .accepted) :
    other.check sql = checker.check sql := by
  by_cases hblank : allBlank sql
  · rw [check_blank hblank, check_blank hblank]
  · rw [check_accepted hblank h, check_accepted hblank hother, rules, rules, hrules]

/-- The result of a check has the shape of its cause. A blank statement, a grammar that breaks
down and a rejection give one problem each; an accepted statement gives one problem and one
suggestion for every rule that fires, in the order of the rules, and depends on no other
setting. -/
theorem Checker.check_shape {settings : Settings} {grammar : Grammar} {checker : Checker}
    (h : Checker.ofSettings settings grammar = .ok checker) (sql : Text) :
    let result := checker.check sql
    let firing := Rule.firing settings.disabled sql
    (allBlank sql → result.outcome = .emptyInput ∧ result.errors.length = 1 ∧
      result.suggestions.length = 1) ∧
    (¬allBlank sql → grammar sql = .brokeDown → result.outcome = .internalFailure ∧
      result.errors.length = 1 ∧ result.suggestions = []) ∧
    (¬allBlank sql → ∀ rejection, grammar sql = .rejected rejection →
      result.outcome = .syntaxError ∧ result.errors.length = 1 ∧
      result.suggestions.length = if settings.suggestFixes then 1 else 0) ∧
    (¬allBlank sql → grammar sql = .accepted →
      result.outcome = (if firing = [] then .clean else .structuralMistake) ∧
      (firing = [] → result.errors = [] ∧ result.suggestions = []) ∧
      result.errors.length = result.suggestions.length ∧
      ∃ findings : List Finding,
        List.Forall₂ (fun rule finding => rule.check .lexical sql = some finding ∧
          finding.rule = rule) firing findings ∧
        result.errors = findings.map (·.error) ∧
        result.suggestions = findings.map (·.suggestion)) ∧
    (result.isValid ↔ result.errors = []) ∧
    (result.errors = [] ↔ result.outcome = .clean) ∧
    (∀ (otherSettings : Settings) (otherGrammar : Grammar) (other : Checker),
      Checker.ofSettings otherSettings otherGrammar = .ok other →
      otherSettings.disabled = settings.disabled →
      grammar sql = .accepted → otherGrammar sql = .accepted → other.check sql = result) := by
  obtain ⟨rfl, rfl⟩ := of_ofSettings h
  intro result firing
  refine ⟨?blank, ?brokeDown, ?rejected, ?accepted, ?valid, ?clean, ?settings⟩
  case blank =>
    intro hblank
    simp only [result, check_blank hblank]
    exact ⟨rfl, rfl, rfl⟩
  case brokeDown =>
    intro hblank hverdict
    simp only [result, check_brokeDown hblank hverdict]
    exact ⟨rfl, rfl, rfl⟩
  case rejected =>
    intro hblank rejection hverdict
    simp only [result, check_rejected hblank hverdict]
    exact CheckResult.ofRejection_shape checker.settings rejection sql
  case accepted =>
    intro hblank hverdict
    have hpaired := Rule.forall₂_firing_detect checker.rules .lexical sql
    obtain ⟨houtcome, herrors, hsuggestions⟩ :=
      CheckResult.ofFindings_shape (Rule.detect checker.rules .lexical sql)
    have hnil : firing = [] ↔ Rule.detect checker.rules .lexical sql = [] := by
      rw [← List.length_eq_zero_iff, ← List.length_eq_zero_iff]
      exact hpaired.length_eq ▸ Iff.rfl
    simp only [result, check_accepted hblank hverdict, houtcome, herrors, hsuggestions, hnil,
      List.length_map, List.map_eq_nil_iff, true_and]
    refine ⟨fun h => ⟨h, h⟩, _, hpaired.imp ?_, rfl, rfl⟩
    intro rule finding hcheck
    exact ⟨hcheck, Rule.rule_of_check hcheck⟩
  case valid => exact checker.isValid_iff_errors_eq_nil sql
  case clean => exact checker.errors_eq_nil_iff_clean sql
  case settings =>
    intro otherSettings otherGrammar other hother hrules haccepted hotherAccepted
    obtain ⟨rfl, rfl⟩ := of_ofSettings hother
    exact check_congr hrules haccepted hotherAccepted

theorem Checker.check_shape_two_rules :
    let settings : Settings := { disabled := ["mistake001"] }
    let checker : Checker := ⟨settings, fun _ => .accepted⟩
    let sql : Text := "SELECT a FROM t, u WHERE a = 1, b = 2 ORDER BY b"
    Checker.ofSettings settings checker.grammar = .ok checker ∧
      Rule.firing settings.disabled sql = [.implicitJoin, .danglingOrderBy] ∧
      (checker.check sql).outcome = .structuralMistake ∧
      (checker.check sql).errors.length = 2 ∧ (checker.check sql).suggestions.length = 2 := by
  intro settings checker sql
  have hsettings : Checker.ofSettings settings checker.grammar = .ok checker := by rfl
  have hblank : ¬allBlank sql := by decide
  have hfiring : Rule.firing settings.disabled sql = [.implicitJoin, .danglingOrderBy] := by
    decide +kernel
  obtain ⟨-, -, -, haccepted, -⟩ := check_shape hsettings sql
  obtain ⟨houtcome, -, hlength, findings, hpaired, herrors, -⟩ := haccepted hblank rfl
  have herrors : (checker.check sql).errors.length = 2 := by
    rw [herrors, List.length_map, ← hpaired.length_eq, hfiring]
    rfl
  exact ⟨hsettings, hfiring, by rw [houtcome, hfiring]; rfl, herrors, hlength ▸ herrors⟩

end QueryLint
