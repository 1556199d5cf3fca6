import QueryLint.Proofs.AcceptedSettings
import QueryLint.Proofs.ScriptReports

/-!
What the presentation of a report leaves alone. The format, colours, suggestions and the wording
decide how problems are told. Which statements have problems, how many these are and how the check
ends does not depend on them.
-/

namespace QueryLint

/-- What an entry of a report says in every presentation. -/
structure StatementVerdict where
  index : Nat
  line : Nat
  sql : Text
  isValid : Bool
  outcome : Outcome
  /-- The number of problems of the statement. -/
  problems : Nat
  deriving DecidableEq, Repr

def StatementReport.verdict (entry : StatementReport) : StatementVerdict :=
  ⟨entry.index, entry.line, entry.sql, entry.result.isValid, entry.result.outcome,
    entry.result.errors.length⟩

namespace Report

/-- What a report says in every presentation. -/
def verdicts (report : Report) : List StatementVerdict := report.statements.map (·.verdict)

theorem invalidCount_eq_countP (report : Report) :
    report.invalidCount = report.verdicts.countP (!·.isValid) := by
  rw [verdicts, List.countP_map]
  rfl

theorem exitCode_congr {report other : Report} (h : other.verdicts = report.verdicts) :
    other.exitCode = report.exitCode := by
  simp only [exitCode, allValid, invalidCount_eq_countP, h]

end Report

namespace Checker

theorem isValid_eq_decide (checker : Checker) (sql : Text) :
    (checker.check sql).isValid = decide ((checker.check sql).errors.length = 0) := by
  rw [Bool.eq_iff_iff, checker.isValid_iff_errors_eq_nil, decide_eq_true_iff,
    List.length_eq_zero_iff]

/-- Checkers that ask the same grammar and apply the same rules. -/
structure JudgesLike (checker other : Checker) : Prop where
  grammar : other.grammar = checker.grammar
  disabled : other.settings.disabled = checker.settings.disabled

namespace JudgesLike

variable {checker other : Checker}

theorem check (h : JudgesLike checker other) (sql : Text) :
    (other.check sql).outcome = (checker.check sql).outcome ∧
      (other.check sql).errors.length = (checker.check sql).errors.length := by
  by_cases hblank : Text.allBlank sql
  · rw [check_blank hblank, check_blank hblank]
    exact ⟨rfl, rfl⟩
  have hsame : other.grammar sql = checker.grammar sql := by rw [h.grammar]
  cases hverdict : checker.grammar sql with
  | brokeDown =>
    rw [check_brokeDown hblank hverdict, check_brokeDown hblank (hsame.trans hverdict)]
    exact ⟨rfl, rfl⟩
  | rejected rejection =>
    rw [check_rejected hblank hverdict, check_rejected hblank (hsame.trans hverdict)]
    obtain ⟨houtcome, hlength, -⟩ := CheckResult.ofRejection_shape checker.settings rejection sql
    obtain ⟨houtcome', hlength', -⟩ := CheckResult.ofRejection_shape other.settings rejection sql
    exact ⟨houtcome'.trans houtcome.symm, hlength'.trans hlength.symm⟩
  | accepted =>
    rw [check_congr h.disabled hverdict (hsame.trans hverdict)]
    exact ⟨rfl, rfl⟩

theorem verdict (h : JudgesLike checker other) (index line : Nat) (sql : Text) :
    (StatementReport.mk index line sql (other.check sql)).verdict =
      (StatementReport.mk index line sql (checker.check sql)).verdict := by
  obtain ⟨houtcome, hlength⟩ := h.check sql
  simp only [StatementReport.verdict, Checker.isValid_eq_decide, houtcome, hlength]

theorem map_verdict_numbered (h : JudgesLike checker other) (index : Nat)
    (statements : List Statement) :
    (Report.numbered other index statements).map (·.verdict) =
      (Report.numbered checker index statements).map (·.verdict) := by
  induction statements generalizing index with
  | nil => rfl
  | cons statement statements ih =>
    simp only [Report.numbered, List.map_cons, ih, h.verdict]

theorem verdicts_checkScript (h : JudgesLike checker other) (script : Text) :
    (other.checkScript script).verdicts = (checker.checkScript script).verdicts := by
  by_cases hnil : Script.statements script = []
  · rw [checkScript_of_nil _ hnil, checkScript_of_nil _ hnil]
    simp only [Report.verdicts, List.map_cons, List.map_nil, h.verdict]
  · rw [checkScript_of_ne_nil _ hnil, checkScript_of_ne_nil _ hnil]
    exact h.map_verdict_numbered 1 _

end JudgesLike

end Checker

/-- The choices that only concern how problems are told: those of the command line, and the two
that a configuration makes. -/
structure Presentation where
  format : Format
  noColour : Bool
  noSuggest : Bool
  rawErrors : Bool
  suggestFixes : Bool
  wording : Option Text

def CheckOptions.presented (options : CheckOptions) (presentation : Presentation) : CheckOptions :=
  { options with
    format := presentation.format
    noColour := presentation.noColour
    noSuggest := presentation.noSuggest
    rawErrors := presentation.rawErrors }

def Configuration.presented (configuration : Configuration) (presentation : Presentation) :
    Configuration :=
  { configuration with
    suggestFixes := presentation.suggestFixes
    wording := presentation.wording }

namespace CheckOptions

variable {options : CheckOptions} {configuration : Configuration} {grammar : Dialect → Grammar}
  {checker : Checker}

/-- Another presentation with a wording that exists is accepted as well, and gives a checker that
judges alike. -/
theorem exists_checker_presented {presentation other : Presentation}
    (h : (options.presented presentation).checker (configuration.presented presentation) grammar =
      .ok checker)
    (hwording : ∀ name ∈ other.wording, ∃ wording, Wording.ofName name = .ok wording) :
    ∃ otherChecker,
      (options.presented other).checker (configuration.presented other) grammar =
        .ok otherChecker ∧
      checker.JudgesLike otherChecker ∧
      otherChecker.settings.dialect = checker.settings.dialect := by
  obtain ⟨settings, hsettings, rfl, hknown⟩ := checker_eq_ok_iff.mp h
  obtain ⟨hdialect, -, -, hdisabled, hrules⟩ := Configuration.settings_eq_ok_iff.mp hsettings
  have hresolved : ∃ wording, resolve Wording.ofName .friendly other.wording = .ok wording :=
    exists_resolve_iff.mpr hwording
  obtain ⟨wording, hwording⟩ := hresolved
  have hother : (configuration.presented other).settings =
      .ok { settings with suggestFixes := other.suggestFixes, wording } :=
    Configuration.settings_eq_ok_iff.mpr ⟨hdialect, hwording, rfl, hdisabled, hrules⟩
  exact ⟨_, checker_eq_ok_iff.mpr ⟨_, hother, rfl, hknown⟩, ⟨rfl, rfl⟩, rfl⟩

/-- The verdict on a script is the same in every presentation: where one presentation gives a
checker, so does another whose wording exists, and both checkers report the same statements on the
same lines with the same outcomes and numbers of problems, and end with the same exit code. So does
the tool, whatever it writes to. -/
theorem verdict_of_presentation {presentation other : Presentation}
    (h : (options.presented presentation).checker (configuration.presented presentation) grammar =
      .ok checker)
    (hwording : ∀ name ∈ other.wording, ∃ wording, Wording.ofName name = .ok wording) :
    ∃ otherChecker,
      (options.presented other).checker (configuration.presented other) grammar =
        .ok otherChecker ∧
      otherChecker.settings.dialect = checker.settings.dialect ∧
      (∀ script, (otherChecker.checkScript script).verdicts =
          (checker.checkScript script).verdicts ∧
        (otherChecker.checkScript script).exitCode = (checker.checkScript script).exitCode) ∧
      ∀ script terminal otherTerminal, ∃ result otherResult,
        (options.presented presentation).run (configuration.presented presentation) grammar
          (.ok script) terminal = .ok result ∧
        (options.presented other).run (configuration.presented other) grammar
          (.ok script) otherTerminal = .ok otherResult ∧
        otherResult.exitCode = result.exitCode := by
  obtain ⟨otherChecker, hother, hjudges, hdialect⟩ := exists_checker_presented h hwording
  have hverdicts := hjudges.verdicts_checkScript
  refine ⟨otherChecker, hother, hdialect, fun script => ?_, fun script terminal otherTerminal => ?_⟩
  · exact ⟨hverdicts script, Report.exitCode_congr (hverdicts script)⟩
  · exact ⟨_, _, run_eq_ok h script terminal, run_eq_ok hother script otherTerminal,
      Report.exitCode_congr (hverdicts script)⟩

theorem verdict_of_presentation_raw :
    let options : CheckOptions := { dialect := some .mysql, disable := ["mistake002"] }
    let configuration : Configuration := { dialect := some "PG", disabled := ["MISTAKE004"] }
    let presentation : Presentation := ⟨.text, false, false, false, true, none⟩
    let other : Presentation := ⟨.json, true, true, true, false, some "Raw"⟩
    let rejection : Rejection := ⟨"Expected: an SQL statement, found: SELCT", some 0⟩
    let grammar : Dialect → Grammar := fun dialect sql =>
      if dialect = .mysql && sql = "SELCT 1" then .rejected rejection else .accepted
    let checker : Checker :=
      ⟨⟨.mysql, true, .friendly, ["MISTAKE004", "mistake002"]⟩, grammar .mysql⟩
    let script : Text := "SELCT 1;\nSELECT a, b FROM t, u GROUP BY a"
    (options.presented presentation).checker (configuration.presented presentation) grammar =
      .ok checker ∧
    (∀ name ∈ other.wording, ∃ wording, Wording.ofName name = .ok wording) ∧
    ∃ otherChecker,
      (options.presented other).checker (configuration.presented other) grammar =
        .ok otherChecker ∧
      (otherChecker.checkScript script).verdicts =
        [⟨1, 1, "SELCT 1", false, .syntaxError, 1⟩,
          ⟨2, 2, "SELECT a, b FROM t, u GROUP BY a", false, .structuralMistake, 1⟩] := by
  intro options configuration presentation other rejection grammar checker script
  have hchecker : (options.presented presentation).checker
      (configuration.presented presentation) grammar = .ok checker := by rfl
  have hwording : ∀ name ∈ other.wording, ∃ wording, Wording.ofName name = .ok wording := by
    rintro name ⟨⟩
    exact ⟨.raw, by rfl⟩
  have hverdicts : (checker.checkScript script).verdicts =
      [⟨1, 1, "SELCT 1", false, .syntaxError, 1⟩,
        ⟨2, 2, "SELECT a, b FROM t, u GROUP BY a", false, .structuralMistake, 1⟩] := by
    decide +kernel
  obtain ⟨otherChecker, hother, -, hscripts, -⟩ := verdict_of_presentation hchecker hwording
  exact ⟨hchecker, hwording, otherChecker, hother, by rw [(hscripts script).1, hverdicts]⟩

end CheckOptions

end QueryLint
