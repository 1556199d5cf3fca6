import Mathlib.Data.List.Forall2
import QueryLint.Proofs.Outcomes
import QueryLint.Proofs.StatementPlaces
import QueryLint.Report.Basic

/-!
The report on a script: which part of the script each entry is about, and that this part is
judged as it would be on its own.
-/

namespace QueryLint

namespace Script

theorem of_statementOf {script : Text} {segment : Span} {statement : Statement}
    (h : statementOf? script segment = some statement) :
    statement.sql = Text.trim (segment.slice script) ∧ statement.sql ≠ [] ∧
      statement.line = (script.take (segment.start +
        ((segment.slice script).takeWhile Text.isBlank).length)).count '\n' + 1 := by
  simp only [statementOf?] at h
  split at h
  · cases h
  · rename_i hne
    cases h
    exact ⟨rfl, by simpa using hne, rfl⟩

/-- A trimmed text without cuts is a script of one statement. -/
theorem statements_of_cuts_eq_nil {sql : Text} (hne : sql ≠ []) (htrim : Text.trim sql = sql)
    (hcuts : cuts sql = []) : statements sql = [⟨1, sql⟩] := by
  have hslice : (Span.mk 0 sql.length).slice sql = sql := by simp [Span.slice]
  have hblank : sql.takeWhile Text.isBlank = [] := by
    rw [← htrim]
    exact Text.takeWhile_isBlank_trim sql
  have hone : statementOf? sql ⟨0, sql.length⟩ = some ⟨1, sql⟩ := by
    simp [statementOf?, hslice, htrim, hblank, hne]
  simp [statements, hcuts, spansBetween, hone]

theorem statements_of_mem {script : Text} {statement : Statement}
    (h : statement ∈ statements script) : statements statement.sql = [⟨1, statement.sql⟩] := by
  obtain ⟨segment, hsegment, hstatement⟩ := List.mem_filterMap.mp h
  obtain ⟨hsql, hne, -⟩ := of_statementOf hstatement
  have hcuts := cuts_trim (cuts_segment hsegment)
  rw [← hsql] at hcuts
  exact statements_of_cuts_eq_nil hne (by rw [hsql, Text.trim_trim]) hcuts

end Script

def StatementReport.statement (entry : StatementReport) : Statement := ⟨entry.line, entry.sql⟩

namespace Report

variable (checker : Checker)

theorem map_index_numbered (index : Nat) (statements : List Statement) :
    (numbered checker index statements).map (·.index) = List.range' index statements.length := by
  induction statements generalizing index with
  | nil => rfl
  | cons statement statements ih => simp [numbered, ih, List.range'_succ]

theorem map_statement_numbered (index : Nat) (statements : List Statement) :
    (numbered checker index statements).map (·.statement) = statements := by
  induction statements generalizing index with
  | nil => rfl
  | cons statement statements ih =>
    rw [numbered, List.map_cons, ih]
    rfl

theorem result_of_mem_numbered {index : Nat} {statements : List Statement}
    {entry : StatementReport} (h : entry ∈ numbered checker index statements) :
    entry.result = checker.check entry.sql := by
  induction statements generalizing index with
  | nil => cases h
  | cons statement statements ih =>
    rcases List.mem_cons.mp h with rfl | h
    · rfl
    · exact ih h

theorem exitCode_eq_zero_iff (report : Report) : report.exitCode = 0 ↔ report.invalidCount = 0 := by
  simp [exitCode, allValid]

theorem invalidCount_eq_zero_iff (report : Report) :
    report.invalidCount = 0 ↔ ∀ entry ∈ report.statements, entry.result.isValid := by
  simp [invalidCount, List.countP_eq_zero]

end Report

namespace Checker

variable (checker : Checker)

theorem checkScript_of_nil {script : Text} (h : Script.statements script = []) :
    checker.checkScript script = ⟨[⟨1, 1, [], checker.check []⟩]⟩ := by
  rw [checkScript, h]

theorem checkScript_of_ne_nil {script : Text} (h : Script.statements script ≠ []) :
    checker.checkScript script = ⟨Report.numbered checker 1 (Script.statements script)⟩ := by
  rw [checkScript]
  split
  · contradiction
  · rfl

/-- What an entry is about is a part of the script. In a script without statements it is the empty
text before the first character. -/
theorem exists_placed_checkScript (script : Text) :
    ∃ spans : List Span, spans.Pairwise (·.stop < ·.start) ∧
      List.Forall₂ (fun entry => Script.Placed script entry.statement)
        (checker.checkScript script).statements spans := by
  by_cases h : Script.statements script = []
  · have hplaced : Script.Placed script ⟨1, []⟩ ⟨0, 0⟩ :=
      ⟨le_rfl, Nat.zero_le _, by simp [Span.slice], by simp⟩
    rw [checkScript_of_nil checker h]
    exact ⟨[⟨0, 0⟩], by simp, .cons hplaced .nil⟩
  · have hpairwise : (Script.places script).Pairwise (·.stop < ·.start) := by
      refine (Script.pairwise_places script).imp ?_
      rintro place later ⟨cut, -, hstop, hstart⟩
      omega
    have hplaced := Script.forall₂_placed script
    rw [← Report.map_statement_numbered checker 1 (Script.statements script),
      List.forall₂_map_left_iff] at hplaced
    rw [checkScript_of_ne_nil checker h]
    exact ⟨Script.places script, hpairwise, hplaced⟩

theorem map_index_checkScript (script : Text) :
    (checker.checkScript script).statements ≠ [] ∧
      (checker.checkScript script).statements.map (·.index) =
        List.range' 1 (checker.checkScript script).statements.length := by
  by_cases h : Script.statements script = []
  · rw [checkScript_of_nil checker h]
    simp
  · have hlength := congrArg List.length
      (Report.map_statement_numbered checker 1 (Script.statements script))
    rw [List.length_map] at hlength
    rw [checkScript_of_ne_nil checker h]
    refine ⟨?_, by rw [Report.map_index_numbered, hlength]⟩
    rw [← List.length_pos_iff, hlength]
    exact List.length_pos_iff.mpr h

theorem pairwise_line_of_placed {script : Text} {entries : List StatementReport}
    {spans : List Span} (hpairwise : spans.Pairwise (·.stop < ·.start))
    (hplaced : List.Forall₂ (fun entry => Script.Placed script entry.statement) entries spans) :
    (entries.map (·.line)).Pairwise (· ≤ ·) := by
  have hspans : ∀ span ∈ spans, span.start ≤ span.stop := by
    induction hplaced with
    | nil => simp
    | cons hfirst _ ih =>
      exact List.forall_mem_cons.mpr ⟨hfirst.start_le_stop, ih hpairwise.of_cons⟩
  have hlines : entries.map (·.line) =
      spans.map fun span => (script.take span.start).count '\n' + 1 := by
    clear hpairwise hspans
    induction hplaced with
    | nil => rfl
    | cons hfirst _ ih => rw [List.map_cons, List.map_cons, ih, ← hfirst.line]; rfl
  rw [hlines, List.pairwise_map]
  refine hpairwise.imp_of_mem fun {span later} hspan _ hlater => ?_
  have hle : span.start ≤ later.start := by
    have := hspans span hspan
    omega
  have hfront : script.take span.start <+: script.take later.start :=
    List.take_prefix_take_left hle
  exact Nat.succ_le_succ (hfront.sublist.count_le '\n')

/-- An entry gives the result of checking its statement, and is all that a report on its statement
alone would say. -/
theorem checkScript_entry {script : Text} {entry : StatementReport}
    (h : entry ∈ (checker.checkScript script).statements) :
    entry.result = checker.check entry.sql ∧
      (checker.checkScript entry.sql).statements = [⟨1, 1, entry.sql, entry.result⟩] := by
  by_cases hnil : Script.statements script = []
  · rw [checkScript_of_nil checker hnil, List.mem_singleton] at h
    subst h
    exact ⟨rfl, by rw [checkScript_of_nil checker rfl]⟩
  · rw [checkScript_of_ne_nil checker hnil] at h
    have hresult := Report.result_of_mem_numbered checker h
    have hstatement : entry.statement ∈ Script.statements script := by
      rw [← Report.map_statement_numbered checker 1 (Script.statements script)]
      exact List.mem_map_of_mem h
    have hsingle : Script.statements entry.sql = [⟨1, entry.sql⟩] :=
      Script.statements_of_mem hstatement
    refine ⟨hresult, ?_⟩
    rw [checkScript_of_ne_nil checker (by simp [hsingle]), hsingle, hresult]
    rfl

/-- The report on a script has an entry for every statement, in their order, and at least one. The
entries are numbered from one on and stand in the script one after the other, so that their lines
do not go back. Each is what a report on its statement alone would say. The exit code is zero
exactly when no entry has a problem, which is when every outcome is clean. -/
theorem checkScript_faithful (script : Text) :
    let report := checker.checkScript script
    report.statements ≠ [] ∧
    report.statements.map (·.index) = List.range' 1 report.statements.length ∧
    (Script.statements script ≠ [] →
      report.statements.map (·.statement) = Script.statements script) ∧
    (∃ spans : List Span, spans.Pairwise (·.stop < ·.start) ∧
      List.Forall₂ (fun entry => Script.Placed script entry.statement) report.statements spans) ∧
    (report.statements.map (·.line)).Pairwise (· ≤ ·) ∧
    (∀ entry ∈ report.statements, entry.result = checker.check entry.sql ∧
      (checker.checkScript entry.sql).statements = [⟨1, 1, entry.sql, entry.result⟩]) ∧
    (report.exitCode = 0 ↔ report.invalidCount = 0) ∧
    (report.invalidCount = 0 ↔ ∀ entry ∈ report.statements, entry.result.outcome = .clean) ∧
    (Script.statements script = [] → report.exitCode = 1) := by
  intro report
  obtain ⟨hne, hindex⟩ := map_index_checkScript checker script
  obtain ⟨spans, hpairwise, hplaced⟩ := exists_placed_checkScript checker script
  refine ⟨hne, hindex, ?statements, ⟨spans, hpairwise, hplaced⟩,
    pairwise_line_of_placed hpairwise hplaced, fun _ => checkScript_entry checker,
    report.exitCode_eq_zero_iff, ?clean, ?empty⟩
  case statements =>
    intro h
    simp only [report, checkScript_of_ne_nil checker h]
    exact Report.map_statement_numbered checker 1 _
  case clean =>
    rw [report.invalidCount_eq_zero_iff]
    refine forall₂_congr fun entry hentry => ?_
    rw [(checkScript_entry checker hentry).1, isValid_iff_clean]
  case empty =>
    intro h
    simp only [report, checkScript_of_nil checker h]
    rw [check_blank (by rfl)]
    rfl

/-- The first statement ends in a comment that holds a semicolon and whose newline is trimmed. -/
theorem checkScript_faithful_comment :
    let checker : Checker := ⟨{}, fun _ => .accepted⟩
    let script : Text := "SELECT ';' -- a;\n;\n\n SELECT 1 -- x\n;"
    let entry : StatementReport := ⟨1, 1, "SELECT ';' -- a;", .clean⟩
    Script.statements script ≠ [] ∧ entry ∈ (checker.checkScript script).statements ∧
      (checker.checkScript script).statements.map (·.statement) =
        [⟨1, "SELECT ';' -- a;"⟩, ⟨4, "SELECT 1 -- x"⟩] ∧
      (checker.checkScript entry.sql).statements = [entry] ∧
      Script.statements " ;\n" = [] ∧ (checker.checkScript " ;\n").exitCode = 1 := by
  intro checker script entry
  have hne : Script.statements script ≠ [] := by decide
  have hentry : entry ∈ (checker.checkScript script).statements := by decide +kernel
  have hempty : Script.statements " ;\n" = [] := by decide
  obtain ⟨-, -, hstatements, -, -, hentries, -, -, -⟩ := checkScript_faithful checker script
  obtain ⟨-, -, -, -, -, -, -, -, hexit⟩ := checkScript_faithful checker " ;\n"
  refine ⟨hne, hentry, ?_, (hentries entry hentry).2, hempty, hexit hempty⟩
  rw [hstatements hne]
  decide

end Checker

end QueryLint
