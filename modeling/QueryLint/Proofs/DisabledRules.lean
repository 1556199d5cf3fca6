import Mathlib.Data.List.Dedup
import QueryLint.Proofs.AcceptedSettings
import QueryLint.Proofs.Outcomes

/-!
Rules that are switched off by their identifiers. Switching rules off takes their findings away and
leaves the others, whatever the clauses are read with; settings are accepted exactly when each of
their identifiers switches off one rule.
-/

namespace QueryLint

open Text

namespace Rule

variable {disabled : List Text} {rule rule' : Rule} {id : Text}

theorem isDisabled_iff : isDisabled disabled rule ↔ ∃ id ∈ disabled, sameLetters rule.id id :=
  List.any_eq_true

theorem mem_all (rule : Rule) : rule ∈ all := by
  cases rule <;> decide

theorem eq_of_sameLetters (h : rule.id.map asciiLowerChar = rule'.id.map asciiLowerChar) :
    rule = rule' := by
  have hall : ∀ rule ∈ all, ∀ rule' ∈ all,
      rule.id.map asciiLowerChar = rule'.id.map asciiLowerChar → rule = rule' := by
    decide
  exact hall rule rule.mem_all rule' rule'.mem_all h

theorem detect_filter (rules : List Rule) (p : Rule → Bool) (reader : ClauseReader) (text : Text) :
    detect (rules.filter p) reader text =
      (detect rules reader text).filter fun finding => p finding.rule := by
  induction rules with
  | nil => rfl
  | cons rule rules ih =>
    have hdetect (rules : List Rule) : detect (rule :: rules) reader text =
        (rule.check reader text).toList ++ detect rules reader text := by
      cases hcheck : rule.check reader text <;> simp [detect, hcheck]
    have hown : (rule.check reader text).toList.filter (fun finding => p finding.rule) =
        if p rule then (rule.check reader text).toList else [] := by
      cases hcheck : rule.check reader text with
      | none => simp
      | some finding =>
        have hrule := rule_of_check hcheck
        split_ifs with hp <;> simp [hrule, hp]
    rw [hdetect rules, List.filter_append, ← ih, hown]
    by_cases hp : p rule
    · rw [List.filter_cons_of_pos hp, hdetect, if_pos hp]
    · rw [List.filter_cons_of_neg hp, if_neg hp, List.nil_append]

theorem mem_enabled_iff : rule ∈ enabled disabled ↔ ¬isDisabled disabled rule := by
  simp [enabled, mem_all]

theorem knownRule_iff_existsUnique :
    KnownRule id ↔ ∃! rule, rule ∈ enabled [] ∧ rule ∉ enabled [id] := by
  have hoff (rule : Rule) : rule ∈ enabled [] ∧ rule ∉ enabled [id] ↔ sameLetters rule.id id := by
    rw [mem_enabled_iff, mem_enabled_iff, not_not, isDisabled_iff, isDisabled_iff]
    simp
  simp only [hoff]
  constructor
  · rintro ⟨rule, -, hrule⟩
    refine ⟨rule, hrule, fun rule' hrule' => eq_of_sameLetters ?_⟩
    rw [eq_of_beq hrule', eq_of_beq hrule]
  · rintro ⟨rule, hrule, -⟩
    exact ⟨rule, rule.mem_all, hrule⟩

/-- Every identifier switches off a rule, and two switch off the same rule only if they differ in
nothing but letter case. -/
theorem length_enabled_add (hknown : ∀ id ∈ disabled, KnownRule id) :
    (enabled disabled).length + (disabled.map (·.map asciiLowerChar)).dedup.length = all.length := by
  have hperm : ((all.filter (isDisabled disabled)).map (·.id.map asciiLowerChar)).Perm
      (disabled.map (·.map asciiLowerChar)).dedup := by
    refine (List.perm_ext_iff_of_nodup ?_ (List.nodup_dedup _)).mpr fun key => ?_
    · have hall : all.Nodup := by decide
      exact (hall.filter _).map_on fun _ _ _ _ h => eq_of_sameLetters h
    · simp only [List.mem_map, List.mem_filter, List.mem_dedup, isDisabled_iff]
      constructor
      · rintro ⟨rule, ⟨-, id, hid, hsame⟩, rfl⟩
        exact ⟨id, hid, (eq_of_beq hsame).symm⟩
      · rintro ⟨id, hid, rfl⟩
        obtain ⟨rule, hrule, hsame⟩ := hknown id hid
        exact ⟨rule, ⟨hrule, id, hid, hsame⟩, eq_of_beq hsame⟩
  rw [← hperm.length_eq, List.length_map, enabled, Nat.add_comm]
  exact (List.length_eq_length_filter_add _).symm

end Rule

/-- Switching off rules is exact. With any way of reading clauses the findings are those of all
rules without those of the rules that are switched off. Settings are accepted if every identifier
switches off exactly one rule; then as many rules are left as there are besides the different
identifiers, and an accepted statement is clean if everything found in it is switched off. -/
theorem Checker.disabled_exact (settings : Settings) (grammar : Grammar) :
    (∀ (reader : ClauseReader) (text : Text),
        Rule.detect (Rule.enabled settings.disabled) reader text =
          (Rule.detect (Rule.enabled []) reader text).filter fun finding =>
            !settings.disabled.any (sameLetters finding.rule.id)) ∧
      (settings.validate = .ok () ↔
        ∀ id ∈ settings.disabled, ∃! rule, rule ∈ Rule.enabled [] ∧ rule ∉ Rule.enabled [id]) ∧
      ∀ checker, Checker.ofSettings settings grammar = .ok checker →
        checker.rules.length + (settings.disabled.map (·.map asciiLowerChar)).dedup.length = 4 ∧
          ∀ sql, ¬allBlank sql → grammar sql = .accepted →
            ((checker.check sql).outcome = .clean ↔
              ∀ finding ∈ Rule.detect (Rule.enabled []) .lexical sql,
                settings.disabled.any (sameLetters finding.rule.id)) := by
  have hdetect (reader : ClauseReader) (text : Text) :=
    Rule.detect_filter Rule.all (fun rule => !Rule.isDisabled settings.disabled rule) reader text
  refine ⟨hdetect, ?_, ?_⟩
  · rw [Settings.validate_eq_ok_iff]
    exact forall₂_congr fun id _ => Rule.knownRule_iff_existsUnique
  · intro checker hchecker
    obtain ⟨rfl, hknown⟩ := Checker.ofSettings_eq_ok_iff.mp hchecker
    refine ⟨Rule.length_enabled_add hknown, fun sql hblank haccepted => ?_⟩
    obtain ⟨houtcome, -, -⟩ :=
      CheckResult.ofFindings_shape (Rule.detect (Rule.enabled settings.disabled) .lexical sql)
    rw [check_accepted hblank haccepted, rules, houtcome, Rule.enabled, hdetect]
    simp only [ite_eq_left_iff, reduceCtorEq, imp_false, not_not, List.filter_eq_nil_iff,
      Bool.not_eq_true', Bool.not_eq_false]
    rfl

theorem Checker.disabled_exact_three_identifiers :
    let settings : Settings := { disabled := ["mistake001", "MISTAKE001", "Mistake004"] }
    let grammar : Grammar := fun _ => .accepted
    let checker : Checker := ⟨settings, grammar⟩
    let sql : Text := "SELECT a FROM t WHERE a = 1, b = 2 ORDER BY c"
    Checker.ofSettings settings grammar = .ok checker ∧ ¬allBlank sql ∧ grammar sql = .accepted ∧
      checker.rules.length + 2 = 4 ∧
      (Rule.detect (Rule.enabled []) .lexical sql).map (·.rule) =
        [.commaInWhere, .danglingOrderBy] ∧
      (checker.check sql).outcome = .clean := by
  intro settings grammar checker sql
  have hchecker : Checker.ofSettings settings grammar = .ok checker := by rfl
  have hblank : ¬allBlank sql := by decide
  have hfindings : (Rule.detect (Rule.enabled []) .lexical sql).map (·.rule) =
      [.commaInWhere, .danglingOrderBy] := by
    decide +kernel
  obtain ⟨-, -, haccepted⟩ := disabled_exact settings grammar
  obtain ⟨hlength, hclean⟩ := haccepted checker hchecker
  have hdistinct : (settings.disabled.map (·.map asciiLowerChar)).dedup.length = 2 := by decide
  rw [hdistinct] at hlength
  refine ⟨hchecker, hblank, rfl, hlength, hfindings, (hclean sql hblank rfl).mpr ?_⟩
  intro finding hfinding
  have hrule : finding.rule ∈ [Rule.commaInWhere, .danglingOrderBy] :=
    hfindings ▸ List.mem_map_of_mem hfinding
  have hoff : ∀ rule ∈ [Rule.commaInWhere, .danglingOrderBy],
      settings.disabled.any (sameLetters rule.id) := by
    decide
  exact hoff finding.rule hrule

end QueryLint
