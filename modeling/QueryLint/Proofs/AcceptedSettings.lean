import Mathlib.Data.List.Basic
import QueryLint.Tool.Program

/-!
When settings are accepted, and with which settings a checker then works. A configuration and the
options of the command line give a checker exactly when the names in the configuration can be read
and every disabled identifier names a rule.
-/

namespace QueryLint

open Text

theorem bind_eq_ok_iff {ε α β : Type} {first : Except ε α} {second : α → Except ε β} {value : β} :
    (first >>= second) = .ok value ↔ ∃ middle, first = .ok middle ∧ second middle = .ok value := by
  cases first with
  | error error => simp [bind, Except.bind]
  | ok middle => simp [bind, Except.bind]

def KnownRule (id : Text) : Prop := ∃ rule ∈ Rule.all, sameLetters rule.id id

instance : DecidablePred KnownRule := fun id =>
  inferInstanceAs (Decidable (∃ rule ∈ Rule.all, sameLetters rule.id id))

theorem Settings.validate_eq_ok_iff {settings : Settings} :
    settings.validate = .ok () ↔ ∀ id ∈ settings.disabled, KnownRule id := by
  have hfind : (settings.disabled.find? fun id =>
      !Rule.all.any fun rule => sameLetters rule.id id) = none ↔
        ∀ id ∈ settings.disabled, KnownRule id := by
    simp [KnownRule, List.find?_eq_none]
  rw [← hfind, Settings.validate]
  split
  · rename_i id hid
    simp [hid]
  · rename_i hnone
    simp [hnone]

/-- The value of a name, or the one that holds where nothing is named. -/
def resolve {α : Type} (ofName : Text → Except SettingError α) (unnamed : α) :
    Option Text → Except SettingError α
  | some name => ofName name
  | none => .ok unnamed

theorem resolve_eq_getD {α : Type} {ofName : Text → Except SettingError α} {unnamed : α}
    {name : Option Text} : resolve ofName unnamed name = (name.map ofName).getD (.ok unnamed) := by
  cases name <;> rfl

theorem exists_resolve_iff {α : Type} {ofName : Text → Except SettingError α} {unnamed : α}
    {name : Option Text} :
    (∃ value, resolve ofName unnamed name = .ok value) ↔
      ∀ given ∈ name, ∃ value, ofName given = .ok value := by
  cases name with
  | none => simp [resolve]
  | some name => simp [resolve]

namespace Configuration

theorem settings_eq (configuration : Configuration) : configuration.settings = (do
    let dialect ← resolve Dialect.ofName .sqlite configuration.dialect
    let wording ← resolve Wording.ofName .friendly configuration.wording
    let settings : Settings :=
      ⟨dialect, configuration.suggestFixes, wording, configuration.disabled⟩
    settings.validate
    .ok settings) := by
  obtain ⟨dialect, suggestFixes, wording, disabled⟩ := configuration
  cases dialect <;> cases wording <;> rfl

theorem settings_eq_ok_iff {configuration : Configuration} {settings : Settings} :
    configuration.settings = .ok settings ↔
      resolve Dialect.ofName .sqlite configuration.dialect = .ok settings.dialect ∧
      resolve Wording.ofName .friendly configuration.wording = .ok settings.wording ∧
      settings.suggestFixes = configuration.suggestFixes ∧
      settings.disabled = configuration.disabled ∧
      ∀ id ∈ configuration.disabled, KnownRule id := by
  rw [settings_eq]
  simp only [bind_eq_ok_iff]
  constructor
  · rintro ⟨dialect, hdialect, wording, hwording, ⟨⟩, hvalid, hsettings⟩
    cases hsettings
    exact ⟨hdialect, hwording, rfl, rfl, Settings.validate_eq_ok_iff.mp hvalid⟩
  · rintro ⟨hdialect, hwording, hsuggest, hdisabled, hknown⟩
    refine ⟨settings.dialect, hdialect, settings.wording, hwording, (), ?_, ?_⟩
    · exact Settings.validate_eq_ok_iff.mpr hknown
    · rw [← hsuggest, ← hdisabled]

end Configuration

/-- Settings give a checker if every disabled identifier names a rule. -/
theorem Checker.ofSettings_eq_ok_iff {settings : Settings} {grammar : Grammar}
    {checker : Checker} :
    Checker.ofSettings settings grammar = .ok checker ↔
      checker = ⟨settings, grammar⟩ ∧ ∀ id ∈ settings.disabled, KnownRule id := by
  rw [← Settings.validate_eq_ok_iff, Checker.ofSettings]
  cases hvalid : settings.validate with
  | error error => simp [Except.map]
  | ok _ => simp [Except.map, eq_comm]

namespace CheckOptions

variable {options : CheckOptions} {configuration : Configuration} {grammar : Dialect → Grammar}
  {checker : Checker}

/-- The checker that options ask for over settings. It judges by the grammar of its dialect. -/
def overriding (options : CheckOptions) (settings : Settings) (grammar : Dialect → Grammar) :
    Checker :=
  ⟨options.override settings, grammar (options.override settings).dialect⟩

/-- A configuration and options give a checker if the configuration stands for settings and the
options disable only rules. -/
theorem checker_eq_ok_iff :
    options.checker configuration grammar = .ok checker ↔
      ∃ settings, configuration.settings = .ok settings ∧
        checker = options.overriding settings grammar ∧ ∀ id ∈ options.disable, KnownRule id := by
  have hdisabled (settings : Settings) (h : configuration.settings = .ok settings) :
      (∀ id ∈ (options.override settings).disabled, KnownRule id) ↔
        ∀ id ∈ options.disable, KnownRule id := by
    obtain ⟨-, -, -, hsame, hknown⟩ := Configuration.settings_eq_ok_iff.mp h
    simp only [override, List.forall_mem_append, hsame]
    exact and_iff_right hknown
  constructor
  · intro h
    unfold CheckOptions.checker at h
    split at h
    · cases h
    rename_i settings hsettings
    dsimp only at h
    split at h
    · cases h
    rename_i accepted haccepted
    cases h
    obtain ⟨hchecker, hvalid⟩ := Checker.ofSettings_eq_ok_iff.mp haccepted
    exact ⟨settings, hsettings, hchecker, (hdisabled settings hsettings).mp hvalid⟩
  · rintro ⟨settings, hsettings, hchecker, hknown⟩
    have haccepted : Checker.ofSettings (options.override settings)
        (grammar (options.override settings).dialect) = .ok checker :=
      Checker.ofSettings_eq_ok_iff.mpr ⟨hchecker, (hdisabled settings hsettings).mpr hknown⟩
    simp only [CheckOptions.checker, hsettings, haccepted]

theorem run_eq_ok (h : options.checker configuration grammar = .ok checker) (script : Text)
    (terminal : Bool) :
    options.run configuration grammar (.ok script) terminal =
      .ok ⟨(checker.checkScript script).exitCode,
        (checker.checkScript script).render options.format (!options.noColour && terminal)⟩ := by
  rw [run, h]
  rfl

end CheckOptions

end QueryLint
