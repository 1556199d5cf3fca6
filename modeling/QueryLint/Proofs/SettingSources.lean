import QueryLint.Proofs.AcceptedSettings

/-!
Where each setting of a run comes from. The command line, the environment and a file are layers,
each of which sets some of the settings. A setting has its value from the first layer that sets
it, provided that what the environment and the file name exists.
-/

namespace QueryLint

open Toml

/-- What one source says about the settings. A name counts as set even if nothing goes by it. -/
structure Layer where
  dialect : Option (Except SettingError Dialect) := none
  suggestFixes : Option Bool := none
  wording : Option (Except SettingError Wording) := none
  disabled : List Text := []

/-- The value of a setting in the first layer that sets it, or the one that holds by default. -/
def firstSet {α : Type} (setting? : Layer → Option α) (unset : α) (layers : List Layer) : α :=
  (layers.findSome? setting?).getD unset

namespace Toml.Value

def section? (name : Text) : Value → Option Value
  | .table _ sections => Entries.get? sections name
  | _ => none

/-- The value of a setting in a section: under its key or, if the section is a list, at its
place. -/
def setting? (key : Text) (place : Nat) : Value → Option Value
  | .table _ entries => Entries.get? entries key
  | .list items => items[place]?
  | _ => none

end Toml.Value

namespace Layer

def ofEnvironment (sources : Configuration.Sources) : Layer where
  dialect := sources.dialect.map Dialect.ofName
  wording := sources.wording.map Wording.ofName

/-- The layer of a document, which sets those settings that stand in its sections. -/
def ofDocument (document : Value) : Layer :=
  let engine := document.section? "engine"
  let rules := document.section? "rules"
  { dialect := ((engine.bind (·.setting? "dialect" 0)).bind Configuration.textOf?).map
      Dialect.ofName
    suggestFixes := (engine.bind (·.setting? "suggest_fixes" 1)).bind Configuration.flagOf?
    wording := ((engine.bind (·.setting? "error_format" 2)).bind Configuration.textOf?).map
      Wording.ofName
    disabled := ((rules.bind (·.setting? "disabled" 0)).bind Configuration.textsOf?).getD [] }

def ofFile : Except ReadError Text → Layer
  | .ok text => ((parse? text).map ofDocument).getD {}
  | .error _ => {}

end Layer

namespace Configuration

/-- The file that is in force: the one of the working directory, if there is one. -/
def Sources.file? (sources : Sources) : Option (Except ReadError Text) :=
  sources.workingDirectory.or sources.home

/-- The layers below the command line. -/
def Sources.layers (sources : Sources) : List Layer :=
  Layer.ofEnvironment sources :: (sources.file?.map Layer.ofFile).toList

/-- A configuration that says what layers say together. -/
structure Merges (configuration : Configuration) (layers : List Layer) : Prop where
  dialect : configuration.dialect.map Dialect.ofName = layers.findSome? (·.dialect)
  suggestFixes : configuration.suggestFixes = firstSet (·.suggestFixes) true layers
  wording : configuration.wording.map Wording.ofName = layers.findSome? (·.wording)
  disabled : configuration.disabled = layers.flatMap (·.disabled)

section Reading

variable {entries : Entries} {key : Text} {base configuration : Configuration}

end Reading

section Merging

variable {configuration : Configuration}

end Merging

end Configuration

/-- Settings with the values of the first layers that set them. -/
structure Settings.SettledBy (settings : Settings) (layers : List Layer) : Prop where
  dialect : firstSet (·.dialect) (.ok .sqlite) layers = .ok settings.dialect
  suggestFixes : firstSet (·.suggestFixes) true layers = settings.suggestFixes
  wording : firstSet (·.wording) (.ok .friendly) layers = .ok settings.wording

theorem Configuration.Merges.settings_eq_ok_iff {configuration : Configuration}
    {layers : List Layer} (h : configuration.Merges layers) {settings : Settings} :
    configuration.settings = .ok settings ↔
      settings.SettledBy layers ∧ settings.disabled = layers.flatMap (·.disabled) ∧
        ∀ id ∈ layers.flatMap (·.disabled), KnownRule id := by
  rw [Configuration.settings_eq_ok_iff, resolve_eq_getD, resolve_eq_getD, h.dialect, h.wording,
    h.suggestFixes, h.disabled]
  constructor
  · rintro ⟨hdialect, hwording, hsuggest, hdisabled, hknown⟩
    exact ⟨⟨hdialect, hsuggest.symm, hwording⟩, hdisabled, hknown⟩
  · rintro ⟨⟨hdialect, hsuggest, hwording⟩, hdisabled, hknown⟩
    exact ⟨hdialect, hwording, hsuggest.symm, hdisabled, hknown⟩

namespace CheckOptions

variable {options : CheckOptions} {sources : Configuration.Sources} {grammar : Dialect → Grammar}
  {checker : Checker}

end CheckOptions

end QueryLint
