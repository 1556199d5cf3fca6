import QueryLint.Check.Settings
import QueryLint.Toml.Document

/-!
The configuration of the tool: what its files and the environment say about the settings, and how
these become settings of a check.
-/

namespace QueryLint

/-- A configuration. Names of dialects and wordings are kept as they were given. -/
structure Configuration where
  dialect : Option Text := none
  suggestFixes : Bool := true
  wording : Option Text := none
  disabled : List Text := []
  deriving DecidableEq, Repr

namespace Configuration

open Toml

def textOf? : Value → Option Text
  | .text text => some text
  | _ => none

def flagOf? : Value → Option Bool
  | .flag flag => some flag
  | _ => none

def textsOf? : Value → Option (List Text)
  | .list items => items.mapM textOf?
  | _ => none

/-- What a reader makes of the value of a key; a missing key gives the default. -/
def keyOf? (entries : Entries) (key : Text) (absent : α) (read? : Value → Option α) : Option α :=
  match entries.get? key with
  | some value => read? value
  | none => some absent

/-- Reads the section about the check. Its values can also stand in a list, in the order dialect,
suggestions, wording. -/
def withEngine? (configuration : Configuration) : Value → Option Configuration
  | .table _ entries => do
    let dialect ← keyOf? entries "dialect" none fun value => (textOf? value).map some
    let suggestFixes ← keyOf? entries "suggest_fixes" true flagOf?
    let wording ← keyOf? entries "error_format" none fun value => (textOf? value).map some
    some { configuration with dialect, suggestFixes, wording }
  | .list (dialect :: suggestFixes :: wording :: _) => do
    let dialect ← textOf? dialect
    let suggestFixes ← flagOf? suggestFixes
    let wording ← textOf? wording
    some { configuration with dialect := some dialect, suggestFixes, wording := some wording }
  | _ => none

/-- Reads the section about the rules. Its one value can also stand in a list. -/
def withRules? (configuration : Configuration) : Value → Option Configuration
  | .table _ entries => do
    let disabled ← keyOf? entries "disabled" [] textsOf?
    some { configuration with disabled }
  | .list [] => some configuration
  | .list (disabled :: _) => do
    let disabled ← textsOf? disabled
    some { configuration with disabled }
  | _ => none

/-- Reads the sections of a document. Other keys are ignored. -/
def ofDocument? : Value → Option Configuration
  | .table _ entries => do
    let configuration ← keyOf? entries "engine" {} (withEngine? {})
    keyOf? entries "rules" configuration (withRules? configuration)
  | _ => none

def parse (text : Text) : Except ToolError Configuration :=
  match (parse? text).bind ofDocument? with
  | some configuration => .ok configuration
  | none => .error (.configuration "Invalid config file")

def ofFile : Except ReadError Text → Except ToolError Configuration
  | .ok text => parse text
  | .error error => .error (.configuration ("Failed to read config file: " ++ error.message))

/-- Where a configuration comes from: two files, each of which may be missing, and two variables
of the environment. -/
structure Sources where
  home : Option (Except ReadError Text) := none
  workingDirectory : Option (Except ReadError Text) := none
  dialect : Option Text := none
  wording : Option Text := none

/-- The configuration that the sources give. The file of the working directory takes the place of
the one in the home directory, which must be readable all the same; the environment overrides
single settings of either. -/
def load (sources : Sources) : Except ToolError Configuration := do
  let base ← match sources.home with
    | some file => ofFile file
    | none => .ok {}
  let base ← match sources.workingDirectory with
    | some file => ofFile file
    | none => .ok base
  .ok { base with
    dialect := sources.dialect.or base.dialect
    wording := sources.wording.or base.wording }

def settings (configuration : Configuration) : Except SettingError Settings := do
  let dialect ← match configuration.dialect with
    | some name => Dialect.ofName name
    | none => .ok .sqlite
  let wording ← match configuration.wording with
    | some name => Wording.ofName name
    | none => .ok .friendly
  let settings : Settings :=
    ⟨dialect, configuration.suggestFixes, wording, configuration.disabled⟩
  settings.validate
  .ok settings

end Configuration

end QueryLint
