import QueryLint.Rule.Mistake

/-!
The settings of a check, and the ways in which they or the tool itself can fail.
-/

namespace QueryLint

open Text

inductive Dialect
  | generic
  | sqlite
  | postgresql
  | mysql
  | clickhouse
  | mssql
  | bigquery
  | snowflake
  deriving DecidableEq, Repr

namespace Dialect

def all : List Dialect :=
  [generic, sqlite, postgresql, mysql, clickhouse, mssql, bigquery, snowflake]

def name : Dialect → Text
  | generic => "generic"
  | sqlite => "sqlite"
  | postgresql => "postgresql"
  | mysql => "mysql"
  | clickhouse => "clickhouse"
  | mssql => "mssql"
  | bigquery => "bigquery"
  | snowflake => "snowflake"

def aliases : Dialect → List Text
  | generic => ["ansi"]
  | postgresql => ["postgres", "pg"]
  | mssql => ["tsql"]
  | _ => []

end Dialect

/-- How syntax errors are worded: in plain words, or by the grammar itself. -/
inductive Wording
  | friendly
  | raw
  deriving DecidableEq, Repr

def Wording.name : Wording → Text
  | friendly => "friendly"
  | raw => "raw"

inductive SettingError
  | unknownDialect (name : Text)
  | unknownWording (name : Text)
  | unknownRule (id : Text)
  deriving DecidableEq, Repr

def SettingError.message : SettingError → Text
  | unknownDialect name => "Unknown dialect: '" ++ name ++ "'. Supported dialects: "
      ++ join ", " (Dialect.all.map Dialect.name)
  | unknownWording name => "Unknown error format: '" ++ name ++ "'. Expected 'friendly' or 'raw'"
  | unknownRule id => "Unknown rule id '" ++ id ++ "'"

def Dialect.ofName (name : Text) : Except SettingError Dialect :=
  let lowered := lower name
  match all.find? fun dialect => (dialect.name :: dialect.aliases).contains lowered with
  | some dialect => .ok dialect
  | none => .error (.unknownDialect name)

def Wording.ofName (name : Text) : Except SettingError Wording :=
  let lowered := lower name
  if lowered = friendly.name then .ok friendly
  else if lowered = raw.name then .ok raw
  else .error (.unknownWording name)

structure Settings where
  dialect : Dialect := .sqlite
  /-- Whether a syntax error comes with a suggestion. -/
  suggestFixes : Bool := true
  wording : Wording := .friendly
  /-- The identifiers of the rules that are left out. -/
  disabled : List Text := []
  deriving DecidableEq, Repr

def Settings.validate (settings : Settings) : Except SettingError Unit :=
  match settings.disabled.find? fun id => !Rule.all.any fun rule => sameLetters rule.id id with
  | some id => .error (.unknownRule id)
  | none => .ok ()

inductive ReadError
  | notFound
  | isDirectory
  | notUtf8
  | other (reason : Text)
  deriving DecidableEq, Repr

def ReadError.message : ReadError → Text
  | notFound => "No such file or directory (os error 2)"
  | isDirectory => "Is a directory (os error 21)"
  | notUtf8 => "stream did not contain valid UTF-8"
  | other reason => reason

/-- A failure of the tool itself. -/
inductive ToolError
  | configuration (reason : Text)
  | unreadable (path reason : Text)
  | rendering (format reason : Text)
  deriving DecidableEq, Repr

namespace ToolError

def message : ToolError → Text
  | configuration reason => reason
  | unreadable path reason => "Failed to read file '" ++ path ++ "': " ++ reason
  | rendering format reason => "Failed to render " ++ format ++ " output: " ++ reason

/-- Whether the failure is to be mended by whoever called the tool. -/
def isCallersFault : ToolError → Bool
  | configuration _ => true
  | _ => false

def summary (error : ToolError) : Text :=
  if error.isCallersFault then "Bad request" else "Internal server error"

def ofSetting (error : SettingError) : ToolError := configuration error.message

end ToolError

end QueryLint
