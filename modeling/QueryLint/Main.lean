import QueryLint.SmallParser.Command
import QueryLint.Sql.Grammar
import QueryLint.Tool.Program

/-!
The executable: it gathers what a run depends on, and carries out how the run ends. The small parser
is its grammar for every dialect.
-/

namespace QueryLint.Program

def decode (bytes : ByteArray) : Except ReadError Text :=
  match String.fromUTF8? bytes with
  | some text => .ok text.toList
  | none => .error .notUtf8

def readError : IO.Error → ReadError
  | .noFileOrDirectory .. => .notFound
  | .inappropriateType .. => .isDirectory
  | error => .other error.toString.toList

def readFile (path : String) : IO (Except ReadError Text) := do
  try return decode (← IO.FS.readBinFile path)
  catch error => return .error (readError error)

def readOptionalFile (path : String) : IO (Option (Except ReadError Text)) := do
  match ← readFile path with
  | .error .notFound => return none
  | content => return some content

def readInput : IO (Except ReadError Text) := do
  try return decode (← (← IO.getStdin).readBinToEnd)
  catch error => return .error (readError error)

def environment (name : String) : IO (Option Text) := do
  return (← IO.getEnv name).map String.toList

def gatherSources : IO Configuration.Sources := do
  let home ← match ← IO.getEnv "HOME" with
    | some home => readOptionalFile (home ++ "/.config/sql-checker/config.toml")
    | none => pure none
  return {
    home
    workingDirectory := ← readOptionalFile ".sql-checker.toml"
    dialect := ← environment "SQL_CHECKER_DIALECT"
    wording := ← environment "SQL_CHECKER_ERROR_FORMAT" }

def readScript : Request → IO (Except ReadError Text)
  | .check _ options =>
    if options.input = ['-'] then readInput else readFile (String.ofList options.input)
  | .rules .. => return .ok []

def gather (arguments : List Text) : IO Surroundings := do
  let script ← match CommandLine.parse arguments with
    | .ok request => readScript request
    | .error _ => pure (.ok [])
  let sources ← gatherSources
  let terminal ← (← IO.getStdout).isTty
  return { sources, terminal, read := fun _ => script }

end QueryLint.Program

def main (arguments : List String) : IO UInt32 := do
  let arguments := arguments.map String.toList
  let grammar := QueryLint.Sql.grammar fun _ => QueryLint.SmallParser.parse
  let ending := QueryLint.Program.run grammar arguments (← QueryLint.Program.gather arguments)
  IO.print (String.ofList ending.output)
  if let some failure := ending.failure then
    IO.eprintln (String.ofList failure.line)
  return ending.exitCode.toUInt32
