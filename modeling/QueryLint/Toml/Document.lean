import QueryLint.Toml.Scalar
import QueryLint.Toml.Value

/-!
Reading TOML documents. A document either reads as one table or does not read at all.
-/

namespace QueryLint.Toml

/-- A reader takes characters from the front of a text, or fails. -/
abbrev Reader (α : Type) := StateT Text Option α

namespace Reader

def peek : Reader (Option Char) := do pure (← get).head?

def accept (c : Char) : Reader Bool := do
  match ← get with
  | d :: rest =>
    if d = c then
      set rest
      pure true
    else pure false
  | [] => pure false

def expect (c : Char) : Reader Unit := do
  unless ← accept c do failure

def take (front? : Text → Option (α × Text)) : Reader α := fun text => front? text

def iterate (step : α → Reader (Option α)) (value : α) : Nat → Reader α
  | 0 => pure value
  | steps + 1 => do
    match ← step value with
    | some next => iterate step next steps
    | none => pure value

def repeatFrom (value : α) (step : α → Reader (Option α)) : Reader α := do
  iterate step value ((← get).length + 1)

def skipBlanks : Reader Unit := modify fun text => text.dropWhile fun c => c = ' ' || c = '\t'

def skipComment : Reader Unit := do
  if ← accept '#' then modify fun text => text.dropWhile isPlain

def acceptBreak : Reader Bool := do
  match dropBreak? (← get) with
  | some rest =>
    set rest
    pure true
  | none => pure false

def skipLines : Reader Unit :=
  repeatFrom () fun _ => do
    skipBlanks
    skipComment
    if ← acceptBreak then pure (some ()) else pure none

def endLine : Reader Unit := do
  skipBlanks
  skipComment
  unless (← get).isEmpty do
    unless ← acceptBreak do failure

def isBareKey (c : Char) : Bool := c.isAlphanum || c = '_' || c = '-'

def keyPart : Reader Text := do
  match ← peek with
  | some c =>
    if c = '"' || c = '\'' then take quotedKey?
    else
      let text ← get
      let part := text.takeWhile isBareKey
      if part.isEmpty then failure
      set (text.drop part.length)
      pure part
  | none => failure

/-- A key: the parts before the last, and the last. -/
def key : Reader (List Text × Text) := do
  skipBlanks
  let first ← keyPart
  skipBlanks
  repeatFrom ([], first) fun (path, last) => do
    if ← accept '.' then
      skipBlanks
      let next ← keyPart
      skipBlanks
      pure (some (path ++ [last], next))
    else pure none

/-- A scalar without quotes. A space can stand between a date and a time. -/
def bareScalar : Reader Value := do
  let text ← get
  let isPart : Char → Bool := fun c => isBareKey c || c = '+' || c = '.' || c = ':'
  let word := text.takeWhile isPart
  let rest := text.drop word.length
  let time := (rest.drop 1).takeWhile isPart
  if isDate word && rest.head? = some ' ' && (time.head?).any Char.isDigit then
    let moment := word ++ ' ' :: time
    if isMoment moment then
      set (text.drop moment.length)
      pure (.scalar moment)
    else failure
  else
    set rest
    if word = "true" then pure (.flag true)
    else if word = "false" then pure (.flag false)
    else if isScalar word then pure (.scalar word)
    else failure

def items (value : Reader Value) : Reader Value := do
  let (_, items) ← repeatFrom (false, []) fun (closed, items) => do
    if closed then pure none
    else
      skipLines
      if ← accept ']' then pure (some (true, items))
      else
        let item ← value
        skipLines
        if ← accept ',' then pure (some (false, item :: items))
        else
          expect ']'
          pure (some (true, item :: items))
  pure (.list items.reverse)

def entry (value : Reader Value) (table : Value) : Reader Value := do
  let (path, last) ← key
  expect '='
  skipBlanks
  let value ← value
  take fun text => (table.insertAt? path last value).map fun table => (table, text)

def braced (value : Reader Value) : Reader Value := do
  let (_, table) ← repeatFrom (false, Value.table .inlined []) fun (closed, table) => do
    if closed then pure none
    else
      skipLines
      if ← accept '\x7d' then pure (some (true, table))
      else
        let table ← entry value table
        skipLines
        if ← accept ',' then pure (some (false, table))
        else
          expect '\x7d'
          pure (some (true, table))
  pure table

/-- A value with at most the given number of levels of nesting. -/
def value : Nat → Reader Value
  | 0 => failure
  | depth + 1 => do
    match ← peek with
    | some c =>
      if c = '"' || c = '\'' then .text <$> take quoted?
      else if ← accept '[' then items (value depth)
      else if ← accept '\x7b' then braced (value depth)
      else bareScalar
    | none => failure

def maxDepth : Nat := 80

structure Progress where
  root : Value
  path : List Text

def Progress.insertAt? (progress : Progress) (path : List Text) (key : Text) (value : Value) :
    Option Progress :=
  (progress.root.change? false progress.path fun kind entries =>
    (Value.table kind entries).insertAt? path key value).map fun root => ⟨root, progress.path⟩

def header (progress : Progress) : Reader Progress := do
  let several ← accept '['
  let (path, last) ← key
  expect ']'
  if several then expect ']'
  endLine
  take fun text => do
    let root ←
      if several then progress.root.appendTable? path last
      else progress.root.defineTable? path last
    some (⟨root, path ++ [last]⟩, text)

def entryLine (progress : Progress) : Reader Progress := do
  let (path, last) ← key
  expect '='
  skipBlanks
  let value ← value maxDepth
  endLine
  take fun text => (progress.insertAt? path last value).map fun progress => (progress, text)

def document : Reader Value := do
  let progress ← repeatFrom (⟨.table .defined [], []⟩ : Progress) fun progress => do
    skipLines
    if (← get).isEmpty then pure none
    else if ← accept '[' then some <$> header progress
    else some <$> entryLine progress
  pure progress.root

end Reader

/-- The table that a text writes. A byte order mark at the front is left out. -/
def parse? (text : Text) : Option Value :=
  let text := if text.head? = some '\uFEFF' then text.drop 1 else text
  (Reader.document.run text).map (·.1)

end QueryLint.Toml
