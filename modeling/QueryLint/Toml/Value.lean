import QueryLint.Text.Basic

/-!
The values of a TOML document, and how keys and headers build its tables. Every table remembers
how it came to be, because that decides what may be added to it later.
-/

namespace QueryLint.Toml

inductive TableKind
  /-- A header defines it. -/
  | defined
  /-- The header of a table inside it implies it. -/
  | implied
  /-- A dotted key implies it. -/
  | dotted
  /-- It stands between braces and is complete. -/
  | inlined
  deriving DecidableEq, Repr

/-- A value. Of numbers and dates only the written form is kept. -/
inductive Value
  | text (value : Text)
  | flag (value : Bool)
  | scalar (written : Text)
  | list (items : List Value)
  | table (kind : TableKind) (entries : List (Text × Value))
  /-- Tables that headers in double brackets define one after the other. -/
  | tables (items : List Value)

abbrev Entries := List (Text × Value)

namespace Entries

def get? (entries : Entries) (key : Text) : Option Value := entries.lookup key

/-- Gives a key a value: in its place when the key is there, else at the end. -/
def set (key : Text) (value : Value) : Entries → Entries
  | [] => [(key, value)]
  | (other, old) :: entries =>
    if other = key then (key, value) :: entries else (other, old) :: set key value entries

def add? (key : Text) (value : Value) (entries : Entries) : Option Entries :=
  if (entries.get? key).isSome then none else some (entries ++ [(key, value)])

end Entries

namespace Value

/-- Changes the table at the end of a path, and makes the tables on the way that are missing. A
dotted key passes through no table that a header defines, and nothing passes through a table
between braces. -/
def changeAt (dotted : Bool) (change : TableKind → Entries → Option Value) :
    List Text → TableKind → Entries → Option Value
  | [], kind, entries => change kind entries
  | key :: path, kind, entries => do
    let child ← match entries.get? key with
      | none => changeAt dotted change path (if dotted then .dotted else .implied) []
      | some (.table inner innerEntries) =>
        if inner = .inlined || (dotted && inner = .defined) then none
        else changeAt dotted change path inner innerEntries
      | some (.tables items) =>
        match items.getLast? with
        | some (.table inner innerEntries) =>
          (changeAt dotted change path inner innerEntries).map fun last =>
            .tables (items.dropLast ++ [last])
        | _ => none
      | some _ => none
    some (.table kind (entries.set key child))

def change? (value : Value) (dotted : Bool) (path : List Text)
    (change : TableKind → Entries → Option Value) : Option Value :=
  match value with
  | .table kind entries => changeAt dotted change path kind entries
  | _ => none

/-- Adds an entry under a key, which a path of dotted keys precedes. A dotted path leads only to
tables that dotted keys made. -/
def insertAt? (table : Value) (path : List Text) (key : Text) (value : Value) : Option Value :=
  table.change? true path fun kind entries =>
    if (kind = .dotted) = path.isEmpty then none
    else (entries.add? key value).map (.table kind)

/-- Defines a table by its header. A table that was only implied by other headers can still be
defined. -/
def defineTable? (root : Value) (path : List Text) (key : Text) : Option Value :=
  root.change? false path fun kind entries =>
    match entries.get? key with
    | none => some (.table kind (entries.set key (.table .defined [])))
    | some (.table .implied inner) => some (.table kind (entries.set key (.table .defined inner)))
    | some _ => none

def appendTable? (root : Value) (path : List Text) (key : Text) : Option Value :=
  root.change? false path fun kind entries =>
    match entries.get? key with
    | none => some (.table kind (entries.set key (.tables [.table .defined []])))
    | some (.tables items) =>
      some (.table kind (entries.set key (.tables (items ++ [.table .defined []]))))
    | some _ => none

end Value

end QueryLint.Toml
