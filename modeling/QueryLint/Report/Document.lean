import QueryLint.Text.Basic

/-!
Documents of nested lists and records, and their JSON text. The text puts every item and every
field on a line of its own.
-/

namespace QueryLint

/-- A structured value to be written for other programs. Records keep the order of their fields. -/
inductive Document
  | flag (value : Bool)
  | number (value : Nat)
  | text (value : Text)
  | list (items : List Document)
  | record (fields : List (Text × Document))

namespace Document

open Text

def pad (indent : Nat) : Text := List.replicate indent ' '

def flagText (value : Bool) : Text := if value then "true" else "false"

def lowerHex (digit : Nat) : Char := (Nat.digitChar digit)

/-- A character inside a JSON text. Quotes, backslashes and control characters are escaped. -/
def jsonChar (c : Char) : Text :=
  if c = '"' then ['\\', '"']
  else if c = '\\' then ['\\', '\\']
  else if c = '\x08' then ['\\', 'b']
  else if c = '\x0c' then ['\\', 'f']
  else if c = '\n' then ['\\', 'n']
  else if c = '\r' then ['\\', 'r']
  else if c = '\t' then ['\\', 't']
  else if c.toNat < 0x20 then
    ['\\', 'u', '0', '0', lowerHex (c.toNat / 16), lowerHex (c.toNat % 16)]
  else [c]

def jsonText (text : Text) : Text := '"' :: (text.flatMap jsonChar ++ ['"'])

mutual

/-- The JSON text of a document whose first line is already indented by `indent`. -/
def json (indent : Nat) : Document → Text
  | .flag value => flagText value
  | .number value => ofNat value
  | .text value => jsonText value
  | .list [] => ['[', ']']
  | .list (item :: items) =>
    '[' :: (jsonItems (indent + 2) (item :: items) ++ '\n' :: (pad indent ++ [']']))
  | .record [] => ['\x7b', '\x7d']
  | .record (field :: fields) =>
    '\x7b' :: (jsonFields (indent + 2) (field :: fields) ++ '\n' :: (pad indent ++ ['\x7d']))

def jsonItems (indent : Nat) : List Document → Text
  | [] => []
  | [item] => '\n' :: (pad indent ++ item.json indent)
  | item :: items => '\n' :: (pad indent ++ item.json indent ++ ',' :: jsonItems indent items)

def jsonFields (indent : Nat) : List (Text × Document) → Text
  | [] => []
  | [(key, value)] => '\n' :: (pad indent ++ jsonText key ++ ':' :: ' ' :: value.json indent)
  | (key, value) :: fields =>
    '\n' :: (pad indent ++ jsonText key ++ ':' :: ' ' :: value.json indent
      ++ ',' :: jsonFields indent fields)

end

end Document

end QueryLint
