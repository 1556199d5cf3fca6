import QueryLint.Report.Scalar

/-!
Documents as YAML in block style. The items of a list stand at the indent of its key.
-/

namespace QueryLint.Document

mutual

def yaml (indent : Nat) : Document → Text
  | .flag value => flagText value ++ ['\n']
  | .number value => Text.ofNat value ++ ['\n']
  | .text value => Scalar.write indent value
  | .list items => if items.isEmpty then ['[', ']', '\n'] else yamlItems indent true items
  | .record fields => if fields.isEmpty then ['\x7b', '\x7d', '\n'] else yamlFields indent true fields

/-- The items of a list; `first` tells that the first line is already indented. -/
def yamlItems (indent : Nat) (first : Bool) : List Document → Text
  | [] => []
  | item :: items =>
    (if first then [] else pad indent) ++ '-' :: ' ' :: item.yaml (indent + 2)
      ++ yamlItems indent false items

def yamlFields (indent : Nat) (first : Bool) : List (Text × Document) → Text
  | [] => []
  | (key, value) :: fields =>
    (if first then [] else pad indent) ++ key ++ ':' :: yamlValue indent value
      ++ yamlFields indent false fields

def yamlValue (indent : Nat) : Document → Text
  | .list (item :: items) => '\n' :: (pad indent ++ yamlItems indent true (item :: items))
  | .record (field :: fields) =>
    '\n' :: (pad (indent + 2) ++ yamlFields (indent + 2) true (field :: fields))
  | .list [] => [' ', '[', ']', '\n']
  | .record [] => [' ', '\x7b', '\x7d', '\n']
  | .flag value => ' ' :: (flagText value ++ ['\n'])
  | .number value => ' ' :: (Text.ofNat value ++ ['\n'])
  | .text value => ' ' :: Scalar.write (indent + 2) value

end

end QueryLint.Document
