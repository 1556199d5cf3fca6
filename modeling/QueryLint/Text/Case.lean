import QueryLint.Text.CharClass
import QueryLint.Text.CaseTable
import QueryLint.Text.CaseContext

/-!
Upper and lower case of whole texts. Both may change the number of characters, and the lower case
of a capital sigma depends on whether it ends a word.
-/

namespace QueryLint.Text

/-- The image of a code point under the first run that covers it. -/
def mapRuns (runs : List CaseRun) (c : Char) : Char :=
  match runs.findSome? (·.map? c.toNat) with
  | some code => Char.ofNat code
  | none => c

def lowerChar (c : Char) : Text :=
  if c.toNat < 0x80 then [asciiLowerChar c]
  else if c.toNat = 0x130 then ['i', '\u0307']
  else [mapRuns lowerRuns c]

def upperChar (c : Char) : Text :=
  if c.toNat < 0x80 then [asciiUpperChar c]
  else match upperExpansions.lookup c.toNat with
    | some codes => codes.map Char.ofNat
    | none => [mapRuns upperRuns c]

/-- Whether the first character that case rules do not look past is a cased letter. -/
def casedNext (text : Text) : Bool :=
  match text.dropWhile (inRanges caseIgnorableRanges) with
  | [] => false
  | c :: _ => inRanges casedRanges c

/-- The lower case of a text that follows `before`, given in reverse. A capital sigma after a
cased letter and not before one is written in its final form. -/
def lowerAfter (before : Text) : Text → Text
  | [] => []
  | c :: rest =>
    let image :=
      if c = 'Σ' then
        if casedNext before && !casedNext rest then ['ς'] else ['σ']
      else lowerChar c
    image ++ lowerAfter (c :: before) rest

def lower (text : Text) : Text := lowerAfter [] text

def upper (text : Text) : Text := text.flatMap upperChar

end QueryLint.Text
