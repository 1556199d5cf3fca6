import QueryLint.Text.CharClass

/-!
Searching a text for phrases in any letter case. A step takes the front of a text and returns
what follows it; the searches try a step at every position and keep the leftmost success.
-/

namespace QueryLint.Text

/-- The lower-case letter that `c` matches when case is ignored: besides the ASCII letters, the
Kelvin sign matches `k` and the long s matches `s`. -/
def foldChar (c : Char) : Char :=
  if c = '\u212A' then 'k' else if c = '\u017F' then 's' else asciiLowerChar c

/-- What follows a phrase, given in lower case, at the front of a text. -/
def dropPhrase? : Text → Text → Option Text
  | [], text => some text
  | _ :: _, [] => none
  | letter :: letters, c :: rest => if foldChar c = letter then dropPhrase? letters rest else none

/-- What follows the white space at the front of a text, of which there must be some. -/
def dropBlanks? : Text → Option Text
  | c :: rest => if isBlank c then some (trimStart rest) else none
  | [] => none

def dropColon : Text → Text
  | ':' :: rest => rest
  | text => text

/-- Whether a text begins inside a word, given that a word character stands before it. -/
def continuesWord : Text → Bool
  | c :: _ => isWordChar c
  | [] => false

/-- Cuts a text at the first position, the end included, where `step` succeeds: what stands
before the position and what `step` found there. -/
def cutAt? (step : Text → Option α) : Text → Option (Text × α)
  | [] => (step []).map fun found => ([], found)
  | c :: rest =>
    match step (c :: rest) with
    | some found => some ([], found)
    | none => (cutAt? step rest).map fun cut => (c :: cut.1, cut.2)

/-- What `step` finds at the first position where it succeeds. -/
def first? (step : Text → Option α) (text : Text) : Option α := (cutAt? step text).map (·.2)

/-- Like `first?`, but only at positions that no word character precedes; `inWord` tells whether
one precedes the text. -/
def firstAtWord? (step : Text → Option α) (inWord : Bool) : Text → Option α
  | [] => if inWord then none else step []
  | c :: rest =>
    match if inWord then none else step (c :: rest) with
    | some found => some found
    | none => firstAtWord? step (isWordChar c) rest

end QueryLint.Text
