import QueryLint.Scan

/-!
The words of a statement and the keywords they spell. A word is a maximal run of letters, numbers
and underscores of the code; a keyword of several words matches them in a row, in any letter case,
with nothing but white space between them.
-/

namespace QueryLint

def wordSpans (text : Text) : List Span := Text.runsFrom 0 ((scan text).map Marked.isWord)

def blankBetween (text : Text) (start stop : Nat) : Bool :=
  Text.allBlank ((Span.mk start stop).slice text)

def keywordStop? (text : Text) : List Text → List Span → Option Nat
  | [], _ => none
  | _ :: _, [] => none
  | [part], word :: _ =>
    if Text.sameLetters (word.slice text) part then some word.stop else none
  | part :: parts, word :: next :: words =>
    if Text.sameLetters (word.slice text) part && blankBetween text word.stop next.start then
      keywordStop? text parts (next :: words)
    else none
  | _ :: _, [_] => none

def findParts? (text : Text) (parts : List Text) : List Span → Option Span
  | [] => none
  | word :: words =>
    match keywordStop? text parts (word :: words) with
    | some stop => some ⟨word.start, stop⟩
    | none => findParts? text parts words

/-- The first occurrence of `keyword` among `words`; a keyword without any word has none. -/
def findKeyword? (text : Text) (words : List Span) (keyword : Text) : Option Span :=
  findParts? text (Text.fields keyword) words

end QueryLint
