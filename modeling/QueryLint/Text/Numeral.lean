import QueryLint.Text.Basic

/-!
Numbers of a 64-bit word, and numbers written in ASCII: naturals that fit a word, and decimal
numbers as a coefficient and a power of ten. Reading a decimal number is exact; only the question
whether it is within the range of double precision rounds.
-/

namespace QueryLint.Text

/-- The number that a list of ASCII digits writes in base ten. -/
def digitsValue (digits : Text) : Nat := digits.foldl (fun n c => 10 * n + (c.toNat - 48)) 0

def maxWord : Nat := Nat.pow 2 64 - 1

/-- The sum of two numbers, if it fits a word. -/
def plus? (a b : Nat) : Option Nat := if a + b ≤ maxWord then some (a + b) else none

theorem plus?_eq {a b : Nat} (h : a + b ≤ maxWord) : plus? a b = some (a + b) := if_pos h

theorem plus?_eq_none {a b : Nat} (h : maxWord < a + b) : plus? a b = none :=
  if_neg (Nat.not_le.mpr h)

def minus? (a b : Nat) : Option Nat := if b ≤ a then some (a - b) else none

theorem minus?_eq {a b : Nat} (h : b ≤ a) : minus? a b = some (a - b) := if_pos h

/-- The number written by one or more ASCII digits, if it fits a word. -/
def readWord? (text : Text) : Option Nat :=
  if text.isEmpty || !text.all Char.isDigit then none
  else if digitsValue text ≤ maxWord then some (digitsValue text) else none

def dropSign : Text → Text
  | '+' :: rest => rest
  | '-' :: rest => rest
  | text => text

/-- The number `coefficient · 10 ^ exponent`. -/
structure Decimal where
  coefficient : Nat
  exponent : Int

def readExponent? : Text → Option Int
  | [] => some 0
  | mark :: rest =>
    let digits := dropSign rest
    if (mark = 'e' || mark = 'E') && !digits.isEmpty && digits.all Char.isDigit then
      some (if rest.head? = some '-' then -(digitsValue digits : Int) else digitsValue digits)
    else none

/-- Reads a decimal number without its sign: digits with at most one point, at least one digit,
and an optional exponent. -/
def readDecimal? (text : Text) : Option Decimal :=
  let text := dropSign text
  let whole := text.takeWhile Char.isDigit
  let rest := text.dropWhile Char.isDigit
  let (fraction, rest) := match rest with
    | '.' :: tail => (tail.takeWhile Char.isDigit, tail.dropWhile Char.isDigit)
    | _ => ([], rest)
  if whole.isEmpty && fraction.isEmpty then none
  else (readExponent? rest).map fun exponent =>
    ⟨digitsValue (whole ++ fraction), exponent - fraction.length⟩

def isFloat (text : Text) : Bool :=
  (readDecimal? text).isSome
    || ["inf", "infinity", "nan"].any fun name => sameLetters (dropSign text) name.toList

/-- Numbers from here on round to infinity in double precision: the midpoint between the largest
finite number and the next power of two. -/
def doubleOverflow : Nat := Nat.pow 2 1024 - Nat.pow 2 970

/-- Whether a decimal number stays finite in double precision. The first two tests only keep the
powers of ten small. -/
def Decimal.isFinite (number : Decimal) : Bool :=
  let size : Int := (Nat.repr number.coefficient).length + number.exponent
  if number.coefficient = 0 || size < 300 then true
  else if 320 < size then false
  else if 0 ≤ number.exponent then
    number.coefficient * Nat.pow 10 number.exponent.toNat < doubleOverflow
  else number.coefficient < doubleOverflow * Nat.pow 10 (-number.exponent).toNat

end QueryLint.Text
