import QueryLint.Text.Numeral

/-!
The grammar of JSON: which texts are JSON, and the values that they denote. White space may stand
around every value and around every bracket, comma and colon.
-/

namespace QueryLint.Json

open Text

/-- A JSON value. An object keeps the order of its members, also of members with the same key. -/
inductive Value
  | null
  | flag (value : Bool)
  | number (negative : Bool) (magnitude : Decimal)
  | string (text : Text)
  | array (items : List Value)
  | object (members : List (Text × Value))

def isSpace (c : Char) : Bool := c = ' ' || c = '\t' || c = '\n' || c = '\r'

def Spaces (text : Text) : Prop := ∀ c ∈ text, isSpace c

/-! ## Strings -/

/-- A character that stands for itself in a string. -/
def isUnescaped (c : Char) : Bool := 0x20 ≤ c.toNat && c ≠ '"' && c ≠ '\\'

/-- The character that a mark after a backslash stands for. -/
def escaped? (mark : Char) : Option Char :=
  if mark = '"' || mark = '\\' || mark = '/' then some mark
  else if mark = 'b' then some '\x08'
  else if mark = 'f' then some '\x0c'
  else if mark = 'n' then some '\n'
  else if mark = 'r' then some '\r'
  else if mark = 't' then some '\t'
  else none

def hexValue? (c : Char) : Option Nat :=
  if c.isDigit then some (c.toNat - 48)
  else if 'a' ≤ c && c ≤ 'f' then some (c.toNat - 87)
  else if 'A' ≤ c && c ≤ 'F' then some (c.toNat - 55)
  else none

/-- The number of 16 bits that four hexadecimal digits write. -/
def unitOf? : Text → Option Nat
  | [a, b, c, d] => do
    let a ← hexValue? a
    let b ← hexValue? b
    let c ← hexValue? c
    let d ← hexValue? d
    return ((a * 16 + b) * 16 + c) * 16 + d
  | _ => none

/-- A number that is the first of the two that write a character beyond 16 bits. -/
def isHighHalf (unit : Nat) : Bool := 0xD800 ≤ unit && unit < 0xDC00

/-- A number that is the second of the two that write a character beyond 16 bits. -/
def isLowHalf (unit : Nat) : Bool := 0xDC00 ≤ unit && unit < 0xE000

def ofHalves (high low : Nat) : Char :=
  Char.ofNat (0x10000 + (high - 0xD800) * 0x400 + (low - 0xDC00))

/-- The ways of writing a character in a string. -/
inductive WrittenChar : Text → Char → Prop
  | unescaped {c : Char} (h : isUnescaped c) : WrittenChar [c] c
  | escaped {mark c : Char} (h : escaped? mark = some c) : WrittenChar ['\\', mark] c
  | unit {digits : Text} {unit : Nat} (h : unitOf? digits = some unit)
      (high : isHighHalf unit = false) (low : isLowHalf unit = false) :
      WrittenChar ('\\' :: 'u' :: digits) (Char.ofNat unit)
  | halves {digits digits' : Text} {high low : Nat} (hhigh : unitOf? digits = some high)
      (hlow : unitOf? digits' = some low) (isHigh : isHighHalf high) (isLow : isLowHalf low) :
      WrittenChar ('\\' :: 'u' :: (digits ++ '\\' :: 'u' :: digits')) (ofHalves high low)

inductive WrittenText : Text → Text → Prop
  | nil : WrittenText [] []
  | cons {written more : Text} {c : Char} {text : Text} (char : WrittenChar written c)
      (rest : WrittenText more text) : WrittenText (written ++ more) (c :: text)

/-! ## Numbers -/

def isNumberChar (c : Char) : Bool :=
  c.isDigit || c = '-' || c = '+' || c = '.' || c = 'e' || c = 'E'

/-- Whether digits stand at the front, of which the first is zero only alone, and a point behind
them is followed by a digit. -/
def hasWholePart (text : Text) : Bool :=
  let whole := text.takeWhile Char.isDigit
  let rest := text.dropWhile Char.isDigit
  whole ≠ [] && (whole.head? ≠ some '0' || whole = ['0'])
    && (rest.head? ≠ some '.' || rest.tail.head?.any Char.isDigit)

def dropMinus (text : Text) : Text := if text.head? = some '-' then text.tail else text

/-- The sign and the magnitude of the number that a text writes: a minus sign or none, digits, and
after them a fraction and an exponent or not. -/
def numberOf? (text : Text) : Option (Bool × Decimal) :=
  if text.all isNumberChar && hasWholePart (dropMinus text) then
    (readDecimal? (dropMinus text)).map fun magnitude => (text.head? = some '-', magnitude)
  else none

/-! ## Values -/

/-- The text of a member up to the colon: a string, the key, and white space around it. -/
def WrittenKey (text key : Text) : Prop :=
  ∃ before written after, Spaces before ∧ Spaces after ∧ WrittenText written key ∧
    text = before ++ '"' :: (written ++ '"' :: after)

structure Member where
  keyText : Text
  key : Text
  valueText : Text
  value : Value

def Member.text (member : Member) : Text := member.keyText ++ ':' :: member.valueText

def Member.pair (member : Member) : Text × Value := (member.key, member.value)

/-- The texts that denote a value. -/
inductive Denotes : Text → Value → Prop
  | null : Denotes "null" .null
  | flag (value : Bool) : Denotes (if value then "true" else "false") (.flag value)
  | number {text : Text} {negative : Bool} {magnitude : Decimal}
      (h : numberOf? text = some (negative, magnitude)) : Denotes text (.number negative magnitude)
  | string {written text : Text} (h : WrittenText written text) :
      Denotes ('"' :: (written ++ ['"'])) (.string text)
  | array {items : List (Text × Value)} {spaces : Text} (spaces_before : Spaces spaces)
      (each : ∀ item ∈ items, Denotes item.1 item.2) :
      Denotes ('[' :: (join [','] (items.map Prod.fst) ++ (spaces ++ [']'])))
        (.array (items.map Prod.snd))
  | object {members : List Member} {spaces : Text} (spaces_before : Spaces spaces)
      (keys : ∀ member ∈ members, WrittenKey member.keyText member.key)
      (each : ∀ member ∈ members, Denotes member.valueText member.value) :
      Denotes ('\x7b' :: (join [','] (members.map Member.text) ++ (spaces ++ ['\x7d'])))
        (.object (members.map Member.pair))
  | spaced {before text after : Text} {value : Value} (before_spaces : Spaces before)
      (after_spaces : Spaces after) (h : Denotes text value) :
      Denotes (before ++ (text ++ after)) value

/-- A value in which every object has each of its keys once. -/
inductive Value.UniqueKeys : Value → Prop
  | null : UniqueKeys .null
  | flag (value : Bool) : UniqueKeys (.flag value)
  | number (negative : Bool) (magnitude : Decimal) : UniqueKeys (.number negative magnitude)
  | string (text : Text) : UniqueKeys (.string text)
  | array {items : List Value} (each : ∀ item ∈ items, item.UniqueKeys) :
      UniqueKeys (.array items)
  | object {members : List (Text × Value)} (nodup : (members.map Prod.fst).Nodup)
      (each : ∀ member ∈ members, member.2.UniqueKeys) : UniqueKeys (.object members)

end QueryLint.Json
