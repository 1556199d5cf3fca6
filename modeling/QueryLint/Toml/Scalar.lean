import QueryLint.Text.Numeral

/-!
The written forms of TOML scalars: texts with their escapes, numbers, dates and times.
-/

namespace QueryLint.Toml

/-! ## Numbers and dates -/

/-- Whether a text consists of digits of one kind, with single underscores between them. -/
def isDigits (isDigit : Char → Bool) : Text → Bool
  | [] => false
  | [c] => isDigit c
  | c :: '_' :: rest => isDigit c && isDigits isDigit rest
  | c :: rest => isDigit c && isDigits isDigit rest

def isHexDigit (c : Char) : Bool := c.isDigit || ('a' ≤ c && c ≤ 'f') || ('A' ≤ c && c ≤ 'F')

/-- Whether a text is a decimal number without sign that no needless zero starts. -/
def isWhole (text : Text) : Bool :=
  isDigits Char.isDigit text && (text.head? ≠ some '0' || text.length = 1)

def isInteger (text : Text) : Bool :=
  match text with
  | '0' :: 'x' :: digits => isDigits isHexDigit digits
  | '0' :: 'o' :: digits => isDigits (fun c => '0' ≤ c && c ≤ '7') digits
  | '0' :: 'b' :: digits => isDigits (fun c => c = '0' || c = '1') digits
  | _ => isWhole (Text.dropSign text)

/-- Whether a text is a number with a point or an exponent, an infinity or a NaN. -/
def isFloat (text : Text) : Bool :=
  let unsigned := Text.dropSign text
  let isMark : Char → Bool := fun c => c = 'e' || c = 'E'
  let mantissa := unsigned.takeWhile fun c => !isMark c
  let exponent := (unsigned.drop mantissa.length).drop 1
  let whole := mantissa.takeWhile (· ≠ '.')
  let fraction := (mantissa.drop whole.length).drop 1
  let hasExponent := mantissa.length < unsigned.length
  let hasPoint := whole.length < mantissa.length
  unsigned = "inf" || unsigned = "nan"
    || (hasExponent || hasPoint) && isWhole whole
      && (!hasPoint || isDigits Char.isDigit fraction)
      && (!hasExponent || isDigits Char.isDigit (Text.dropSign exponent))

def isNumberWithin (count low high : Nat) (text : Text) : Bool :=
  text.length = count && text.all Char.isDigit && low ≤ Text.digitsValue text
    && Text.digitsValue text ≤ high

def daysOf (year month : Nat) : Nat :=
  if month = 2 then
    if year % 4 = 0 && (year % 100 ≠ 0 || year % 400 = 0) then 29 else 28
  else if month = 4 || month = 6 || month = 9 || month = 11 then 30
  else 31

def isDate (text : Text) : Bool :=
  let year := text.take 4
  let month := (text.drop 5).take 2
  text.length = 10 && text[4]? = some '-' && text[7]? = some '-'
    && isNumberWithin 4 0 9999 year && isNumberWithin 2 1 12 month
    && isNumberWithin 2 1 (daysOf (Text.digitsValue year) (Text.digitsValue month)) (text.drop 8)

def isTime (text : Text) : Bool :=
  let seconds := text.drop 5
  let fraction := seconds.drop 3
  5 ≤ text.length && isNumberWithin 2 0 23 (text.take 2) && text[2]? = some ':'
    && isNumberWithin 2 0 59 ((text.drop 3).take 2)
    && (seconds.isEmpty || (seconds.head? = some ':'
      && isNumberWithin 2 0 60 ((seconds.drop 1).take 2)
      && (fraction.isEmpty || (fraction.head? = some '.' && 1 < fraction.length
        && (fraction.drop 1).all Char.isDigit))))

/-- Whether a text is a time of day, with its distance from universal time or without. -/
def isZonedTime (text : Text) : Bool :=
  let zone := text.drop (text.length - 6)
  isTime text
    || ((text.getLast? = some 'Z' || text.getLast? = some 'z') && isTime text.dropLast)
    || ((zone.head? = some '+' || zone.head? = some '-') && isNumberWithin 2 0 23 ((zone.drop 1).take 2)
      && zone[3]? = some ':' && isNumberWithin 2 0 59 (zone.drop 4)
      && isTime (text.take (text.length - 6)))

def isMoment (text : Text) : Bool :=
  isDate text || isTime text
    || (isDate (text.take 10) && (text[10]?).any (fun c => c = 'T' || c = 't' || c = ' ')
      && isZonedTime (text.drop 11))

def isScalar (text : Text) : Bool := isInteger text || isFloat text || isMoment text

/-! ## Texts -/

def isPlain (c : Char) : Bool := c = '\t' || (0x20 ≤ c.toNat && c.toNat ≠ 0x7F)

/-- The character with the code point that hexadecimal digits write. -/
def charOfHex? (digits : Text) : Option Char :=
  let value (c : Char) : Nat :=
    if c.isDigit then c.toNat - 48 else if 'a' ≤ c then c.toNat - 87 else c.toNat - 55
  let code := digits.foldl (fun code c => 16 * code + value c) 0
  if digits.all isHexDigit && code.isValidChar then some (Char.ofNat code) else none

def escape? : Text → Option (Char × Text)
  | 'b' :: rest => some ('\x08', rest)
  | 't' :: rest => some ('\t', rest)
  | 'n' :: rest => some ('\n', rest)
  | 'f' :: rest => some ('\x0c', rest)
  | 'r' :: rest => some ('\r', rest)
  | 'e' :: rest => some ('\x1b', rest)
  | '"' :: rest => some ('"', rest)
  | '\\' :: rest => some ('\\', rest)
  | 'x' :: rest => hex 2 rest
  | 'u' :: rest => hex 4 rest
  | 'U' :: rest => hex 8 rest
  | _ => none
where
  /-- The character that the next digits write. -/
  hex (count : Nat) (text : Text) : Option (Char × Text) :=
    if count ≤ text.length then
      (charOfHex? (text.take count)).map fun c => (c, text.drop count)
    else none

def dropBreak? : Text → Option Text
  | '\n' :: rest => some rest
  | '\r' :: '\n' :: rest => some rest
  | _ => none

/-- What is left after the white space and line breaks that follow a backslash at the end of a
line. -/
def dropContinuation? (text : Text) : Option Text :=
  (dropBreak? (text.dropWhile fun c => c = ' ' || c = '\t')).map fun rest =>
    rest.dropWhile fun c => c = ' ' || c = '\t' || c = '\n' || c = '\r'

/-- The inside of a text on one line up to its closing quote, and what follows. Only double quotes
have escapes. Every step takes a character at least. -/
def lineBody? (quote : Char) : Nat → Text → Option (Text × Text)
  | 0, _ => none
  | _, [] => none
  | steps + 1, c :: rest =>
    if c = quote then some ([], rest)
    else if c = '\\' && quote = '"' then do
      let (escaped, rest) ← escape? rest
      let (body, rest) ← lineBody? quote steps rest
      some (escaped :: body, rest)
    else if isPlain c then (lineBody? quote steps rest).map fun (body, rest) => (c :: body, rest)
    else none

/-- The inside of a text of several lines up to its three closing quotes, and what follows. Up to
two more quotes before the closing ones belong to the text. -/
def blockBody? (quote : Char) : Nat → Text → Option (Text × Text)
  | 0, _ => none
  | _, [] => none
  | steps + 1, c :: rest =>
    let quotes := ((c :: rest).takeWhile (· = quote)).length
    if 3 ≤ quotes then
      if quotes ≤ 5 then some (List.replicate (quotes - 3) quote, (c :: rest).drop quotes) else none
    else if c = '\\' && quote = '"' then
      match dropContinuation? rest with
      | some rest => blockBody? quote steps rest
      | none => do
        let (escaped, rest) ← escape? rest
        let (body, rest) ← blockBody? quote steps rest
        some (escaped :: body, rest)
    else if isPlain c || (dropBreak? (c :: rest)).isSome then
      (blockBody? quote steps rest).map fun (body, rest) => (c :: body, rest)
    else none

def quoted? : Text → Option (Text × Text)
  | [] => none
  | quote :: rest =>
    if quote = '"' || quote = '\'' then
      if [quote, quote].isPrefixOf rest then
        let body := rest.drop 2
        let body := (dropBreak? body).getD body
        blockBody? quote (body.length + 1) body
      else lineBody? quote (rest.length + 1) rest
    else none

def quotedKey? (text : Text) : Option (Text × Text) :=
  match text with
  | quote :: rest =>
    if quote = '"' || quote = '\'' then lineBody? quote (rest.length + 1) rest else none
  | [] => none

end QueryLint.Toml
