import TapeProbe.Toml.Value

/-!
# Scalars

The values that hold no other values, as they are written.

A string stands between double quotes, where a backslash starts an escape, or between single
quotes, where every character stands for itself. Three quotes open a string that may span lines: a
line end right behind them is dropped, and every other line end counts as a line feed.

Integers stand in decimal with an optional sign, or in hexadecimal, octal or binary behind a mark; an
underscore may stand between two digits. Integers have 64 bits with sign. A decimal with a fraction
or an exponent is a floating-point number.

A date, a time of day, or a date with a time and an optional offset is read for its end only: which
one it is does not matter.
-/

namespace TapeProbe.Toml

/-! ### Escapes -/

/-- The character with the code point written in exactly `n` hexadecimal digits. -/
def codePoint (n : Nat) : Reader Char := fun cs =>
  let ds := cs.take n
  let code := Numeral.value 16 ds
  if ds.length = n ∧ ds.all (Numeral.isDigit 16) ∧ code.isValidChar then
    some (Char.ofNat code, cs.drop n)
  else none

/-- The character that an escape stands for; the backslash is read already. -/
def escape : Reader Char
  | 'b' :: rest => some ('\x08', rest)
  | 't' :: rest => some ('\t', rest)
  | 'n' :: rest => some ('\n', rest)
  | 'f' :: rest => some ('\x0c', rest)
  | 'r' :: rest => some ('\r', rest)
  | '"' :: rest => some ('"', rest)
  | '\\' :: rest => some ('\\', rest)
  | 'u' :: rest => codePoint 4 rest
  | 'U' :: rest => codePoint 8 rest
  | _ => none

/-! ### Strings on one line -/

/-- A character between double quotes. -/
def basicChar : Reader Char
  | [] => none
  | '\\' :: rest => escape rest
  | c :: rest => if isText c && c != '"' then some (c, rest) else none

/-- The rest of a string between double quotes. -/
def basicString : Reader (List Char) := fun cs =>
  match many basicChar cs with
  | (s, '"' :: rest) => some (s, rest)
  | _ => none

/-- A character between single quotes. -/
def isLiteralChar (c : Char) : Bool := isText c && c != '\''

/-- The rest of a string between single quotes. -/
def literalString : Reader (List Char) := fun cs =>
  match cs.dropWhile isLiteralChar with
  | '\'' :: rest => some (cs.takeWhile isLiteralChar, rest)
  | _ => none

/-! ### Strings that span lines -/

/-- Behind blanks and line ends. -/
def skipSpace : List Char → List Char
  | '\r' :: '\n' :: rest => skipSpace rest
  | c :: rest => if c = '\n' || isBlank c then skipSpace rest else c :: rest
  | [] => []

/-- A line end within a string. -/
def innerBreak : Reader (List Char) := fun cs => (lineBreak cs).map (['\n'], ·)

/-- Is the quote `q` part of the text, and not the first of three? -/
def isInnerQuote (q : Char) (rest : List Char) : Bool := !([q, q].isPrefixOf rest)

/-- A piece of the text between three double quotes. A backslash at the end of a line takes the line
end and all blank space behind it away. -/
def basicPiece : Reader (List Char)
  | [] => none
  | '\\' :: rest =>
    match lineBreak (skipBlanks rest) with
    | some rest => some ([], skipSpace rest)
    | none => (escape rest).map fun (c, rest) => ([c], rest)
  | c :: rest =>
    if c = '"' then if isInnerQuote '"' rest then some (['"'], rest) else none
    else if isText c then some ([c], rest)
    else innerBreak (c :: rest)

/-- A piece of the text between three single quotes. -/
def literalPiece : Reader (List Char)
  | [] => none
  | c :: rest =>
    if c = '\'' then if isInnerQuote '\'' rest then some (['\''], rest) else none
    else if isText c then some ([c], rest)
    else innerBreak (c :: rest)

/-- The three quotes that close a string; up to two more in front of them are text. -/
def closing (q : Char) : Reader (List Char)
  | a :: b :: c :: rest =>
    if a = q ∧ b = q ∧ c = q then
      match rest with
      | d :: e :: more =>
        if d = q ∧ e = q then some ([q, q], more)
        else if d = q then some ([q], e :: more)
        else some ([], rest)
      | [d] => if d = q then some ([q], []) else some ([], rest)
      | [] => some ([], [])
    else none
  | _ => none

/-- The rest of a string that spans lines, made of pieces and closed by three quotes. -/
def multiline (piece : Reader (List Char)) (q : Char) : Reader (List Char) := fun cs =>
  let cs := (lineBreak cs).getD cs
  let (pieces, rest) := many piece cs
  (closing q rest).map fun (quotes, rest) => (pieces.flatten ++ quotes, rest)

/-- A string of any of the four kinds. -/
def string : Reader String := fun cs =>
  let characters :=
    match cs with
    | '"' :: '"' :: '"' :: rest => multiline basicPiece '"' rest
    | '"' :: rest => basicString rest
    | '\'' :: '\'' :: '\'' :: rest => multiline literalPiece '\'' rest
    | '\'' :: rest => literalString rest
    | _ => none
  characters.map fun (s, rest) => (String.ofList s, rest)

/-! ### Numbers -/

/-- More digits; an underscore must have a digit behind it. -/
def moreDigits (b : Nat) : Reader (List Char)
  | [] => some ([], [])
  | '_' :: c :: rest =>
    if Numeral.isDigit b c then (moreDigits b rest).map fun (ds, rest) => (c :: ds, rest) else none
  | c :: rest =>
    if Numeral.isDigit b c then (moreDigits b rest).map fun (ds, rest) => (c :: ds, rest)
    else if c = '_' then none
    else some ([], c :: rest)

/-- One digit or more. -/
def digitRun (b : Nat) : Reader (List Char)
  | c :: rest =>
    if Numeral.isDigit b c then (moreDigits b rest).map fun (ds, rest) => (c :: ds, rest) else none
  | [] => none

/-- A sign, if there is one: is it a minus? -/
def sign : List Char → Bool × List Char
  | '+' :: rest => (false, rest)
  | '-' :: rest => (true, rest)
  | cs => (false, cs)

/-- The digits of a decimal integer: a zero stands alone. -/
def wholeDigits : Reader (List Char)
  | '0' :: rest => some (['0'], rest)
  | cs => digitRun 10 cs

/-- The digits of a fraction, if there is a point. -/
def fraction : Reader (List Char)
  | '.' :: rest => digitRun 10 rest
  | cs => some ([], cs)

/-- The power of ten of an exponent; zero where there is none. -/
def exponent : Reader Int
  | c :: rest =>
    if c = 'e' ∨ c = 'E' then
      let (negative, rest) := sign rest
      (digitRun 10 rest).map fun (ds, rest) =>
        let power : Int := Numeral.value 10 ds
        (if negative then -power else power, rest)
    else some (0, c :: rest)
  | [] => some (0, [])

/-- An integer within 64 bits with sign. -/
def integer? (i : Int) : Option Value :=
  if -0x8000000000000000 ≤ i ∧ i < 0x8000000000000000 then some (.integer i) else none

/-- A floating-point number; a literal beyond the largest one is refused, below the smallest one it
is negative infinity. -/
def float? (x : Binary64) : Option Value :=
  if x = .infinite false then none else some (.float x)

/-- Does a fraction or an exponent follow? -/
def isFloatTail : List Char → Bool
  | '.' :: _ | 'e' :: _ | 'E' :: _ => true
  | _ => false

/-- A decimal number behind its sign. -/
def decimalNumber (negative : Bool) : Reader Value := fun cs => do
  let (whole, rest) ← wholeDigits cs
  if isFloatTail rest then
    let (places, rest) ← fraction rest
    let (power, rest) ← exponent rest
    let x := Binary64.ofDecimal negative (Numeral.value 10 (whole ++ places)) (power - places.length)
    let v ← float? x
    return (v, rest)
  else
    let n : Int := Numeral.value 10 whole
    let v ← integer? (if negative then -n else n)
    return (v, rest)

/-- An integer in base `b` behind its mark. -/
def markedNumber (b : Nat) : Reader Value := fun cs => do
  let (ds, rest) ← digitRun b cs
  let v ← integer? (Numeral.value b ds)
  return (v, rest)

/-- A number; infinity and the one that is no number are spelled out. -/
def number : Reader Value
  | '0' :: 'x' :: rest => markedNumber 16 rest
  | '0' :: 'o' :: rest => markedNumber 8 rest
  | '0' :: 'b' :: rest => markedNumber 2 rest
  | cs =>
    let (negative, rest) := sign cs
    match rest with
    | 'i' :: 'n' :: 'f' :: rest => some (.float (.infinite negative), rest)
    | 'n' :: 'a' :: 'n' :: rest => some (.float .nan, rest)
    | _ => decimalNumber negative rest

/-! ### Dates and times -/

/-- A number of exactly `n` digits within the bounds. -/
def field (n low high : Nat) : Reader Nat := fun cs =>
  let ds := cs.take n
  let x := Numeral.value 10 ds
  if ds.length = n ∧ ds.all (Numeral.isDigit 10) ∧ low ≤ x ∧ x ≤ high then some (x, cs.drop n)
  else none

/-- The days of a month. -/
def daysIn (year month : Nat) : Nat :=
  if month = 2 then
    if year % 4 = 0 ∧ (year % 100 ≠ 0 ∨ year % 400 = 0) then 29 else 28
  else if month = 4 ∨ month = 6 ∨ month = 9 ∨ month = 11 then 30
  else 31

/-- Behind a date. -/
def date (cs : List Char) : Option (List Char) := do
  let (year, rest) ← field 4 0 9999 cs
  let rest ← word ['-'] rest
  let (month, rest) ← field 2 1 12 rest
  let rest ← word ['-'] rest
  let (_, rest) ← field 2 1 (daysIn year month) rest
  return rest

/-- Behind the fraction of a second, if there is one. -/
def secondFraction : List Char → List Char
  | '.' :: c :: rest =>
    if Numeral.isDigit 10 c then rest.dropWhile (Numeral.isDigit 10) else '.' :: c :: rest
  | cs => cs

/-- Behind a time of day; a minute may have a leap second. -/
def time (cs : List Char) : Option (List Char) := do
  let (_, rest) ← field 2 0 23 cs
  let rest ← word [':'] rest
  let (_, rest) ← field 2 0 59 rest
  let rest ← word [':'] rest
  let (_, rest) ← field 2 0 60 rest
  return secondFraction rest

/-- Behind an hour and a minute. -/
def hourMinute (cs : List Char) : Option (List Char) := do
  let (_, rest) ← field 2 0 23 cs
  let rest ← word [':'] rest
  let (_, rest) ← field 2 0 59 rest
  return rest

/-- Behind an offset, if there is one. -/
def offset : List Char → List Char
  | 'Z' :: rest | 'z' :: rest => rest
  | '+' :: rest => (hourMinute rest).getD ('+' :: rest)
  | '-' :: rest => (hourMinute rest).getD ('-' :: rest)
  | cs => cs

/-- Behind a time that goes with a date, if there is one. -/
def timeOfDate : List Char → List Char
  | c :: rest =>
    if c = 'T' ∨ c = 't' ∨ c = ' ' then
      match time rest with
      | some rest => offset rest
      | none => c :: rest
    else c :: rest
  | [] => []

/-- Does a date or a time start here: four digits and a hyphen, or two digits and a colon? -/
def isMoment (cs : List Char) : Bool :=
  match cs with
  | a :: b :: c :: rest =>
    [a, b].all (Numeral.isDigit 10)
      && (c == ':' || (Numeral.isDigit 10 c
        && match rest with
          | d :: '-' :: _ => Numeral.isDigit 10 d
          | _ => false))
  | _ => false

/-- Behind a date or a time. -/
def moment (cs : List Char) : Option (List Char) :=
  match date cs with
  | some rest => some (timeOfDate rest)
  | none => time cs

/-! ### All of them -/

/-- A value that holds no other values. -/
def scalar : Reader Value := fun cs =>
  match cs with
  | '"' :: _ | '\'' :: _ => (string cs).map fun (s, rest) => (.string s, rest)
  | 't' :: _ => (word "true".toList cs).map (.boolean true, ·)
  | 'f' :: _ => (word "false".toList cs).map (.boolean false, ·)
  | _ => if isMoment cs then (moment cs).map (.map, ·) else number cs

end TapeProbe.Toml
