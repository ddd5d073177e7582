import TapeProbe.Text.Numeral

/-!
# Reading a document

A reader takes the characters that are left of a document and gives what it read together with the
characters behind it, or nothing when the document does not go on that way. Positions are not
counted while reading: a stretch of the document is known by the characters left at its two ends.

A reader that repeats another one has a budget of characters, one for each repetition. The characters
that are left are budget enough, since every repetition reads at least one of them.

Between what a document says there are blanks, line ends and comments. A line ends with a line feed,
with or without a carriage return before it; a carriage return never stands alone.

What is wrong with a document is shown under the line where it starts, with its line and column.
Columns count characters, the carets under the line count bytes.
-/

namespace TapeProbe.Toml

/-- Reads a value off the front of the characters that are left. -/
abbrev Reader (α : Type) := List Char → Option (α × List Char)

/-- The number of bytes that the characters take. -/
def byteSize (cs : List Char) : Nat := cs.foldr (fun c n => c.utf8Size + n) 0

/-- A stretch of a document, given by what is left to read at its two ends. -/
structure Span where
  /-- The document from the start of the stretch on. -/
  before : List Char
  /-- The document from the end of the stretch on. -/
  after : List Char
  deriving DecidableEq, Repr

/-- Bytes in the stretch. -/
def Span.size (s : Span) : Nat := byteSize s.before - byteSize s.after

/-- From the start of `s` to the end of `t`. -/
def Span.through (s t : Span) : Span := ⟨s.before, t.after⟩

/-- Read with `p`, and say which stretch was read. -/
def spanned {α : Type} (p : Reader α) : Reader (α × Span) := fun cs =>
  match p cs with
  | some (a, rest) => some ((a, ⟨cs, rest⟩), rest)
  | none => none

/-- Read with `p` as often as it succeeds and the budget allows. -/
def manyWithin {α : Type} (p : Reader α) : (budget : List Char) → List Char → List α × List Char
  | [], cs => ([], cs)
  | _ :: budget, cs =>
    match p cs with
    | none => ([], cs)
    | some (a, rest) =>
      let (more, rest) := manyWithin p budget rest
      (a :: more, rest)

/-- Read with `p` as often as it succeeds. -/
def many {α : Type} (p : Reader α) (cs : List Char) : List α × List Char := manyWithin p cs cs

/-- Read exactly these characters. -/
def word (w cs : List Char) : Option (List Char) :=
  if w.isPrefixOf cs then some (cs.drop w.length) else none

/-! ### Layout -/

/-- A blank within a line. -/
def isBlank (c : Char) : Bool := c == ' ' || c == '\t'

/-- A character that may stand in a comment or, quotes and escapes apart, in a string: everything
but control characters, and the tab. -/
def isText (c : Char) : Bool := c == '\t' || (0x20 ≤ c.toNat && c.toNat != 0x7f)

/-- What follows the blanks. -/
def skipBlanks (cs : List Char) : List Char := cs.dropWhile isBlank

/-- Behind the end of a line. -/
def lineBreak : List Char → Option (List Char)
  | '\n' :: rest => some rest
  | '\r' :: '\n' :: rest => some rest
  | _ => none

/-- Behind the end of a line, where the end of the document ends a line too. -/
def lineEnd : List Char → Option (List Char)
  | [] => some []
  | cs => lineBreak cs

/-- Behind a comment, if there is one. -/
def skipComment : List Char → List Char
  | '#' :: rest => rest.dropWhile isText
  | cs => cs

/-- Behind the rest of a line that holds nothing more than blanks and a comment. -/
def restOfLine (cs : List Char) : Option (List Char) :=
  lineEnd (skipComment (skipBlanks cs))

/-- Behind blanks, line ends and comments, as they may stand between the items of an array. Within
a comment (`inside`) only the end of its line leads on. -/
def gap (inside : Bool) : List Char → Option (List Char)
  | [] => if inside then none else some []
  | '\r' :: '\n' :: rest => gap false rest
  | c :: rest =>
    if c = '\n' then gap false rest
    else if inside then if isText c then gap true rest else none
    else if isBlank c then gap false rest
    else if c = '#' then gap true rest
    else if c = '\r' then none
    else some (c :: rest)

/-! ### Excerpts -/

/-- The characters that make up the first `n` bytes, and the rest. -/
def splitBytes : Nat → List Char → List Char × List Char
  | 0, cs => ([], cs)
  | _ + 1, [] => ([], [])
  | n + 1, c :: rest =>
    let (front, back) := splitBytes (n + 1 - c.utf8Size) rest
    (c :: front, back)

/-- The place in a document where a stretch starts. -/
structure Place where
  /-- Number of the line, from one. -/
  line : Nat
  /-- Number of the column, from one. -/
  column : Nat
  /-- The line, without its line feed. -/
  text : List Char

/-- Where a stretch starts. -/
def Span.place (span : Span) (cs : List Char) : Place :=
  let (front, back) := splitBytes (byteSize cs - byteSize span.before) cs
  let onLine := (front.reverse.takeWhile (· != '\n')).reverse
  { line := front.count '\n' + 1
    column := onLine.length + 1
    text := onLine ++ back.takeWhile (· != '\n') }

/-- The number of carets that mark a stretch: one for each byte of it, but at least one, and not
beyond the end of its line. -/
def Span.carets (span : Span) (place : Place) : Nat :=
  max 1 (min span.size (byteSize place.text - (place.column - 1)))

/-- The message about a stretch of a document: its place, the line marked with carets, and what is
wrong. -/
def Span.complaint (span : Span) (cs : List Char) (wrong : String) : String :=
  let place := span.place cs
  let number := Numeral.decimal place.line
  let margin := String.ofList (List.replicate (number.length + 1) ' ')
  let marks := List.replicate place.column ' ' ++ List.replicate (span.carets place) '^'
  "TOML parse error at line " ++ number ++ ", column " ++ Numeral.decimal place.column ++ "\n"
    ++ margin ++ "|\n"
    ++ number ++ " | " ++ String.ofList place.text ++ "\n"
    ++ margin ++ "|" ++ String.ofList marks ++ "\n"
    ++ wrong ++ "\n"

end TapeProbe.Toml
