import TapeProbe.Log.Message

/-!
# Log filters

A filter text holds directives with commas between them and, behind a slash, a text that messages
have to contain. A directive sets how much is wanted from the targets that start with a name, or
from all. What cannot be understood is skipped with a warning.
-/

namespace TapeProbe.Text

/-! ### Pieces of text -/

/-- A blank: tab, line and page breaks, and every space character. -/
def isBlank (c : Char) : Bool :=
  let n := c.toNat
  (0x09 ≤ n && n ≤ 0x0d) || n == 0x20 || n == 0x85 || n == 0xa0 || n == 0x1680
    || (0x2000 ≤ n && n ≤ 0x200a) || n == 0x2028 || n == 0x2029 || n == 0x202f || n == 0x205f
    || n == 0x3000

/-- The text without the blanks at its two ends. -/
def trim (cs : List Char) : List Char :=
  ((cs.dropWhile isBlank).reverse.dropWhile isBlank).reverse

/-- The pieces between the occurrences of `sep`; there is always at least one. -/
def splitOn (sep : Char) : List Char → List (List Char)
  | [] => [[]]
  | c :: cs =>
    if c = sep then [] :: splitOn sep cs
    else
      match splitOn sep cs with
      | [] => [[c]]
      | piece :: pieces => (c :: piece) :: pieces

/-- A line without the carriage return at its end. -/
def withoutReturn (cs : List Char) : List Char := if cs.getLast? = some '\r' then cs.dropLast else cs

/-- The lines of a text that is cut at the line feeds: a carriage return before a line feed belongs
to the end of the line, and what follows the last line feed is a line unless it is empty. -/
def linesOfPieces : List (List Char) → List (List Char)
  | [] => []
  | [last] => if last.isEmpty then [] else [last]
  | piece :: pieces => withoutReturn piece :: linesOfPieces pieces

/-- The lines of a text. -/
def lines (cs : List Char) : List (List Char) := linesOfPieces (splitOn '\n' cs)

/-- Does `part` occur in the text? -/
def contains (part : List Char) : List Char → Bool
  | [] => part.isEmpty
  | c :: cs => part.isPrefixOf (c :: cs) || contains part cs

/-- The text with ASCII letters in lower case. -/
def lower (cs : List Char) : List Char := cs.map Char.toLower

end TapeProbe.Text

namespace TapeProbe.Log

/-! ### Filters -/

/-- How much is wanted from some targets. -/
structure Directive where
  /-- Targets that start with this; without it, all targets. -/
  name : Option String
  /-- How much is wanted. -/
  verbosity : Verbosity
  deriving DecidableEq, Repr

namespace Directive

/-- The number of bytes of the name. -/
def nameSize (d : Directive) : Nat := (d.name.map String.utf8ByteSize).getD 0

/-- Does the directive speak of the target? -/
def covers (d : Directive) (target : String) : Bool :=
  match d.name with
  | some name => name.toList.isPrefixOf target.toList
  | none => true

end Directive

/-- Something in a filter text that cannot be understood. -/
inductive Warning where
  /-- A directive, or the level in one. -/
  | directive (text : String)
  /-- A text with more than one slash. -/
  | slashes (text : String)
  deriving DecidableEq, Repr

/-- The warning in words. -/
def Warning.text : Warning → String
  | .directive text => "invalid logging spec '" ++ text ++ "'"
  | .slashes text => "invalid logging spec '" ++ text ++ "' (too many '/'s)"

/-- A filter: its directives in order, and the text that messages have to contain. -/
structure Filter where
  /-- The directives. -/
  directives : List Directive := []
  /-- The text that messages have to contain. -/
  part : List Char := []
  /-- What could not be understood, in order. -/
  warnings : List Warning := []
  deriving DecidableEq, Repr

namespace Filter

/-- The verbosity with a name, in letters of either case. -/
def verbosity? (cs : List Char) : Option Verbosity :=
  Verbosity.ofName? (String.ofList (Text.lower cs))

/-- Add a directive; it takes the place of an earlier one for the same name. -/
def add (f : Filter) (d : Directive) : Filter :=
  if f.directives.any fun e => e.name = d.name then
    { f with directives := f.directives.map fun e => if e.name = d.name then d else e }
  else { f with directives := f.directives ++ [d] }

/-- Skip what cannot be understood. -/
def warn (f : Filter) (w : Warning) : Filter := { f with warnings := f.warnings ++ [w] }

/-- Take in one directive as written, without blanks around it. -/
def addPiece (f : Filter) (piece : List Char) : Filter :=
  match Text.splitOn '=' piece with
  | [single] =>
    match verbosity? single with
    | some v => f.add ⟨none, v⟩
    | none => f.add ⟨some (String.ofList single), .trace⟩
  | [name, level] =>
    match Text.trim level with
    | [] => f.add ⟨some (String.ofList name), .trace⟩
    | level =>
      match verbosity? level with
      | some v => f.add ⟨some (String.ofList name), v⟩
      | none => f.warn (.directive (String.ofList level))
  | _ => f.warn (.directive (String.ofList piece))

/-- Take in the directives of a list. -/
def addList (f : Filter) (list : List Char) : Filter :=
  let pieces := ((Text.splitOn ',' list).map Text.trim).filter fun piece => !piece.isEmpty
  pieces.foldl addPiece f

/-- The filter that a text stands for. -/
def ofText (text : String) : Filter :=
  match Text.splitOn '/' text.toList with
  | [list] => ({} : Filter).addList list
  | [list, part] => ({ part := part } : Filter).addList list
  | _ => ({} : Filter).warn (.slashes text)

/-- The directives in force: without any, errors are wanted from everywhere. -/
def inForce (f : Filter) : List Directive :=
  if f.directives.isEmpty then [⟨none, .error⟩] else f.directives

/-- Of two directives, the second unless its name is shorter. -/
def moreSpecific (best : Option Directive) (d : Directive) : Option Directive :=
  match best with
  | some b => if d.nameSize < b.nameSize then some b else some d
  | none => some d

/-- The directive that decides about a target: of those that speak of it the one with the longest
name, and of equally long ones the last. -/
def decisive (f : Filter) (target : String) : Option Directive :=
  (f.inForce.filter (·.covers target)).foldl moreSpecific none

/-- Is the message wanted? -/
def wants (f : Filter) (m : Message) : Bool :=
  match f.decisive m.target with
  | some d => d.verbosity.admits m.level && Text.contains f.part m.text.toList
  | none => false

/-- The most verbose of the directives. -/
def maxVerbosity (f : Filter) : Verbosity :=
  f.inForce.foldl (fun v d => v.max d.verbosity) .off

end Filter

end TapeProbe.Log
