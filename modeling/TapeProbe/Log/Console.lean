import TapeProbe.Event
import TapeProbe.Log.Filter

/-!
# The log on the console

Recorded messages and warnings about a filter as they are printed, each ending with a line feed of
its own. A warning is printed as it is. Of a message only what is visible is printed, so a control
sequence that a message leaves open takes the line feed along, and the next message follows on the
same line.

What is visible is what is shown where there is no terminal: control characters are dropped, and so
are the sequences that begin with an escape character, whether they end or not. Line feed, tab, form
feed and carriage return are kept, and so is every character beyond ASCII outside of a sequence.
-/

namespace TapeProbe.Text

/-! ### Control sequences -/

/-- Where a text stands with respect to control sequences. -/
inductive Place where
  /-- Outside of all sequences. -/
  | outside
  /-- After an escape character. -/
  | escape
  /-- In a short sequence, after its first character. -/
  | short
  /-- In a sequence with parameters; a letter ends it. -/
  | control
  /-- At the start of a device string. -/
  | deviceEntry
  /-- In the parameters of a device string. -/
  | deviceParameter
  /-- Behind the parameters of a device string. -/
  | deviceIntermediate
  /-- In a string that runs up to its terminator. -/
  | string
  /-- In a system command, which a bell ends as well. -/
  | command
  deriving DecidableEq, Repr

/-- The byte that ends a string, wherever in the encoding of a character it stands. -/
def stringTerminator : UInt8 := 0x9c

/-- Is this one of the control characters that are kept? -/
def isKeptControl (c : Char) : Bool := c == '\t' || c == '\n' || c == '\x0c' || c == '\r'

namespace Place

/-- Is a character shown at this place? In strings and commands nothing is. -/
def shows (p : Place) (c : Char) : Bool :=
  match p with
  | outside => isKeptControl c || (0x20 ≤ c.toNat && c.toNat != 0x7f)
  | escape | short | control => isKeptControl c
  | _ => false

/-- The place behind a character that follows an escape character. -/
def afterEscape (n : Nat) : Place :=
  if n < 0x20 || 0x7f ≤ n then escape
  else if n < 0x30 then short
  else if n = 0x50 then deviceEntry
  else if n = 0x5b then control
  else if n = 0x5d then command
  else if n = 0x58 || n = 0x5e || n = 0x5f then string
  else outside

/-- The place behind a character that is not shown, when it neither starts a sequence nor cancels
one. -/
def within (p : Place) (c : Char) : Place :=
  let n := c.toNat
  match p with
  | outside => outside
  | escape => afterEscape n
  | short => if 0x30 ≤ n && n < 0x7f then outside else short
  | control => if 0x40 ≤ n && n < 0x7f then outside else control
  | deviceEntry =>
    if n < 0x20 || 0x7f ≤ n then deviceEntry
    else if n < 0x30 then deviceIntermediate
    else if n < 0x40 then deviceParameter
    else string
  | deviceParameter =>
    if n < 0x20 || 0x7f ≤ n then deviceParameter
    else if n < 0x30 then deviceIntermediate
    else if n < 0x3c then deviceParameter
    else string
  | deviceIntermediate => if 0x30 ≤ n && n < 0x7f then string else deviceIntermediate
  | string => if (String.utf8EncodeChar c).contains stringTerminator then outside else string
  | command => if c = '\x07' then outside else command

/-- The place behind a character that is not shown. An escape character starts a sequence anywhere,
cancel and substitute leave one anywhere. -/
def next (p : Place) (c : Char) : Place :=
  if c = '\x1b' then escape
  else if c = '\x18' || c = '\x1a' then outside
  else p.within c

/-- The place behind a character that is shown. -/
def afterShown (p : Place) (c : Char) : Place := if c.toNat < 0x80 then p else outside

/-- The characters of a text that are shown, when it begins at a place. A control character that is
kept within a sequence interrupts it: what follows is `showing` as if outside, up to the next
character that is not shown there; with that one the sequence goes on. -/
def visible (showing : Bool) (p : Place) : List Char → List Char
  | [] => []
  | c :: cs =>
    if (if showing then outside else p).shows c then c :: visible true (p.afterShown c) cs
    else visible false (p.next c) cs

end Place

/-- The characters of a text that are shown. -/
def visible (cs : List Char) : List Char := Place.outside.visible false cs

end TapeProbe.Text

namespace TapeProbe.Log

/-! ### Lines of the log -/

/-- The name of a level, filled up with blanks to five characters. -/
def Level.column (l : Level) : String :=
  l.name ++ String.ofList (List.replicate (5 - l.name.length) ' ')

/-- Every line but the first moved to the right. -/
def indented (cs : List Char) : List Char :=
  cs.flatMap fun c => if c = '\n' then ['\n', ' ', ' ', ' ', ' '] else [c]

/-- A message in full. -/
def Message.line (m : Message) : List Char :=
  ("[" ++ m.level.column ++ " " ++ m.target ++ "] ").toList ++ indented m.text.toList ++ ['\n']

/-- A message as it is printed. -/
def Message.printed (m : Message) : List Char := Text.visible m.line

/-- A warning as it is printed. -/
def Warning.printed (w : Warning) : List Char :=
  ("warning: " ++ w.text ++ ", ignoring it\n").toList

/-- The warnings about a filter as they are printed. -/
def Filter.printedWarnings (f : Filter) : List Char := f.warnings.flatMap Warning.printed

/-- What was recorded among the events, as it is printed. -/
def printed (events : List Event) : List Char :=
  (events.filterMap Event.message?).flatMap Message.printed

/-- What is on the console, line by line. -/
def consoleLines (printed : List Char) : List String := (Text.lines printed).map String.ofList

end TapeProbe.Log
