import TapeProbe.Toml.Scalar

/-!
# Documents

A document is a list of lines. Each is empty but for a comment, gives a key a value, or is the
header of a table or of a table in an array.

A key is bare, made of letters, digits, hyphens and underscores, or a string on one line. Keys with
points between them lead through tables; they may not lead deeper than the limit on nesting.

Besides scalars there are arrays and inline tables. An array may span lines and end with a comma; an
inline table stands on one line, has no comma at its end, and defines each of its keys once.

The statements of a document are put together into its tables. Each key is defined once, and the keys
of the outermost table are the entries of the document.
-/

namespace TapeProbe.Toml

/-! ### Keys -/

/-- Arrays, inline tables and dotted keys have to stay below this depth. -/
def maxDepth : Nat := 80

/-- A character of a bare key. -/
def isBareChar (c : Char) : Bool := c.isAlphanum || c == '-' || c == '_'

/-- The name of one part of a key. -/
def keyName : Reader String := fun cs =>
  let characters :=
    match cs with
    | '"' :: rest => basicString rest
    | '\'' :: rest => literalString rest
    | _ =>
      match cs.takeWhile isBareChar with
      | [] => none
      | name => some (name, cs.dropWhile isBareChar)
  characters.map fun (s, rest) => (String.ofList s, rest)

/-- One part of a key, with the blanks around it. -/
def keyPart : Reader Key := fun cs =>
  (spanned keyName (skipBlanks cs)).map fun ((name, span), rest) => (⟨name, span⟩, skipBlanks rest)

/-- A point and one part of a key. -/
def dottedPart : Reader Key
  | '.' :: rest => keyPart rest
  | _ => none

/-- A key: the tables it leads through, and its last part. -/
def keyPath : Reader (List Key × Key) := fun cs => do
  let (first, rest) ← keyPart cs
  let (more, rest) := many dottedPart rest
  if more.length + 1 < maxDepth then
    return (((first :: more).dropLast, more.getLast?.getD first), rest)
  else none

/-! ### Values as written -/

/-- Behind the items of an array and its closing bracket. -/
def arrayItems (item : Reader Value) : (budget : List Char) → List Char → Option (List Char)
  | [], _ => none
  | _ :: budget, cs => do
    let start ← gap false cs
    match start with
    | ']' :: rest => some rest
    | _ =>
      let (_, rest) ← item start
      let rest ← gap false rest
      match rest with
      | ']' :: rest => some rest
      | ',' :: rest => arrayItems item budget rest
      | _ => none

/-- A key with a value and the blanks around it. -/
def assignment (item : Reader Value) : Reader ((List Key × Key) × Value × Span) := fun cs => do
  let (path, rest) ← keyPath cs
  let rest ← word ['='] rest
  let (value, rest) ← spanned item (skipBlanks rest)
  return ((path, value), skipBlanks rest)

/-- Behind the entries of an inline table and its closing brace, where there is at least one more
entry; `es` holds the entries so far. -/
def tableEntries (item : Reader Value) :
    (budget : List Char) → (es : Entries) → List Char → Option (List Char)
  | [], _, _ => none
  | _ :: budget, es, cs => do
    let (((path, key), value, span), rest) ← assignment item cs
    let es ← es.assign key (.value value span) path
    match rest with
    | '\x7d' :: rest => some rest
    | ',' :: rest => tableEntries item budget es rest
    | _ => none

/-- Behind an inline table; its opening brace is read already. -/
def inlineTable (item : Reader Value) (cs : List Char) : Option (List Char) :=
  match skipBlanks cs with
  | '\x7d' :: rest => some rest
  | _ => tableEntries item cs [] cs

/-- A value in which arrays and inline tables nest at most `depth` deep. -/
def value : (depth : Nat) → Reader Value
  | 0 => fun cs =>
    match cs with
    | '[' :: _ | '\x7b' :: _ => none
    | _ => scalar cs
  | depth + 1 => fun cs =>
    match cs with
    | '[' :: rest => (arrayItems (value depth) rest rest).map (.sequence, ·)
    | '\x7b' :: rest => (inlineTable (value depth) rest).map (.map, ·)
    | _ => scalar cs

/-! ### Statements -/

/-- What a line says. -/
inductive Statement where
  /-- The value of a key. -/
  | assign (path : List Key) (key : Key) (value : Value) (span : Span)
  /-- The header of a table. -/
  | header (path : List Key) (key : Key) (span : Span)
  /-- The header of one more table in an array. -/
  | element (path : List Key) (key : Key) (span : Span)

/-- A key between brackets. -/
def bracketed (opening closing : List Char) : Reader (List Key × Key) := fun cs => do
  let rest ← word opening cs
  let (path, rest) ← keyPath rest
  let rest ← word closing rest
  return (path, rest)

/-- A line that says something. -/
def statement : Reader Statement := fun cs =>
  match cs with
  | '[' :: '[' :: _ => do
    let (((path, key), span), rest) ← spanned (bracketed ['[', '['] [']', ']']) cs
    let rest ← restOfLine rest
    return (.element path key span, rest)
  | '[' :: _ => do
    let (((path, key), span), rest) ← spanned (bracketed ['['] [']']) cs
    let rest ← restOfLine rest
    return (.header path key span, rest)
  | _ => do
    let (((path, key), v, span), rest) ← assignment (value (maxDepth - 1)) cs
    let rest ← restOfLine rest
    return (.assign path key v span, rest)

/-- Read one line. A line that says nothing gives no statement. -/
def line : Reader (Option Statement) := fun cs =>
  match skipBlanks cs with
  | '#' :: rest => (lineEnd (rest.dropWhile isText)).map (none, ·)
  | '\n' :: rest => some (none, rest)
  | '\r' :: rest => (word ['\n'] rest).map (none, ·)
  | start => (statement start).map fun (s, rest) => (some s, rest)

/-- The statements of as many lines as the budget allows; nothing when a line is malformed or a line
is left over. -/
def statementsWithin : (budget : List Char) → List Char → Option (List Statement)
  | [], cs => if (skipBlanks cs).isEmpty then some [] else none
  | _ :: budget, cs =>
    if (skipBlanks cs).isEmpty then some []
    else do
      let (s, rest) ← line cs
      let more ← statementsWithin budget rest
      return s.toList ++ more

/-- All statements of the document. -/
def statements (cs : List Char) : Option (List Statement) := statementsWithin cs cs

/-! ### The entries of a document -/

/-- A document while its statements are put together. -/
structure Draft where
  /-- The outermost table. -/
  root : Entries := []
  /-- The table that the last header opened. -/
  opened : Option (List Key × Key) := none

namespace Draft

/-- Take in one statement; nothing when it defines something a second time. -/
def add (d : Draft) : Statement → Option Draft
  | .assign path key value span =>
    let assign (es : Entries) := es.assign key (.value value span) path
    match d.opened with
    | none => (assign d.root).map fun root => { d with root := root }
    | some (above, table) =>
      (d.root.within (Entries.extend assign table span) above).map fun root =>
        { d with root := root }
  | .header path key span =>
    (d.root.within (Entries.openTable key span) path).map fun root => ⟨root, some (path, key)⟩
  | .element path key span =>
    (d.root.within (Entries.openElement key span) path).map fun root => ⟨root, some (path, key)⟩

end Draft

/-- A key of the outermost table with its value. -/
structure Entry where
  /-- The key. -/
  key : Key
  /-- The value. -/
  value : Value
  /-- Where the value stands; a table without a header stands where its key does. -/
  span : Span
  deriving DecidableEq, Repr

/-- The entry for an item of the outermost table. -/
def Entry.ofItem (key : Key) : Item → Entry
  | .value v span => ⟨key, v, span⟩
  | .table _ span _ => ⟨key, .map, span.getD key.span⟩
  | .tables span _ => ⟨key, .sequence, span⟩

/-- The document behind a byte order mark, if it has one. -/
def skipMark : List Char → List Char
  | '\ufeff' :: rest => rest
  | cs => cs

/-- The entries of a document in order, or nothing when it is malformed. -/
def document (cs : List Char) : Option (List Entry) := do
  let all ← statements (skipMark cs)
  let draft ← all.foldlM Draft.add {}
  return draft.root.map fun (key, item) => .ofItem key item

end TapeProbe.Toml
