import TapeProbe.Binary64
import TapeProbe.Toml.Reader

/-!
# Values and tables

What a document says: keys with values, gathered into tables. A configuration is flat, so of an
array or an inline table only that it is one is kept. Tables are kept in full, because the rules
that forbid to define a thing twice speak about them.
-/

namespace TapeProbe.Toml

/-- A value of a document. -/
inductive Value where
  /-- A string. -/
  | string (s : String)
  /-- An integer of 64 bits with sign. -/
  | integer (i : Int)
  /-- A floating-point number. -/
  | float (x : Binary64)
  /-- A truth value. -/
  | boolean (b : Bool)
  /-- An array, or an array of tables. -/
  | sequence
  /-- A table of any kind, or a date or time, which reads as a table with one hidden field. -/
  | map
  deriving DecidableEq, Repr

/-- A part of a key, and where it stands. -/
structure Key where
  /-- The name, without quotes and escapes. -/
  name : String
  /-- The key as written. -/
  span : Span
  deriving DecidableEq, Repr

/-- How a table came to be. -/
inductive Origin where
  /-- By a header of its own. -/
  | header
  /-- As a parent in the header of another table. -/
  | parent
  /-- By a dotted key. -/
  | dotted
  deriving DecidableEq, Repr

/-- What stands under a key of a table. -/
inductive Item where
  /-- A value. -/
  | value (v : Value) (span : Span)
  /-- A table with its entries; the ones without a header have no place of their own. -/
  | table (origin : Origin) (span : Option Span) (entries : List (Key × Item))
  /-- An array of tables, with the entries of its last table, the only one still open. -/
  | tables (span : Span) (entries : List (Key × Item))

/-- The entries of a table, in the order in which their keys came. -/
abbrev Entries := List (Key × Item)

namespace Entries

/-- What stands under a name. -/
def item? (es : Entries) (name : String) : Option Item :=
  (List.find? (fun e => e.1.name == name) es).map Prod.snd

/-- Put another item under a name that is there; the key stays. -/
def put (es : Entries) (name : String) (item : Item) : Entries :=
  es.map fun e => if e.1.name == name then (e.1, item) else e

/-- Take a name out. -/
def remove (es : Entries) (name : String) : Entries := es.filter fun e => e.1.name != name

/-- Add a key at the end. -/
def push (es : Entries) (key : Key) (item : Item) : Entries := es ++ [(key, item)]

/-! ### Defining things once -/

/-- Put a value under a dotted key: through the tables `path` to `key`. Dotted keys make tables and
add to tables that dotted keys made. They do not reach into a table with a header, nor end in one
that is known only as a parent or as part of an array. -/
def assign (key : Key) (item : Item) : List Key → Entries → Option Entries
  | [], es => if (es.item? key.name).isSome then none else some (es.push key item)
  | k :: path, es =>
    match es.item? k.name with
    | none => (assign key item path []).map fun inner => es.push k (.table .dotted none inner)
    | some (.value ..) => none
    | some (.tables span inner) =>
      if path.isEmpty then none
      else (assign key item path inner).map fun inner => es.put k.name (.tables span inner)
    | some (.table origin span inner) =>
      if origin = .header ∨ (path.isEmpty ∧ origin ≠ .dotted) then none
      else
        (assign key item path inner).map fun inner => es.put k.name (.table origin span inner)

/-- Change the entries of the table that a header names, making the parents that are missing.
An array of tables stands for its last table. -/
def within (change : Entries → Option Entries) : List Key → Entries → Option Entries
  | [], es => change es
  | k :: path, es =>
    match es.item? k.name with
    | none => (within change path []).map fun inner => es.push k (.table .parent none inner)
    | some (.value ..) => none
    | some (.tables span inner) =>
      (within change path inner).map fun inner => es.put k.name (.tables span inner)
    | some (.table origin span inner) =>
      (within change path inner).map fun inner => es.put k.name (.table origin span inner)

/-- Open the table `key` by its header. A table that was only a parent so far moves to the end, as
the header is its definition. -/
def openTable (key : Key) (span : Span) (es : Entries) : Option Entries :=
  match es.item? key.name with
  | none => some (es.push key (.table .header (some span) []))
  | some (.table .parent _ inner) =>
    some ((es.remove key.name).push key (.table .header (some span) inner))
  | some _ => none

/-- Open another table of the array `key` by its header. -/
def openElement (key : Key) (span : Span) (es : Entries) : Option Entries :=
  match es.item? key.name with
  | none => some (es.push key (.tables span []))
  | some (.tables first _) => some (es.put key.name (.tables (first.through span) []))
  | some _ => none

/-- Change the entries of the open table `key`, which reaches as far as `span` now. -/
def extend (change : Entries → Option Entries) (key : Key) (span : Span) (es : Entries) :
    Option Entries :=
  match es.item? key.name with
  | some (.table origin own inner) =>
    (change inner).map fun inner =>
      es.put key.name (.table origin (own.map (·.through span)) inner)
  | some (.tables own inner) =>
    (change inner).map fun inner => es.put key.name (.tables (own.through span) inner)
  | _ => none

end Entries

end TapeProbe.Toml
