import TapeProbe.Binary64
import TapeProbe.Text.Quoted
import TapeProbe.Toml.Document

/-!
# Configuration

A configuration has a tape size to ask for and a log filter. It is read from a document whose
entries may give either of them, each at most once and nothing else. The first entry that does not
fit is reported, with the place where it stands.
-/

namespace TapeProbe

/-- What a run is configured with. -/
structure Config where
  /-- The number of bytes to ask for. -/
  requestedSize : UInt64 := 30000
  /-- Which log records are shown. -/
  logFilter : String := "warn"
  deriving DecidableEq, Repr

namespace Config

/-- The configuration with another size to ask for. -/
def withRequestedSize (c : Config) (size : UInt64) : Config := { c with requestedSize := size }

/-- A setting of the configuration. -/
inductive Field where
  /-- The size to ask for. -/
  | requestedSize
  /-- The log filter. -/
  | logFilter
  deriving DecidableEq, Repr

/-- The setting with a name. -/
def Field.ofName? (name : String) : Option Field :=
  if name = "requested_size" then some .requestedSize
  else if name = "log_filter" then some .logFilter
  else none

/-- What a setting takes. -/
def Field.expected : Field → String
  | .requestedSize => "u64"
  | .logFilter => "a string"

/-- Why an entry does not fit. -/
inductive Reason where
  /-- There is no such setting. -/
  | unknownField (name : String)
  /-- The value is of another kind than the setting takes. -/
  | wrongType (field : Field) (found : Toml.Value)
  /-- A size cannot be negative. -/
  | negativeSize (size : Int)
  deriving DecidableEq, Repr

/-- A value that was found where another kind was expected. -/
def describeValue : Toml.Value → String
  | .string s => "string " ++ Text.quoted s
  | .integer i => "integer `" ++ Numeral.signed i ++ "`"
  | .float x => "floating point `" ++ x.text ++ "`"
  | .boolean b => "boolean `" ++ (if b then "true" else "false") ++ "`"
  | .sequence => "sequence"
  | .map => "map"

/-- The reason in words. -/
def Reason.message : Reason → String
  | .unknownField name =>
    "unknown field `" ++ name ++ "`, expected `requested_size` or `log_filter`"
  | .wrongType field found =>
    "invalid type: " ++ describeValue found ++ ", expected " ++ field.expected
  | .negativeSize size =>
    "invalid value: integer `" ++ Numeral.signed size ++ "`, expected u64"

/-- An entry that does not fit, and which stretch of the document to blame. -/
structure Rejection where
  /-- Why. -/
  reason : Reason
  /-- The key of an unknown setting, the value of a known one. -/
  span : Toml.Span
  deriving DecidableEq, Repr

/-- Take one entry into the configuration. -/
def set (c : Config) (e : Toml.Entry) : Except Rejection Config :=
  match Field.ofName? e.key.name with
  | none => .error ⟨.unknownField e.key.name, e.key.span⟩
  | some .requestedSize =>
    match e.value with
    | .integer i =>
      if i < 0 then .error ⟨.negativeSize i, e.span⟩
      else .ok { c with requestedSize := UInt64.ofNat i.toNat }
    | v => .error ⟨.wrongType .requestedSize v, e.span⟩
  | some .logFilter =>
    match e.value with
    | .string s => .ok { c with logFilter := s }
    | v => .error ⟨.wrongType .logFilter v, e.span⟩

/-- Take in the entries in order, up to the first that does not fit. -/
def setAll (c : Config) : List Toml.Entry → Except Rejection Config
  | [] => .ok c
  | e :: es =>
    match c.set e with
    | .ok c => setAll c es
    | .error r => .error r

/-- Why a document gives no configuration. -/
inductive Error where
  /-- It is not a document at all. -/
  | malformed
  /-- An entry of it does not fit. -/
  | rejected (document : List Char) (rejection : Rejection)
  deriving DecidableEq, Repr

/-- The configuration that a document gives; settings it does not name keep their defaults. -/
def ofDocument (cs : List Char) : Except Error Config :=
  match Toml.document cs with
  | none => .error .malformed
  | some entries =>
    match setAll {} entries with
    | .ok c => .ok c
    | .error r => .error (.rejected cs r)

/-- The configuration that a text gives. -/
def ofText (text : String) : Except Error Config := ofDocument text.toList

/-- The error in words. Of a malformed document only the opening words are given: the place, the
excerpt and the cause that would follow are left out. -/
def Error.message : Error → String
  | .malformed => "TOML parse error\n"
  | .rejected document r => r.span.complaint document r.reason.message

end Config

end TapeProbe
