import TapeProbe.Log.Message

/-!
# Events

What can be seen of the program from outside, in the order in which it happens.
-/

namespace TapeProbe

/-- An access to the cell under the cursor. -/
inductive Access where
  | set
  | add
  | get
  deriving DecidableEq, Repr

/-- The name of an access. -/
def Access.name : Access → String
  | .set => "set"
  | .add => "add"
  | .get => "get"

/-- Something that happens. -/
inductive Event where
  /-- Memory for a tape was given out. -/
  | alloc (size : UInt64)
  /-- Memory for a tape was refused. -/
  | refuse (size : UInt64)
  /-- The memory of a tape was given back. -/
  | release (size : UInt64)
  /-- The entry point was called with this base. -/
  | call (base : UInt64)
  /-- The entry point counted the cells that are not zero. -/
  | nonzero (count : Nat)
  /-- The entry point looked at a cell. -/
  | cell (value : UInt8)
  /-- The entry point did not touch a cell outside its tape. -/
  | skip (access : Access)
  /-- A writer was asked to write beyond its limit. -/
  | writeFailed
  /-- A writer was asked to flush, having kept that many bytes. -/
  | flush (size : Nat)
  /-- Attention was requested. -/
  | trap
  /-- A message was recorded. -/
  | log (message : Log.Message)
  deriving DecidableEq, Repr

namespace Event

/-- The event in words. -/
def text : Event → String
  | .alloc size => "alloc " ++ Numeral.decimal size.toNat
  | .refuse size => "refuse " ++ Numeral.decimal size.toNat
  | .release size => "release " ++ Numeral.decimal size.toNat
  | .call base => "call " ++ Numeral.markedHex base.toNat
  | .nonzero count => "nonzero " ++ Numeral.decimal count
  | .cell value => "cell " ++ Numeral.decimal value.toNat
  | .skip access => "skip " ++ access.name
  | .writeFailed => "write failed"
  | .flush size => "flush " ++ Numeral.decimal size
  | .trap => "trap"
  | .log m => "log " ++ m.level.name ++ " " ++ m.target ++ ": " ++ m.text

/-- The message that was recorded, if that is what happened. -/
def message? : Event → Option Log.Message
  | .log m => some m
  | _ => none

end Event

namespace Log

/-- Say something: it is recorded if it is wanted. -/
def Sink.emit (sink : Sink) (m : Message) : List Event := if sink m then [.log m] else []

end Log

end TapeProbe
