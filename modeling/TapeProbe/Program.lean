import TapeProbe.Tape

/-!
# Entry programs

What an entry point does with its tape: steps of a cursor that starts at the base of the tape. The
cursor may leave the tape; cells are touched only while it is on it. Where the cursor stands at the
end is the pointer that the entry point returns.
-/

namespace TapeProbe

/-- A step of an entry point. -/
inductive Step where
  /-- Move the cursor, around the end of the address space if need be. -/
  | move (amount : Int)
  /-- Put the cursor at an address. -/
  | abs (address : UInt64)
  /-- Store a value in the cell. -/
  | set (value : UInt8)
  /-- Add to the cell. -/
  | add (value : UInt8)
  /-- Look at the cell. -/
  | get
  /-- Count the cells of the tape that are not zero. -/
  | zeros
  /-- Break off. -/
  | panic (text : String)
  deriving DecidableEq, Repr

/-- What an entry point does. -/
abbrev Program := List Step

/-- How a call ends. -/
inductive CallEnd where
  /-- It returns a pointer. -/
  | returned (pointer : UInt64)
  /-- It breaks off. -/
  | panicked (text : String)
  deriving DecidableEq, Repr

/-- A call that has ended. -/
structure Call where
  /-- The tape as the call leaves it. -/
  tape : Tape
  /-- How the call ended. -/
  outcome : CallEnd
  /-- What happened. -/
  events : List Event

/-- Happened before. -/
def Call.after (events : List Event) (c : Call) : Call := { c with events := events ++ c.events }

namespace Tape

/-- Touch the cell under the cursor: `change` gives its new value and what happens. Outside the tape
the access is skipped. -/
def access (t : Tape) (cursor : UInt64) (what : Access) (change : UInt8 → UInt8 × List Event) :
    Tape × List Event :=
  match t.index? cursor with
  | some i =>
    let (v, events) := change (t.read i)
    (t.write i v, events)
  | none => (t, [.skip what])

end Tape

/-- Run a program with the cursor at an address. -/
def Program.exec : Program → Tape → UInt64 → Call
  | [], t, cursor => ⟨t, .returned cursor, []⟩
  | .move n :: p, t, cursor => exec p t (cursor + UInt64.ofInt n)
  | .abs a :: p, t, _ => exec p t a
  | .set v :: p, t, cursor =>
    let (t, events) := t.access cursor .set fun _ => (v, [])
    (exec p t cursor).after events
  | .add v :: p, t, cursor =>
    let (t, events) := t.access cursor .add fun old => (old + v, [])
    (exec p t cursor).after events
  | .get :: p, t, cursor =>
    let (t, events) := t.access cursor .get fun old => (old, [.cell old])
    (exec p t cursor).after events
  | .zeros :: p, t, cursor => (exec p t cursor).after [.nonzero t.nonzero]
  | .panic text :: _, t, _ => ⟨t, .panicked text, []⟩

/-- Call an entry point with a tape. -/
def Tape.invoke (t : Tape) (sink : Log.Sink) (p : Program) : Call :=
  let call := (p.exec t t.base).after (sink.emit (.invoking t.base) ++ [.call t.base])
  match call.outcome with
  | .returned pointer => { call with events := call.events ++ sink.emit (.returned pointer) }
  | .panicked _ => call

end TapeProbe
