import TapeProbe.Failure
import TapeProbe.Stage

/-!
# Log messages

Everything the program may say in its log. What is said fixes how grave it is and which part of the
program says it. A verbosity says how much of the log is wanted.
-/

namespace TapeProbe.Log

/-! ### Levels -/

/-- How grave a record is. -/
inductive Level where
  | error
  | warn
  | info
  | debug
  | trace
  deriving DecidableEq, Repr

/-- How much of the log is wanted: nothing, or everything down to a level. -/
inductive Verbosity where
  | off
  | error
  | warn
  | info
  | debug
  | trace
  deriving DecidableEq, Repr

/-- Position of a level, the gravest first. -/
def Level.rank : Level → Nat
  | .error => 1
  | .warn => 2
  | .info => 3
  | .debug => 4
  | .trace => 5

/-- Position of a verbosity, the quietest first. -/
def Verbosity.rank : Verbosity → Nat
  | .off => 0
  | .error => 1
  | .warn => 2
  | .info => 3
  | .debug => 4
  | .trace => 5

/-- Are records of the level wanted? -/
def Verbosity.admits (v : Verbosity) (l : Level) : Bool := l.rank ≤ v.rank

/-- The more verbose of two. -/
def Verbosity.max (v w : Verbosity) : Verbosity := if v.rank ≤ w.rank then w else v

/-- The name of a level. -/
def Level.name : Level → String
  | .error => "ERROR"
  | .warn => "WARN"
  | .info => "INFO"
  | .debug => "DEBUG"
  | .trace => "TRACE"

/-- The name of a verbosity. -/
def Verbosity.name : Verbosity → String
  | .off => "OFF"
  | .error => "ERROR"
  | .warn => "WARN"
  | .info => "INFO"
  | .debug => "DEBUG"
  | .trace => "TRACE"

/-- The verbosity with a name in lower case. -/
def Verbosity.ofName? (name : String) : Option Verbosity :=
  match name with
  | "off" => some .off
  | "error" => some .error
  | "warn" => some .warn
  | "info" => some .info
  | "debug" => some .debug
  | "trace" => some .trace
  | _ => none

/-! ### Messages -/

/-- A part of the program that writes to the log. -/
inductive Component where
  | tape
  | entry
  | harness
  | trap
  | command
  deriving DecidableEq, Repr

/-- The name under which a part writes to the log. -/
def Component.target : Component → String
  | .tape => "tape_harness::tape"
  | .entry => "tape_harness::entry"
  | .harness => "tape_harness::harness"
  | .trap => "tape_harness::trap"
  | .command => "tape_harness"

/-- What is said. -/
inductive Message where
  /-- A tape is there. -/
  | provisioned (base size requested : UInt64)
  /-- There is no memory for a tape. -/
  | refused (size : UInt64)
  /-- The entry point is about to be called. -/
  | invoking (base : UInt64)
  /-- The entry point has returned. -/
  | returned (pointer : UInt64)
  /-- The run has come from one stage to the next. -/
  | advanced (before after : Stage)
  /-- The returned pointer is not on the tape. -/
  | leftTape (pointer base stop : UInt64)
  /-- The report could not be written. -/
  | outputFailed (error : IoError)
  /-- A debugger is asked for. -/
  | attention
  /-- The program ends with a failure. -/
  | failed (failure : Failure)
  deriving DecidableEq, Repr

namespace Message

/-- How grave it is. -/
def level : Message → Level
  | .provisioned .. | .invoking _ | .returned _ | .advanced .. => .debug
  | .attention => .info
  | .leftTape .. => .warn
  | .refused _ | .outputFailed _ | .failed _ => .error

/-- Who says it. -/
def component : Message → Component
  | .provisioned .. | .refused _ => .tape
  | .invoking _ | .returned _ => .entry
  | .advanced .. | .leftTape .. | .outputFailed _ => .harness
  | .attention => .trap
  | .failed _ => .command

/-- The name under which it is said. -/
def target (m : Message) : String := m.component.target

/-- The words. -/
def text : Message → String
  | .provisioned base size requested =>
    "provisioned tape base=" ++ Numeral.markedHex base.toNat ++ " size="
      ++ Numeral.markedHex size.toNat ++ " (requested " ++ Numeral.markedHex requested.toNat ++ ")"
  | .refused size => "allocator refused a tape of " ++ Numeral.decimal size.toNat ++ " bytes"
  | .invoking base => "invoking entry point with base=" ++ Numeral.markedHex base.toNat
  | .returned pointer => "entry point returned " ++ Numeral.markedHex pointer.toNat
  | .advanced before after => "harness stage " ++ before.name ++ " -> " ++ after.name
  | .leftTape pointer base stop =>
    "data pointer " ++ Numeral.markedHex pointer.toNat ++ " left tape ["
      ++ Numeral.markedHex base.toNat ++ ", " ++ Numeral.markedHex stop.toNat ++ "]"
  | .outputFailed error => "report output failed: " ++ error.text
  | .attention => "requesting debugger attention"
  | .failed failure => failure.message

end Message

/-- Decides which messages are recorded. -/
abbrev Sink := Message → Bool

/-- Records what is grave enough. -/
def Verbosity.sink (v : Verbosity) : Sink := fun m => v.admits m.level

end TapeProbe.Log
