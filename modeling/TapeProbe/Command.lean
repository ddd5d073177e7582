import TapeProbe.Log.Console
import TapeProbe.Run

/-!
# The command

Runs with the log on the console. The log filter of the configuration decides which messages of a run
are shown. The log is set up once: setting it up again only repeats the warnings about the filter.

The program as it is started is one such run, with the default configuration and the breakpoint trap,
and the report on standard output. A fatal failure aborts it, and so does the breakpoint when no
debugger takes it.
-/

namespace TapeProbe

/-! ### Runs with the log shown -/

/-- A run whose log is shown. -/
structure LoggedRun where
  /-- The run. -/
  run : Run
  /-- The filter in force. -/
  filter : Log.Filter
  /-- What is printed on the console. -/
  console : List Char

/-- Do a job with its log shown. The filter may be given instead of the configured one; `again` is
the filter of a second attempt to set up the log. -/
def Job.performLogged (j : Job) (b : Bench) (filter again : Option String) :
    Except Config.Error LoggedRun :=
  match j.config with
  | .error e => .error e
  | .ok c =>
    let inForce := Log.Filter.ofText (filter.getD c.logFilter)
    let repeated := (again.map fun text => (Log.Filter.ofText text).printedWarnings).getD []
    let run := b.run inForce.wants c j.allocator j.program
    .ok ⟨run, inForce, inForce.printedWarnings ++ repeated ++ Log.printed run.events⟩

/-! ### The command -/

/-- How a command ends. -/
inductive Exit where
  /-- By itself. -/
  | code (n : Nat)
  /-- By a signal. -/
  | signal (n : Nat)
  deriving DecidableEq, Repr

namespace Exit

/-- The breakpoint was not taken. -/
def breakpoint : Exit := .signal 5

/-- The command aborted. -/
def abort : Exit := .signal 6

/-- The entry point broke off. A native entry point cannot: it is called as foreign code, which does
not unwind. So this is how a command ends whose entry point is a closure, and no other. -/
def panic : Exit := .code 101

end Exit

/-- What the command finds around it. -/
structure Setting where
  /-- Where the tape comes from. -/
  allocator : Allocator := {}
  /-- The entry point. -/
  program : Program := []
  /-- Does a debugger take breakpoints? -/
  debugger : Bool := false
  /-- Standard output. -/
  output : Writer := {}

/-- What is left of a command. -/
structure Finished where
  /-- How it ended. -/
  exit : Exit
  /-- Standard output. -/
  output : String
  /-- What is printed on the console. -/
  console : List Char
  deriving DecidableEq, Repr

namespace Setting

/-- A standard output without space, where every write fails. -/
def fullDevice : Writer := { limit := some 0, limitError := some (.os 28) }

/-- How the command ends after a run, and what it still says. -/
def ending (sink : Log.Sink) : Outcome → Exit × List Event
  | .finished _ => (.code 0, [])
  | .failed failure =>
    (if failure.isFatal then .abort else .code 0, sink.emit (.failed failure))
  | .panicked _ => (.panic, [])

/-- Execute the command. Without a debugger the first request for attention ends it. -/
def execute (s : Setting) : Finished :=
  let config : Config := {}
  let filter := Log.Filter.ofText config.logFilter
  let bench : Bench := ⟨s.output, ⟨.breakpoint, 0⟩⟩
  let run := bench.run filter.wants config s.allocator s.program
  let output := run.bench.writer.output
  if 0 < run.bench.trap.hits ∧ !s.debugger then
    ⟨.breakpoint, output, Log.printed (run.events.takeWhile (· != .trap))⟩
  else
    let (exit, said) := ending filter.wants run.outcome
    ⟨exit, output, Log.printed (run.events ++ said)⟩

end Setting

end TapeProbe
