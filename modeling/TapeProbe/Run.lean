import TapeProbe.Program
import TapeProbe.Report

/-!
# Runs

One run of an entry point: make a tape, call the entry point with it, check the pointer it returns,
report, request attention, and give the tape back. A failed report does not cut the run short; a
refused tape does, before anything else has happened, and so does an entry point that breaks off,
whose tape is still given back.

A run is told in phases, each with the writer, the trap and the tape that are there in it
(`Bench.course`); what the run comes to is read off them (`Course.run`).

A trap is what attention is requested from. Every trap counts its requests; the breakpoint also says
in the log that it stops for a debugger.
-/

namespace TapeProbe

/-! ### Traps -/

/-- A kind of trap. -/
inductive TrapKind where
  /-- Only counts. -/
  | counting
  /-- Stops for a debugger. -/
  | breakpoint
  deriving DecidableEq, Repr

/-- A trap with the number of requests so far. -/
structure Trap where
  /-- Its kind. -/
  kind : TrapKind := .counting
  /-- Requests so far. -/
  hits : Nat := 0
  deriving DecidableEq, Repr

/-- Request attention. -/
def Trap.request (t : Trap) (sink : Log.Sink) : Trap × List Event :=
  let said := match t.kind with
    | .counting => []
    | .breakpoint => sink.emit .attention
  ({ t with hits := t.hits + 1 }, .trap :: said)

/-! ### What a run comes to -/

/-- What runs share: the writer for their reports and the trap. -/
structure Bench where
  /-- Where reports go. -/
  writer : Writer := {}
  /-- The trap. -/
  trap : Trap := {}
  deriving DecidableEq, Repr

/-- The result of a run. -/
structure RunReport where
  /-- The address of the tape. -/
  base : UInt64
  /-- The size of the tape. -/
  tapeSize : UInt64
  /-- The pointer that the entry point returned. -/
  dataPointer : UInt64
  /-- Whether it is on the tape. -/
  verdict : Verdict
  /-- The stages the run has passed, in order. -/
  stages : List Stage
  deriving DecidableEq, Repr

/-- How a run ends. -/
inductive Outcome where
  /-- With a result. -/
  | finished (report : RunReport)
  /-- With a failure. -/
  | failed (failure : Failure)
  /-- The entry point broke off. -/
  | panicked (text : String)
  deriving DecidableEq, Repr

/-- A run that has ended. -/
structure Run where
  /-- How it ended. -/
  outcome : Outcome
  /-- Writer and trap afterwards. -/
  bench : Bench
  /-- What happened. -/
  events : List Event

/-! ### Phases -/

/-- A stretch of a run in which writer, trap and tape stay as they are. -/
structure Phase where
  /-- What happens in it. -/
  events : List Event
  /-- Writer and trap from its first event on. -/
  bench : Bench
  /-- The size of the tape, as long as the run has one. -/
  held : Option UInt64

/-- A run as it goes, phase by phase. -/
structure Course where
  /-- How it ends. -/
  outcome : Outcome
  /-- The phases before the last one. -/
  passed : List Phase
  /-- The last phase. -/
  last : Phase

namespace Course

/-- All phases of the run. -/
def phases (c : Course) : List Phase := c.passed ++ [c.last]

/-- The course with a phase before it. -/
def after (c : Course) (first : Phase) : Course := { c with passed := first :: c.passed }

/-- What a run comes to. -/
def run (c : Course) : Run := ⟨c.outcome, c.last.bench, c.phases.flatMap Phase.events⟩

end Course

/-! ### Runs -/

/-- The stages a run has passed so far, in order. -/
structure Walk where
  /-- The stages before the present one. -/
  passed : List Stage := []
  /-- The present stage. -/
  stage : Stage := .start
  deriving DecidableEq, Repr

/-- Go on to the next stage. -/
def Walk.advance (w : Walk) (sink : Log.Sink) (next : Stage) : Walk × List Event :=
  (⟨w.passed ++ [w.stage], next⟩, sink.emit (.advanced w.stage next))

/-- All stages of the walk. -/
def Walk.stages (w : Walk) : List Stage := w.passed ++ [w.stage]

/-- Say that a pointer is not on its tape, if it is not. -/
def Verdict.warning (v : Verdict) (sink : Log.Sink) (t : Tape) (pointer : UInt64) : List Event :=
  match v with
  | .inBounds _ => []
  | .outOfBounds => sink.emit (.leftTape pointer t.base (t.base + t.size))

/-- Say that a report could not be written, if it could not. -/
def Writer.Written.complaint (written : Writer.Written) (sink : Log.Sink) : List Event :=
  match written.error with
  | some e => sink.emit (.outputFailed e)
  | none => []

namespace Bench

/-- The part of a run that follows the return of the entry point. -/
def conclude (b : Bench) (sink : Log.Sink) (walk : Walk) (tape : Tape) (pointer : UInt64) :
    Course :=
  let (walk, invoked) := walk.advance sink .invoked
  let verdict := Verdict.check tape.base tape.size pointer
  let warning := verdict.warning sink tape pointer
  let (walk, validated) := walk.advance sink .validated
  let written := Report.send ⟨tape.base, pointer, verdict⟩ b.writer
  let complaint := written.complaint sink
  let (walk, reported) := walk.advance sink .reported
  let (trap, requested) := b.trap.request sink
  let (walk, trapped) := walk.advance sink .trapped
  let (walk, released) := walk.advance sink .released
  let (walk, ended) := walk.advance sink .finished
  { outcome := match written.error with
      | some e => .failed (.io e)
      | none => .finished ⟨tape.base, tape.size, pointer, verdict, walk.stages⟩
    passed := [
      ⟨invoked ++ warning ++ validated, b, some tape.size⟩,
      ⟨written.events ++ complaint ++ reported, ⟨written.writer, b.trap⟩, some tape.size⟩,
      ⟨requested ++ trapped, ⟨written.writer, trap⟩, some tape.size⟩]
    last := ⟨[.release tape.size] ++ released ++ ended, ⟨written.writer, trap⟩, none⟩ }

/-- What a run does once its tape is there. -/
def courseOn (b : Bench) (sink : Log.Sink) (tape : Tape) (program : Program) : Course :=
  let (walk, provisioned) := ({} : Walk).advance sink .provisioned
  let call := tape.invoke sink program
  let rest : Course := match call.outcome with
    | .panicked text => ⟨.panicked text, [], ⟨[.release call.tape.size], b, none⟩⟩
    | .returned pointer => b.conclude sink walk call.tape pointer
  rest.after ⟨provisioned ++ call.events, b, some tape.size⟩

/-- The course of a run: without a tape it is over. -/
def course (b : Bench) (sink : Log.Sink) (config : Config) (allocator : Allocator)
    (program : Program) : Course :=
  match allocator.provision sink config.requestedSize with
  | (.error failure, events) => ⟨.failed failure, [], ⟨events, b, none⟩⟩
  | (.ok tape, events) => (b.courseOn sink tape program).after ⟨events, b, some tape.size⟩

/-- Run an entry point. -/
def run (b : Bench) (sink : Log.Sink) (config : Config) (allocator : Allocator)
    (program : Program) : Run :=
  (b.course sink config allocator program).run

end Bench

/-- A run that is asked for, with its configuration still to be read. -/
structure Job where
  /-- The document of the configuration; without one all settings have their defaults. -/
  document : Option String := none
  /-- The size to ask for, instead of the configured one. -/
  requested : Option UInt64 := none
  /-- Where the tape comes from. -/
  allocator : Allocator := {}
  /-- The entry point. -/
  program : Program := []

namespace Job

/-- The configuration of the job. -/
def config (j : Job) : Except Config.Error Config :=
  let c := match j.document with
    | some text => Config.ofText text
    | none => .ok {}
  match j.requested with
  | some size => c.map (·.withRequestedSize size)
  | none => c

/-- Do the job; without a configuration nothing happens. -/
def perform (j : Job) (b : Bench) (sink : Log.Sink) : Run :=
  match j.config with
  | .ok c => b.run sink c j.allocator j.program
  | .error e => ⟨.failed (.config e), b, []⟩

end Job

end TapeProbe
