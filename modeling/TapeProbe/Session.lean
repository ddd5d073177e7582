import TapeProbe.Run

/-!
# Sessions

A session works with several tapes, known by name, and with runs, all sharing one writer and one
trap. Each step gives an answer and the events that belong to it; at the end the tapes that are
still there are given back in the order of their names.
-/

namespace TapeProbe

/-- The tapes of a session, in the order of their names. -/
abbrev Tapes := List (String × Tape)

namespace Tapes

/-- The tape with a name. -/
def tape? (ts : Tapes) (name : String) : Option Tape :=
  (List.find? (fun e => e.1 == name) ts).map Prod.snd

/-- Put a tape under a name, instead of the one that is there. -/
def put (name : String) (t : Tape) : Tapes → Tapes
  | [] => [(name, t)]
  | e :: ts =>
    if name < e.1 then (name, t) :: e :: ts
    else if e.1 = name then (name, t) :: ts
    else e :: put name t ts

/-- Take the tape with a name out. -/
def remove (ts : Tapes) (name : String) : Tapes := ts.filter fun e => e.1 != name

/-- What happens when all tapes are given back. -/
def release (ts : Tapes) : List Event := ts.map fun e => .release e.2.size

end Tapes

/-- A session between two steps. -/
structure Session where
  /-- The tapes that are there. -/
  tapes : Tapes := []
  /-- Writer and trap. -/
  bench : Bench := {}
  /-- Which messages are recorded. -/
  verbosity : Log.Verbosity := .off
  /-- The last pointer that an entry point returned. -/
  pointer : UInt64 := 0

namespace Session

/-- A step of a session. -/
inductive Op where
  /-- Make a tape. -/
  | provision (name : String) (requested : UInt64) (allocator : Allocator)
  /-- Call an entry point with a tape. -/
  | invoke (name : String) (program : Program)
  /-- Check a pointer, or else the last one, against a tape. -/
  | validate (name : String) (pointer : Option UInt64)
  /-- Report where the last pointer is on a tape. -/
  | report (name : String)
  /-- Look at cells of a tape. -/
  | read (name : String) (start count : UInt64)
  /-- Ask where a tape lies. -/
  | geometry (name : String)
  /-- Give a tape back. -/
  | drop (name : String)
  /-- Request attention. -/
  | trap
  /-- Do a job. -/
  | run (job : Job)
  /-- Record more or fewer messages from now on. -/
  | setVerbosity (verbosity : Log.Verbosity)

/-- The answer to a step. -/
inductive Answer where
  /-- There is no tape with that name. -/
  | noTape
  /-- There is a tape with that name already. -/
  | tapeExists
  /-- The tape is there. -/
  | provisioned (base size : UInt64)
  /-- It failed. -/
  | failed (failure : Failure)
  /-- The entry point returned. -/
  | returned (pointer : UInt64)
  /-- The entry point broke off. -/
  | panicked (text : String)
  /-- The result of a check. -/
  | verdict (verdict : Verdict)
  /-- The cells, and how many of the whole tape are not zero. -/
  | cells (values : List UInt8) (nonzero : Nat)
  /-- Where the tape lies. -/
  | geometry (base size : UInt64)
  /-- Was there such a tape? -/
  | dropped (existed : Bool)
  /-- How often attention was requested. -/
  | trapped (hits : Nat)
  /-- How the job ended, and how often attention was requested. -/
  | ran (outcome : Outcome) (hits : Nat)
  /-- It is done. -/
  | done
  deriving DecidableEq, Repr

/-- A step that is done. -/
structure Stepped where
  /-- The session afterwards. -/
  session : Session
  /-- The answer. -/
  answer : Answer
  /-- What happened. -/
  events : List Event := []

/-- Which messages are recorded. -/
def sink (s : Session) : Log.Sink := s.verbosity.sink

/-- Do something with a tape, if there is one with that name. -/
def withTape (s : Session) (name : String) (act : Tape → Stepped) : Stepped :=
  match s.tapes.tape? name with
  | some t => act t
  | none => { session := s, answer := .noTape }

/-- Make a tape under a name that is free. -/
def provision (s : Session) (name : String) (requested : UInt64) (allocator : Allocator) :
    Stepped :=
  match s.tapes.tape? name with
  | some _ => { session := s, answer := .tapeExists }
  | none =>
    match allocator.provision s.sink requested with
    | (.ok t, events) => ⟨{ s with tapes := s.tapes.put name t }, .provisioned t.base t.size, events⟩
    | (.error failure, events) => ⟨s, .failed failure, events⟩

/-- Call an entry point. A call that breaks off leaves the last pointer as it is. -/
def invoke (s : Session) (name : String) (program : Program) (t : Tape) : Stepped :=
  let call := t.invoke s.sink program
  let s := { s with tapes := s.tapes.put name call.tape }
  match call.outcome with
  | .returned pointer => ⟨{ s with pointer := pointer }, .returned pointer, call.events⟩
  | .panicked text => ⟨s, .panicked text, call.events⟩

/-- Report where the last pointer is on a tape. -/
def report (s : Session) (t : Tape) : Stepped :=
  let verdict := Verdict.check t.base t.size s.pointer
  let written := Report.send ⟨t.base, s.pointer, verdict⟩ s.bench.writer
  let s := { s with bench := { s.bench with writer := written.writer } }
  match written.error with
  | some e => ⟨s, .failed (.io e), written.events⟩
  | none => ⟨s, .verdict verdict, written.events⟩

/-- Give a tape back. -/
def drop (s : Session) (name : String) : Stepped :=
  match s.tapes.tape? name with
  | some t => ⟨{ s with tapes := s.tapes.remove name }, .dropped true, [.release t.size]⟩
  | none => { session := s, answer := .dropped false }

/-- Request attention. -/
def trap (s : Session) : Stepped :=
  let (trap, events) := s.bench.trap.request s.sink
  ⟨{ s with bench := { s.bench with trap := trap } }, .trapped trap.hits, events⟩

/-- Do a job. -/
def perform (s : Session) (job : Job) : Stepped :=
  let run := job.perform s.bench s.sink
  ⟨{ s with bench := run.bench }, .ran run.outcome run.bench.trap.hits, run.events⟩

/-- One step. -/
def step (s : Session) : Op → Stepped
  | .provision name requested allocator => s.provision name requested allocator
  | .invoke name program => s.withTape name (s.invoke name program)
  | .validate name pointer => s.withTape name fun t =>
    { session := s, answer := .verdict (Verdict.check t.base t.size (pointer.getD s.pointer)) }
  | .report name => s.withTape name s.report
  | .read name start count => s.withTape name fun t =>
    { session := s, answer := .cells (t.slice start.toNat count.toNat) t.nonzero }
  | .geometry name => s.withTape name fun t =>
    { session := s, answer := .geometry t.base t.size }
  | .drop name => s.drop name
  | .trap => s.trap
  | .run job => s.perform job
  | .setVerbosity verbosity => { session := { s with verbosity := verbosity }, answer := .done }

/-- All steps, each with the session after it. -/
def steps (s : Session) : List Op → List Stepped
  | [] => []
  | op :: ops =>
    let first := s.step op
    first :: first.session.steps ops

/-- The session after all steps. -/
def final (s : Session) (ops : List Op) : Session := ops.foldl (fun s op => (s.step op).session) s

/-- What happens when the session ends. -/
def cleanUp (s : Session) : List Event := s.tapes.release

end Session

end TapeProbe
