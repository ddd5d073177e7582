/-!
# Stages of a run

A run passes through its stages in one fixed order.
-/

namespace TapeProbe

/-- How far a run has come. -/
inductive Stage where
  /-- Nothing has happened. -/
  | start
  /-- There is a tape. -/
  | provisioned
  /-- The entry point has returned. -/
  | invoked
  /-- The returned pointer has been checked. -/
  | validated
  /-- The report has been written, or could not be. -/
  | reported
  /-- Attention has been requested. -/
  | trapped
  /-- The tape is gone. -/
  | released
  /-- The run is over. -/
  | finished
  deriving DecidableEq, Repr

namespace Stage

/-- All stages in order. -/
def all : List Stage :=
  [.start, .provisioned, .invoked, .validated, .reported, .trapped, .released, .finished]

/-- Position of a stage. -/
def rank : Stage → Nat
  | .start => 0
  | .provisioned => 1
  | .invoked => 2
  | .validated => 3
  | .reported => 4
  | .trapped => 5
  | .released => 6
  | .finished => 7

/-- Stages are ordered as a run passes them. -/
def compare (a b : Stage) : Ordering := Ord.compare a.rank b.rank

/-- The later of two stages. -/
def later (a b : Stage) : Stage := if a.rank ≤ b.rank then b else a

/-- The name of a stage. -/
def name : Stage → String
  | .start => "Start"
  | .provisioned => "Provisioned"
  | .invoked => "Invoked"
  | .validated => "Validated"
  | .reported => "Reported"
  | .trapped => "Trapped"
  | .released => "Released"
  | .finished => "End"

/-- The stage with a name. -/
def ofName? (name : String) : Option Stage := all.find? fun s => s.name == name

end Stage

end TapeProbe
