import TapeProbe.Event
import TapeProbe.Pointer

/-!
# Reports

Three lines about a run: where the tape lies, where the returned pointer points, and how far that is
from the base, or that it is not on the tape.

A report goes to a writer. It may keep only so many bytes in all, take only so many in one call, fail
its first calls with an interruption, and fail to flush. Writing a text means calling the writer
until it has taken the whole text; an interruption is simply tried again.

All that is ever written is ASCII, so a character is a byte.
-/

namespace TapeProbe

/-! ### Writers -/

/-- Where reports go. -/
structure Writer where
  /-- How many bytes are kept in all. -/
  limit : Option Nat := none
  /-- What a write beyond the limit fails with; without it the writer takes nothing more. -/
  limitError : Option IoError := none
  /-- How many bytes are taken in one call. -/
  chunk : Option Nat := none
  /-- How many more calls are interrupted. -/
  interrupts : Nat := 0
  /-- What flushing fails with. -/
  flushError : Option IoError := none
  /-- What has been kept. -/
  kept : List Char := []
  deriving DecidableEq, Repr

namespace Writer

/-- Has the writer reached its limit? -/
def isFull (w : Writer) : Bool :=
  match w.limit with
  | some limit => limit ≤ w.kept.length
  | none => false

/-- How many of `n` bytes one call takes. -/
def takes (w : Writer) (n : Nat) : Nat :=
  let n := match w.chunk with
    | some chunk => min n chunk
    | none => n
  match w.limit with
  | some limit => min n (limit - w.kept.length)
  | none => n

/-- The writer after a call that took these bytes. -/
def keep (w : Writer) (cs : List Char) : Writer := { w with kept := w.kept ++ cs }

/-- What became of a text or a report. -/
structure Written where
  /-- The writer afterwards. -/
  writer : Writer
  /-- Why not everything was written. -/
  error : Option IoError
  /-- What happened. -/
  events : List Event

/-- Write a whole text. The first call that fails, or takes nothing, ends it. A full writer whose
error is itself an interruption would be called without end; here its first call is the last. -/
def writeAll (w : Writer) (cs : List Char) : Written :=
  if cs.isEmpty then ⟨w, none, []⟩
  else if 0 < w.interrupts then writeAll { w with interrupts := w.interrupts - 1 } cs
  else if w.isFull then ⟨w, some (w.limitError.getD .wholeBuffer), [.writeFailed]⟩
  else
    let n := w.takes cs.length
    if n = 0 then ⟨w, some .wholeBuffer, []⟩ else writeAll (w.keep (cs.take n)) (cs.drop n)
termination_by w.interrupts + cs.length
decreasing_by
  · simp_wf
    omega
  · simp_wf
    have : cs ≠ [] := by simpa using ‹¬cs.isEmpty = true›
    have := List.length_pos_iff.2 this
    simp only [keep]
    omega

/-- Write texts one after another, up to the first that fails. -/
def writeEach (w : Writer) : List (List Char) → Written
  | [] => ⟨w, none, []⟩
  | cs :: more =>
    let first := w.writeAll cs
    match first.error with
    | some _ => first
    | none =>
      let rest := first.writer.writeEach more
      { rest with events := first.events ++ rest.events }

/-- Flush. -/
def flush (w : Writer) : Written := ⟨w, w.flushError, [.flush w.kept.length]⟩

/-- What has been kept, as text. -/
def output (w : Writer) : String := String.ofList w.kept

end Writer

/-! ### Reports -/

/-- What is reported. -/
structure Report where
  /-- The address of the tape. -/
  base : UInt64
  /-- The returned pointer. -/
  pointer : UInt64
  /-- Whether it is on the tape. -/
  verdict : Verdict
  deriving DecidableEq, Repr

namespace Report

/-- An address in a report. -/
def address (a : UInt64) : List Char := '0' :: 'x' :: Nat.toDigits 16 a.toNat

/-- The line about the verdict. -/
def verdictLine : Verdict → List Char
  | .inBounds offset => " | data pointer offset = ".toList ++ address offset ++ ['\n']
  | .outOfBounds => " | Brainfuck code has errors! Data pointer went out of bounds!\n".toList

/-- The lines of the report. -/
def lines (r : Report) : List (List Char) :=
  [" |        memory base  = ".toList ++ address r.base ++ ['\n'],
    " |        data pointer = ".toList ++ address r.pointer ++ ['\n'],
    verdictLine r.verdict]

/-- The whole text of the report. -/
def text (r : Report) : List Char := r.lines.flatten

/-- Write the report and flush; after a failed write nothing more is written or flushed. -/
def send (r : Report) (w : Writer) : Writer.Written :=
  let written := w.writeEach r.lines
  match written.error with
  | some _ => written
  | none =>
    let flushed := written.writer.flush
    { flushed with events := written.events ++ flushed.events }

end Report

end TapeProbe
