import TapeProbe.Event

/-!
# Tapes

A tape is a row of byte cells at an address. It is made by asking an allocator for memory and
setting every cell to zero; it never has fewer than `minSize` cells.
-/

namespace TapeProbe

/-- A row of byte cells at an address. -/
structure Tape where
  /-- The address of the first cell. -/
  base : UInt64
  /-- The cells. -/
  cells : Array UInt8
  /-- No block of memory is larger than half the address space. -/
  size_lt : cells.size < 0x8000000000000000

namespace Tape

/-- The least number of cells. -/
def minSize : UInt64 := 30000

/-- The largest block that an allocator is asked for. -/
def maxBlock : UInt64 := 0x7fffffffffffffff

/-- The number of cells. -/
def size (t : Tape) : UInt64 := UInt64.ofNat t.cells.size

theorem toNat_size (t : Tape) : t.size.toNat = t.cells.size := by
  have := t.size_lt
  simp only [size, UInt64.toNat_ofNat']
  omega

/-- Which cell lies at an address, if one does. -/
def index? (t : Tape) (address : UInt64) : Option Nat :=
  if t.base ≤ address ∧ address - t.base < t.size then some (address - t.base).toNat else none

/-- The tape with another value in a cell. -/
def write (t : Tape) (i : Nat) (v : UInt8) : Tape where
  base := t.base
  cells := t.cells.setIfInBounds i v
  size_lt := by simpa using t.size_lt

/-- The value of a cell. -/
def read (t : Tape) (i : Nat) : UInt8 := t.cells[i]?.getD 0

/-- The number of cells that are not zero. -/
def nonzero (t : Tape) : Nat := t.cells.countP (· != 0)

/-- The cells from `start` on, `count` of them or as many as there are. -/
def slice (t : Tape) (start count : Nat) : List UInt8 := (t.cells.extract start (start + count)).toList

end Tape

/-- Gives out memory at an address, in blocks up to a limit. -/
structure Allocator where
  /-- Where the next block lies. -/
  base : UInt64 := 0x200000000
  /-- The size of the largest block. -/
  limit : UInt64 := 1048576
  /-- What the memory holds, by its distance from the base. -/
  content : Nat → UInt8 := fun _ => 0xaa

/-- The number of cells of a tape when `requested` are asked for. -/
def Tape.effectiveSize (requested : UInt64) : UInt64 := max requested Tape.minSize

namespace Allocator

/-- A block with what the memory holds. -/
def block (a : Allocator) (size : UInt64) : Array UInt8 :=
  Array.ofFn fun i : Fin size.toNat => a.content i

/-- Every cell set to zero. -/
def cleared (cells : Array UInt8) : Array UInt8 := cells.map fun _ => 0

/-- The tape made of a block. -/
def tape (a : Allocator) (size : UInt64) (h : size ≤ Tape.maxBlock) : Tape where
  base := a.base
  cells := cleared (a.block size)
  size_lt := by
    have : size.toNat ≤ 0x7fffffffffffffff := UInt64.le_iff_toNat_le.1 h
    simp only [cleared, block, Array.size_map, Array.size_ofFn]
    omega

/-- Make a tape. A request beyond the largest possible block does not reach the allocator. -/
def provision (a : Allocator) (sink : Log.Sink) (requested : UInt64) :
    Except Failure Tape × List Event :=
  let size := Tape.effectiveSize requested
  if h : size ≤ Tape.maxBlock then
    if size ≤ a.limit then
      (.ok (a.tape size h), .alloc size :: sink.emit (.provisioned a.base size requested))
    else (.error (.resourceExhaustion size), .refuse size :: sink.emit (.refused size))
  else (.error (.resourceExhaustion size), sink.emit (.refused size))

end Allocator

end TapeProbe
