import TapeProbe.Text.Numeral

/-!
# Data pointers

The address an entry point hands back: its printed forms, and whether it lies on a tape.

A number is printed in lower-case hexadecimal, with an optional sign, an optional `0x` mark and
padding to a width. Fill characters stand outside the whole form, zeros between the mark and the
digits. A width has sixteen bits; a form that asks for more is refused.

The end of a tape counts as on it, and the end is never computed: the distance from the base is
compared with the size, so a tape may reach up to the last address.
-/

namespace TapeProbe

/-! ### Hexadecimal forms -/

/-- On which side the text stands when it is filled up to a width. -/
inductive Align where
  /-- The text first, then the fill. -/
  | left
  /-- The fill first, then the text. -/
  | right
  /-- Fill on both sides; an odd one goes to the right. -/
  | centre
  deriving DecidableEq, Repr

/-- How a form is brought up to a width; the width counts every character of the form. -/
inductive Padding where
  /-- As it is. -/
  | none
  /-- Zeros between the mark and the digits. -/
  | zeros (width : Nat)
  /-- A fill character outside the whole form. -/
  | fill (c : Char) (align : Align) (width : Nat)
  deriving DecidableEq, Repr

/-- The width that is asked for. -/
def Padding.width : Padding → Nat
  | .none => 0
  | .zeros width => width
  | .fill _ _ width => width

/-- A way to write a number in hexadecimal. -/
structure HexForm where
  /-- Write a plus sign in front. -/
  plus : Bool := false
  /-- Write `0x` in front of the digits. -/
  mark : Bool := false
  /-- Padding. -/
  padding : Padding := .none
  deriving DecidableEq, Repr

/-- Fill `body` up to `width` characters. -/
def Align.pad (align : Align) (c : Char) (width : Nat) (body : List Char) : List Char :=
  let missing := width - body.length
  match align with
  | .left => body ++ List.replicate missing c
  | .right => List.replicate missing c ++ body
  | .centre => List.replicate (missing / 2) c ++ body ++ List.replicate (missing - missing / 2) c

namespace HexForm

/-- The largest width. -/
def maxWidth : Nat := 65535

/-- Why a number is not written. -/
inductive Error where
  /-- The width is beyond the largest one. -/
  | widthOutOfRange
  deriving DecidableEq, Repr

/-- The error in words. -/
def Error.message : Error → String
  | .widthOutOfRange => "Formatting argument out of range"

/-- The sign and the mark. -/
def lead (form : HexForm) : List Char :=
  (if form.plus then ['+'] else []) ++ (if form.mark then ['0', 'x'] else [])

/-- The characters of `n` in the given form, whatever its width. -/
def layout (form : HexForm) (n : Nat) : List Char :=
  let digits := Nat.toDigits 16 n
  match form.padding with
  | .none => form.lead ++ digits
  | .zeros width => form.lead ++ List.replicate (width - (form.lead ++ digits).length) '0' ++ digits
  | .fill c align width => align.pad c width (form.lead ++ digits)

/-- Write `n` in the given form, if its width is in range. -/
def write (form : HexForm) (n : Nat) : Except Error (List Char) :=
  if form.padding.width ≤ maxWidth then .ok (form.layout n) else .error .widthOutOfRange

end HexForm

/-! ### Pointers -/

/-- The address an entry point hands back. It is only compared and printed, never followed. -/
structure DataPointer where
  /-- The address. -/
  addr : UInt64
  deriving DecidableEq, Repr

namespace DataPointer

/-- Pointers are ordered by their addresses. -/
def compare (p q : DataPointer) : Ordering := Ord.compare p.addr q.addr

/-- The address in hexadecimal. -/
def hex (p : DataPointer) (form : HexForm) : Except HexForm.Error String :=
  (form.write p.addr.toNat).map String.ofList

/-- The pointer on one line, its address in decimal. -/
def brief (p : DataPointer) : String := "DataPointer(" ++ Numeral.decimal p.addr.toNat ++ ")"

/-- The pointer on one line, its address in hexadecimal. -/
def briefHex (p : DataPointer) : String := "DataPointer(" ++ Numeral.hex p.addr.toNat ++ ")"

/-- The pointer on three lines, its address in decimal. -/
def spread (p : DataPointer) : String :=
  "DataPointer(\n    " ++ Numeral.decimal p.addr.toNat ++ ",\n)"

end DataPointer

/-! ### Bounds -/

/-- What a check of an address against a tape says. -/
inductive Verdict where
  /-- The address lies on the tape, so many bytes from its base. -/
  | inBounds (offset : UInt64)
  /-- The address lies outside the tape. -/
  | outOfBounds
  deriving DecidableEq, Repr

namespace Verdict

/-- Check `pointer` against the tape of `size` bytes at `base`. -/
def check (base size pointer : UInt64) : Verdict :=
  if base ≤ pointer ∧ pointer - base ≤ size then .inBounds (pointer - base) else .outOfBounds

/-- Is the address on the tape? -/
def isInBounds : Verdict → Bool
  | .inBounds _ => true
  | .outOfBounds => false

/-- The distance from the base, for an address on the tape. -/
def offset? : Verdict → Option UInt64
  | .inBounds offset => some offset
  | .outOfBounds => none

/-- The verdict in words. -/
def describe : Verdict → String
  | .inBounds offset => "InBounds \x7b offset: " ++ Numeral.decimal offset.toNat ++ " \x7d"
  | .outOfBounds => "OutOfBounds"

end Verdict

end TapeProbe
