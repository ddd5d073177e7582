import TapeProbe.Command

/-!
# Entry of the command

Executes the command with an entry point that returns its base, and without a debugger.
-/

open TapeProbe

/-- The status that a shell shows for the end of a command. -/
def exitStatus : Exit → UInt32
  | .code n => UInt32.ofNat n
  | .signal n => UInt32.ofNat (128 + n)

/-- Arguments are ignored. -/
def main (_ : List String) : IO UInt32 := do
  let done := ({} : Setting).execute
  IO.print done.output
  IO.eprint (String.ofList done.console)
  return exitStatus done.exit
