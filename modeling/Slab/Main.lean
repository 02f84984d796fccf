import Slab.CommandLine.Run

/-!
# The command line

The outer layer: it hands the arguments and the input to `CommandLine.answer`, prints what comes
back, and writes what the setting `SLAB_LOG` lets through to the error stream. It does not ask how
large the terminal is, so `CommandLine.Terminal.assumed` stands for any.
-/

open Slab

/-- Answer the command line. -/
def main (arguments : List String) : IO UInt32 := do
  let stdin ← IO.getStdin
  let mut input := ByteArray.empty
  if CommandLine.wantsInput arguments then
    input ← stdin.readBinToEnd
  let setting ← IO.getEnv "SLAB_LOG"
  match CommandLine.answer arguments input .assumed with
  | .error failure =>
    IO.eprintln (CommandLine.failureText setting failure)
    return failure.exitCode.toUInt32
  | .ok result =>
    for line in CommandLine.journalLines setting result do
      IO.eprintln line
    IO.print result.output
    return 0
