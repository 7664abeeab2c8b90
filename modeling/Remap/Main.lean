import Remap.Demo
/-!
The command line: runs the demo on its sample map and sources, prints the result, and writes
the log to the error stream, with each surrogate as its escape. A failure is written to the
error stream as its class and message, and the exit code is one.
-/

open Remap

/-- Runs the demo on the samples. -/
def main : IO UInt32 := do
  match Demo.runWith none none with
  | .ok out =>
    IO.print out.stdout
    IO.eprint (Text.escapingSurrogates out.log)
    pure 0
  | .error f =>
    IO.eprintln (f.errorClass.name ++ ": " ++ Text.escapingSurrogates f.message)
    pure 1
