/-
# The command line

What the program decides is in `Program`; here its arguments and the log filter are taken
from the environment, and what it says is written to the standard streams.  A program that
serves reads the requests of one client from its standard input and stops when the input
ends.
-/
import EchoBackend.Program
import EchoBackend.Wire.Reader

namespace EchoBackend

namespace Main

/-- The environment variable in which operators leave the log filter. -/
def filterVariable : String := "RUST_LOG"

/-- Reads a stream to its end. -/
partial def readAll (stream : IO.FS.Stream) (read : ByteArray) : IO ByteArray := do
  let portion ← stream.read 65536
  if portion.isEmpty then pure read else readAll stream (read ++ portion)

/-- The script that the standard input stands for, if there is an instance to play it against: one
client sends it and goes away, and the process is told to stop. -/
def script : Program.Launch → IO (List Trial.Step)
  | .serving _ _ => do
    let input := (← readAll (← IO.getStdin) .empty).toList
    let parts := (Wire.Reader.parts input).map (.read "client")
    pure (.connect "client" :: .send "client" input :: parts ++ [.close "client", .signal])
  | _ => pure []

/-- Writes what a process says, and gives its exit status. -/
def write (outcome : Program.Outcome) (asked : Option String) : IO UInt32 := do
  for line in outcome.logLines asked do IO.eprintln line
  IO.print outcome.output
  IO.eprint outcome.complaints
  pure (outcome.exitCode.getD 0).toUInt32

end Main

end EchoBackend

open EchoBackend

/-- Runs the program. -/
def main (arguments : List String) : IO UInt32 := do
  let asked ← IO.getEnv Main.filterVariable
  let launch := Program.launch {} (arguments.map Utf8.bytes)
  match launch.play .up (← Main.script launch) with
  | .ok outcome => Main.write outcome asked
  | .error _ => pure 1
