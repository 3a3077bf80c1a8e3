import StreamLint.CommandLine.Session
import StreamLint.CommandLine.Snapshot
/-!
# The program

The snapshot of the working directory is read from standard input, and the arguments are those of
the program. Everything else is `StreamLint.Session.run`. Without a snapshot the working directory
is an empty one.
-/

namespace StreamLint

/-- Reads a stream to its end. -/
partial def readAll (stream : IO.FS.Stream) (bytes : ByteArray) : IO ByteArray := do
  let chunk ← stream.read 65536
  if chunk.isEmpty then return bytes else readAll stream (bytes ++ chunk)

/-- The snapshot that a stream holds. -/
def readSnapshot (stream : IO.FS.Stream) : IO Json := do
  let bytes ← readAll stream .empty
  match (String.fromUTF8? bytes).map Json.parse with
  | some (.ok snapshot) => return snapshot
  | _ => return .null

end StreamLint

/-- Runs the program and ends with its status. -/
def main (arguments : List String) : IO UInt32 := do
  let output ← IO.getStdout
  let snapshot ← StreamLint.readSnapshot (← IO.getStdin)
  let result := StreamLint.Session.run (.ofSnapshot snapshot) (← output.isTty) arguments
  output.putStr result.stdout
  output.flush
  IO.eprint result.stderr
  return result.status.toUInt32
