import TaintSeed.Command.Line
import TaintSeed.Text.Bytes

/-!
# The Program

Runs the command that the arguments name, on the files of the system.

## Main definitions

* `host`: The files and the clock of the system.
* `main`: The program.
-/

namespace TaintSeed.Main

/-- The content of a file of the system. -/
def readText (path : String) : IO (Except Command.ReadFailure String) := do
  try
    let bytes ← IO.FS.readBinFile path
    return .ok (Text.Bytes.toText (bytes.toList.map UInt8.toNat))
  catch e =>
    match e with
    | .noFileOrDirectory .. => return .error (.notFound path)
    | .inappropriateType .. => return .error (.isDirectory path)
    | _ => return .error (.other (toString e))

/-- Whether a path of the system leads somewhere: then it can be opened. -/
def isPresent (path : String) : IO Bool := do
  try
    let _ ← IO.FS.Handle.mk path .read
    return true
  catch _ => return false

/-- The files and the clock of the system. -/
def host : Command.Host IO where
  read := readText
  isPresent := isPresent
  now := IO.monoNanosNow

/-- Writes a text byte for byte. -/
def write (stream : IO.FS.Stream) (text : String) : IO Unit :=
  stream.write ⟨((Text.Bytes.ofText text).map UInt8.ofNat).toArray⟩

end TaintSeed.Main

/-- Runs the command that the arguments name. -/
def main (arguments : List String) : IO UInt32 := do
  let accepted := arguments.map TaintSeed.Text.Bytes.accept
  let ending ← TaintSeed.Command.execute TaintSeed.Main.host accepted
  TaintSeed.Main.write (← IO.getStdout) ending.output
  TaintSeed.Main.write (← IO.getStderr) ending.notes
  return UInt32.ofNat ending.status
