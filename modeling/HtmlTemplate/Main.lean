import HtmlTemplate.CommandLine.Command

/-!
# The program

Runs the command on the files of the system.
-/

namespace HtmlTemplate.CommandLine

/-- The cause that the system gives for a failure. -/
def FileError.ofSystem : IO.Error → FileError
  | .noFileOrDirectory .. => .notFound
  | .permissionDenied .. => .permissionDenied
  | .inappropriateType _ 20 _ => .notDirectory
  | .inappropriateType _ 21 _ => .isDirectory
  | .invalidArgument _ 36 _ => .nameTooLong
  | .resourceExhausted _ 28 _ => .noSpace
  | .resourceVanished 32 _ => .brokenPipe
  | error => .other error.toString

/-- Does something with a file or a stream, and gives the cause if this fails. -/
def attempt {α : Type} (action : IO α) : IO (Except FileError α) := do
  try
    return .ok (← action)
  catch error => return .error (.ofSystem error)

/-- The outside of a program. -/
def systemHost : Host IO where
  readInput := attempt do
    let stdin ← IO.getStdin
    let mut bytes := ByteArray.empty
    let mut chunk ← stdin.read 65536
    while ! chunk.isEmpty do
      bytes := bytes ++ chunk
      chunk ← stdin.read 65536
    return bytes.data.toList
  readFile path := attempt do
    return (← IO.FS.readBinFile path).data.toList
  writeFile path content := attempt do
    IO.FS.writeBinFile path (ByteArray.mk content.toArray)
  print text := attempt do
    let stdout ← IO.getStdout
    stdout.putStr text
    stdout.flush

end HtmlTemplate.CommandLine

/-- Runs the command with the arguments of the program. -/
def main (arguments : List String) : IO UInt32 := do
  let outcome ← HtmlTemplate.CommandLine.Command.main HtmlTemplate.CommandLine.systemHost arguments
  IO.eprint outcome.stderr
  return UInt32.ofNat outcome.code
