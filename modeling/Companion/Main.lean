import Companion.Command.Line

/-!
# The program

The program runs the command line on the files of the system.
-/

namespace Companion

/-- An error of the system as an error of a file operation; numbers may come negated. -/
def FileError.ofSystem : IO.Error → FileError
  | .noFileOrDirectory .. => .notFound
  | .alreadyExists .. => .alreadyExists
  | e@(.inappropriateType _ number _) =>
    if number = 20 || number = -20 then .notDirectory
    else if number = 21 || number = -21 then .isDirectory
    else .other (toString e)
  | e@(.invalidArgument _ number _) =>
    if number = 36 || number = -36 then .nameTooLong else .other (toString e)
  | e => .other (toString e)

/-- The outcome of an operation of the system. -/
def fileOperation {α : Type} (operation : IO α) : IO (Except FileError α) := do
  return (← operation.toBaseIO).mapError .ofSystem

/-- Files are those of the system. -/
instance : FileStore IO where
  read path := fileOperation (IO.FS.readFile path)
  createDirectory path := fileOperation (IO.FS.createDir path)
  write path text := fileOperation (IO.FS.writeFile path text)

end Companion

def main (arguments : List String) : IO UInt32 := do
  let errors ← IO.getStderr
  let outcome ← Companion.CommandLine.run (← errors.isTty) arguments
  let output ← IO.getStdout
  output.putStr outcome.output
  errors.putStr outcome.errors
  return outcome.exitCode.toUInt32
