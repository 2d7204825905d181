import Companion.Command.Options
import Companion.Diagnostic.Report
import Companion.Generation
import Companion.Output

/-!
# The generate command

The command loads a program document, generates its units, and writes them below the output
directory or compares them with the files there.
-/

namespace Companion

/-- Why the command fails. -/
inductive GenerateError where
  | output (e : OutputError)
  | generation (e : GenerationError)
deriving Repr, DecidableEq

namespace GenerateError

/-- The text that reports the error. -/
def message : GenerateError → String
  | output e => e.message
  | generation e => e.message

/-- The code under which the error is documented, if there is one. -/
def code? : GenerateError → Option DiagnosticCode
  | output _ => none
  | generation e => some e.code

end GenerateError

/-- What the command did. -/
structure GenerateRun where
  generation : Generation
  /-- How many files were written; none when they are checked. -/
  written : Nat := 0
  /-- The units that are not up to date; none when they are written. -/
  drift : List Drift := []
deriving Repr, DecidableEq

/-- Whether the run fails. Problems embedded in units do not make it fail, for they fail the
build that takes the units in. -/
def GenerateRun.failed (run : GenerateRun) : Bool := !run.drift.isEmpty

/-- Report the diagnostics of units. -/
def reportDiagnostics (format : OutputFormat) (colors : Report.ColorMode) (isTerminal : Bool)
    (artifacts : List Artifact) : String :=
  let diagnostics := artifacts.flatMap (·.diagnostics)
  match format with
  | .text => Report.terminal (colors.isColored isTerminal) diagnostics
  | .json => Report.json diagnostics

section

variable {m : Type → Type} [Monad m] [FileStore m]

/-- Load a program document from a file and generate its units. -/
def generateFromFile (path : String) : ExceptT GenerateError m Generation := do
  match ← ExceptT.lift (FileStore.read path) with
  | .error e => throw (.output ⟨path, e⟩)
  | .ok text =>
    match generateFromText text with
    | .ok generation => return generation
    | .error e => throw (.generation e)

/-- Run the command. -/
def GenerateOptions.run (options : GenerateOptions) : ExceptT GenerateError m GenerateRun := do
  let generation ← generateFromFile options.document
  if options.checks then
    let drift ← (checkArtifacts options.output generation.artifacts).adapt .output
    return { generation, drift }
  else
    let written ← (writeArtifacts options.output generation.artifacts).adapt .output
    return { generation, written }

end

end Companion
