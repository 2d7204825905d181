import Companion.Command.Generate
import Companion.Diagnostic.Documentation

/-!
# The command line

The program has one command that generates code, and further ones that explain a code, show the
help and show the version. `CommandLine.run` gives what the program writes to its two streams,
and its exit code.
-/

namespace Companion

/-- The documentation of a code given as text. -/
def explain (text : String) : Except UsageError String :=
  match DiagnosticCode.ofText? text with
  | some code => .ok code.documentationText
  | none => .error (.unknownCode text)

/-- What a run of the program shows. -/
structure CommandOutcome where
  exitCode : Nat := 0
  output : String := ""
  errors : String := ""
deriving Repr, DecidableEq

namespace CommandLine

/-- Lines as a text. -/
def lines (texts : List String) : String := Text.join "" (texts.map (· ++ "\n"))

def version : String := "0.1.0-alpha.1"

def help : String :=
  lines
    ["kiln code generator",
      "",
      "Usage: kiln <command> [options]",
      "",
      "Commands:",
      "  generate <model.json>  Generate units for every annotated type",
      "  --explain <code>       Explain an error code (e.g., K2006)",
      "  help                   Show this help message",
      "  version                Show version information",
      "",
      "Generate options:",
      "  -o, --output <dir>     Output directory (default: generated)",
      "  --format=<fmt>         Diagnostics format: text (default), json",
      "  --check                Fail if files on disk differ from the generated text",
      "",
      "Examples:",
      "  kiln generate obj/model.json -o obj/generated",
      "  kiln generate obj/model.json --check     # CI: generated code is committed",
      "  kiln generate obj/model.json --format=json",
      "  kiln --explain K2006                     # Explain mutable member type"]

/-- The explanation of the first argument behind the command. -/
def runExplain : List String → CommandOutcome
  | [] =>
    { exitCode := 1
      errors := lines ["Usage: kiln --explain <ERROR_CODE>", "Example: kiln --explain K2006"] }
  | text :: _ =>
    match explain text with
    | .ok documentation => { output := lines [documentation] }
    | .error e => { exitCode := 1, errors := lines [e.message] }

/-- What a run of the generate command shows at its end, and its exit code. -/
def conclusion (options : GenerateOptions) (run : GenerateRun) : List String × Nat :=
  let units := toString run.generation.artifacts.length
  if options.checks then
    let drift := run.drift.map (·.text)
    if run.failed then
      (drift ++ ["error: " ++ toString run.drift.length ++ " of " ++ units ++
        " generated units are out of date in " ++ options.output], 1)
    else (drift ++ [units ++ " generated units are up to date in " ++ options.output], 0)
  else
    (["generated " ++ units ++ " units in " ++ options.output ++ " (" ++ toString run.written ++
      " written)"], 0)

/-- What a run of the generate command shows. -/
def shown (isTerminal : Bool) (options : GenerateOptions) (run : GenerateRun) : CommandOutcome :=
  let (texts, exitCode) := conclusion options run
  let artifacts := run.generation.artifacts
  match options.format with
  | .text =>
    { exitCode, errors := reportDiagnostics .text .auto isTerminal artifacts ++ lines texts }
  | .json =>
    { exitCode, output := reportDiagnostics .json .never false artifacts, errors := lines texts }

/-- What a failed run of the generate command shows. -/
def failure (e : GenerateError) : CommandOutcome :=
  { exitCode := 1
    errors := lines (("error: " ++ e.message) ::
      e.code?.toList.map fun code =>
        "  = note: run `kiln --explain " ++ code.text ++ "` for details") }

section

variable {m : Type → Type} [Monad m] [FileStore m]

/-- The generate command with its arguments. -/
def runGenerate (isTerminal : Bool) (arguments : List String) : m CommandOutcome := do
  match GenerateOptions.parse arguments with
  | .error e =>
    return {
      exitCode := 2
      errors := lines
        ["error: " ++ e.message,
          "Usage: kiln generate <model.json> [-o <dir>] [--format=text|json] [--check]"] }
  | .ok options =>
    match ← options.run.run with
    | .ok run => return shown isTerminal options run
    | .error e => return failure e

/-- Run the program with its arguments; `isTerminal` tells whether the error stream is a
terminal. -/
def run (isTerminal : Bool) : List String → m CommandOutcome
  | [] => return { output := help }
  | command :: arguments =>
    if command = "generate" then runGenerate isTerminal arguments
    else if ["help", "--help", "-h"].contains command then return { output := help }
    else if ["version", "--version", "-V"].contains command then
      return { output := lines ["kiln " ++ version] }
    else if ["--explain", "explain"].contains command then return runExplain arguments
    else
      return { exitCode := 1, output := help, errors := lines ["Unknown command: " ++ command, ""] }

end

end CommandLine

end Companion
