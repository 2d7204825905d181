import Companion.Layout
import Companion.Model.Names

/-!
# Artifacts

An artifact is one generated unit: its text, the path it is stored under, and the problems that
its code carries. The path follows from the generator and the names of the type.
-/

namespace Companion

/-- A problem that a generator finds with a type, at the given place or else at the declaration
of the type. -/
def TypeDef.problem (d : TypeDef) (generator : Generator) (severity : Severity)
    (code : DiagnosticCode) (message : String) (location : Option Location := none) :
    Diagnostic :=
  let found : Diagnostic := { code, severity, message, location := location <|> d.location }
  found.inScope ⟨generator, d.qualifiedName⟩

/-- One generated unit. -/
structure Artifact where
  generator : Generator
  /-- The path below the output directory, its segments separated by slashes. -/
  path : String
  text : String
  diagnostics : List Diagnostic
deriving Repr, DecidableEq

/-- The path of the unit that a generator writes for a type. -/
def artifactPath (generator : Generator) (d : TypeDef) : String :=
  generator.name ++ "/" ++ d.filePath ++ ".g.cs"

/-- The unit that a generator writes for a type: the diagnostics of the artifact are those that
its code carries. -/
def Artifact.of (generator : Generator) (d : TypeDef) (code : List Piece) : Artifact :=
  ⟨generator, artifactPath generator d, layOut code, Piece.diagnosticsAll code⟩

def Artifact.hasErrors (a : Artifact) : Bool := a.diagnostics.any (·.isError)

/-- The top of a unit: a banner, the warnings that generated members may cause on their own, and
the namespaces in use. -/
def unitHeader (generator : Generator) (usings : List String) : List Piece :=
  let rule :=
    "// *************************************************************************************"
  [.line "// <auto-generated>",
    .line rule,
    .line ("// This file has been generated by kiln (" ++ generator.name ++
      "), and must not be edited by hand."),
    .line rule,
    .line "// </auto-generated>",
    .line "#pragma warning disable CS0108, CS0109, CS0618, CS1591",
    .blank] ++
  usings.map (fun u => .line ("using " ++ u ++ ";")) ++
  [.blank]

end Companion
