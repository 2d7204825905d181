import Companion.Equality.Unit
import Companion.Immutable.Unit
import Companion.Lifecycle.Unit
import Companion.Plan

/-!
# Generating code for a compilation

`generate` runs all generators over a compilation: the units for equality come first, then those
of immutable entities, then the lifecycle units, each group in the order of the plan.

Problems with a type are part of its unit. Generation fails as a whole only if a type that every
generator relies on is missing, or if the assembly gives a pattern that cannot be read.
-/

namespace Companion

/-- Why no code can be generated. -/
inductive GenerationError where
  | model (e : ModelError)
  | config (e : ConfigError)
deriving Repr, DecidableEq

namespace GenerationError

/-- The text that reports the error. -/
def message : GenerationError → String
  | model e => e.message
  | config e => e.message

/-- The code under which the error is documented. -/
def code : GenerationError → DiagnosticCode
  | model (.missingWellKnownType _) => .wellKnownTypeMissing
  | model .malformed | model (.duplicateType _) => .modelUnusable
  | config _ => .copyIgnoreInvalid

end GenerationError

/-- The units generated for a compilation. -/
structure Generation where
  artifacts : List Artifact
deriving Repr, DecidableEq

namespace Generation

/-- The problems of all units, in order. -/
def diagnostics (g : Generation) : List Diagnostic := g.artifacts.flatMap (·.diagnostics)

def tally (g : Generation) : Tally := Tally.of g.diagnostics

/-- Whether a unit carries an error. -/
def hasErrors (g : Generation) : Bool := g.artifacts.any (·.hasErrors)

end Generation

/-- The metadata names of planned types. -/
def targetNames (ds : List TypeDef) : List String := ds.map (·.fullName)

/-- The units of a plan. -/
def Plan.artifacts (plan : Plan) (c : Compilation) (config : Config) : List Artifact :=
  let equality : Pass := ⟨c, config, targetNames plan.equality⟩
  let immutable : Pass := ⟨c, config, targetNames plan.immutable⟩
  plan.equality.map equality.equalityArtifact ++
    plan.immutable.map immutable.immutableArtifact ++
    plan.lifecycle.map c.lifecycleArtifact

/-- Generate the units for a compilation, with an engine that reads its patterns. -/
def generate (c : Compilation) (engine : PatternEngine := Regex.engine) :
    Except GenerationError Generation := do
  c.requireWellKnownTypes.mapError .model
  let config ← (Config.resolve c engine).mapError .config
  return ⟨(Plan.of c config).artifacts c config⟩

/-- Load a program document and generate its units. -/
def generateFromText (text : String) (engine : PatternEngine := Regex.engine) :
    Except GenerationError Generation := do
  generate (← (Compilation.ofText text).mapError GenerationError.model) engine

end Companion
