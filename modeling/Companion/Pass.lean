import Companion.Artifact
import Companion.Config

/-!
# Passes over a compilation

A `Pass` is what a generator has at hand while it writes the units of a compilation: the
compilation, its configuration, and the names of the types that get a unit. A base type among
those has members that the compilation does not show yet.
-/

namespace Companion

/-- A generator at work on a compilation. -/
structure Pass where
  compilation : Compilation
  config : Config
  /-- The metadata names of the types that get a unit. -/
  targets : List String

namespace Pass

/-- Whether the type gets a unit. -/
def plans (pass : Pass) (d : TypeDef) : Bool := pass.targets.contains d.fullName

/-- The attribute of a method without side effects, where its library is part of the
compilation. -/
def pureMark (pass : Pass) : List Piece :=
  if pass.config.capabilities.pureAttribute then
    [.line "[global::System.Diagnostics.Contracts.Pure]"]
  else []

end Pass

/-- Whether a generator may write members into the type: a class or structure declared in the
sources at hand. -/
def TypeDef.isExtensible (d : TypeDef) : Bool :=
  d.origin == .source && (d.kind == .class || d.kind == .struct)

end Companion
