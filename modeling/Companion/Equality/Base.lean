import Companion.Equality.Members
import Companion.Pass

/-!
# What the base type contributes to equality

Generated equality continues into the base type where that compares by value itself: because
it, or a base of it, overrides the methods of `System.Object`, or because it gets generated
equality too.
-/

namespace Companion

/-- What generated equality may assume about the base type. -/
structure BaseEquality where
  /-- The base type as messages name it. -/
  name : String
  overridesEquals : Bool := false
  overridesHash : Bool := false
  /-- Whether the base type, or a base of it, has a key equality. -/
  isKeyEquatable : Bool := false
deriving Repr, DecidableEq

/-- Whether the type asks for generated equality itself, or inherits the request. -/
def Compilation.requestsEquality (c : Compilation) (d : TypeDef) : Bool :=
  d.isExtensible && c.hasFlattened d Vocabulary.generatedEquality

namespace Pass

variable (pass : Pass)

/-- Whether a type gets generated equality: it is declared in the sources at hand, and planned
or marked. -/
def generatesEquality (d : TypeDef) : Bool :=
  d.origin == .source &&
    (pass.plans d || pass.compilation.hasFlattened d Vocabulary.generatedEquality)

/-- Whether a type has, or will have, a key equality of its own. -/
def isKeyEquatable (d : TypeDef) : Bool :=
  !rootTypes.contains d.fullName &&
    (pass.compilation.isKeyEquatable d.typeParameters d.selfRef ||
      (pass.config.capabilities.keyEquality && pass.generatesEquality d &&
        pass.compilation.hasKeyMembers d))

/-- What the base type contributes; nothing if the type has no base or a root type for it. Of a
base type that is not known nothing is assumed. -/
def baseEquality? (d : TypeDef) : Option BaseEquality := do
  let base ← d.baseType
  guard !base.isRoot
  match pass.compilation.resolve? base with
  | none => return { name := base.friendly }
  | some definition =>
    let generated := pass.generatesEquality definition
    return {
      name := base.friendly
      overridesEquals := generated || pass.compilation.overridesMethod definition "Equals" 1
      overridesHash := generated || pass.compilation.overridesMethod definition "GetHashCode" 0
      isKeyEquatable :=
        (definition :: pass.compilation.baseChain definition).any pass.isKeyEquatable }

end Pass

end Companion
