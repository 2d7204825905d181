import Companion.Compilation.Basic
import Companion.Vocabulary

/-!
# Base types

A class, structure or enumeration names at most one base type. `baseChain` follows the
definitions from base to base and stops before a definition it has met, so that it ends on
base lists that run in a circle too. `baseRefs` gives the references by which they are named,
with the arguments put in level by level, and ends with the first one that is not known.

An attribute is found *flattened* when it stands on the type or on one of its bases.
-/

namespace Companion

/-- The types at the top of every hierarchy, from which generated code inherits nothing. -/
def rootTypes : List String := ["System.Object", "System.ValueType"]

/-- Whether a reference names a root type. -/
def TypeRef.isRoot (t : TypeRef) : Bool := rootTypes.any t.isNamed

namespace Compilation

variable (c : Compilation)

/-- The definition of the base type, if the type has one and it is known. -/
def baseType? (d : TypeDef) : Option TypeDef := d.baseType.bind c.resolve?

/-- The chain of definitions that starts with `base`, short of the first one whose name was
visited. The count bounds its length. -/
def baseChainFrom : Nat → List String → Option TypeDef → List TypeDef
  | _, _, none => []
  | 0, _, _ => []
  | steps + 1, visited, some base =>
    if base.fullName ∈ visited then []
    else base :: baseChainFrom steps (base.fullName :: visited) (c.baseType? base)

/-- The definitions of the base type, of its base type, and so on. -/
def baseChain (d : TypeDef) : List TypeDef :=
  baseChainFrom c c.types.length [d.fullName] (c.baseType? d)

/-- The chain of references that starts with `base`. -/
def baseRefsFrom : Nat → List String → Option TypeRef → List TypeRef
  | _, _, none => []
  | 0, _, _ => []
  | steps + 1, visited, some base =>
    match c.resolve? base with
    | none => [base]
    | some d =>
      if d.fullName ∈ visited then []
      else
        base :: baseRefsFrom steps (d.fullName :: visited)
          (d.baseType.map (·.substitute d.typeParameters base.args))

/-- References to the base type, to its base type, and so on, in terms of the parameters of
the definition. -/
def baseRefs (d : TypeDef) : List TypeRef :=
  baseRefsFrom c (c.types.length + 1) [d.fullName] d.baseType

/-- Whether a definition of the name is a strict ancestor. -/
def derivesFrom (d : TypeDef) (ancestor : String) : Bool :=
  (c.baseChain d).any (·.fullName == ancestor)

/-- The attribute of a class on the type or, failing that, on the nearest base that has one. -/
def findFlattened? (d : TypeDef) (className : String) : Option Attribute :=
  (d :: c.baseChain d).findSome? fun owner => findAttribute? owner.attributes className

def hasFlattened (d : TypeDef) (className : String) : Bool :=
  (c.findFlattened? d className).isSome

/-- Whether the type or one of its bases short of `System.Object` overrides a method of the
name with so many parameters. -/
def overridesMethod (d : TypeDef) (name : String) (arity : Nat) : Bool :=
  ((d :: c.baseChain d).filter (·.fullName != "System.Object")).any fun owner =>
    owner.methods.any fun m => m.isOverride && m.name == name && m.parameters.length == arity

end Compilation

end Companion
