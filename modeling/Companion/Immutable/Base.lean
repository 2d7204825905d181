import Companion.Pass

/-!
# What an immutable entity derives from

The builder of an entity derives from the builder of its base type, if the base type is an
immutable entity too. That builder is found in two ways: a compiled base names it in an
attribute, and the base of an entity generated in the same pass has a nested `Builder`.
-/

namespace Companion

/-- What the generated code of an entity derives from. -/
inductive EntityBase where
  /-- Nothing but a root type. -/
  | root
  /-- An entity and its builder, both as written in code; `inherited` lists the names of the
  properties that the builders of the bases have. -/
  | entity (name builder : String) (inherited : List String)
  /-- The base type is immutable, and its builder cannot be found. -/
  | missingBuilder (base : String)
  /-- The base type is not immutable. -/
  | notImmutable (base : String)
deriving Repr, DecidableEq

namespace EntityBase

def isEntity : EntityBase → Bool
  | entity .. => true
  | _ => false

/-- The builder to derive from. -/
def builderBase? : EntityBase → Option String
  | entity _ builder _ => some builder
  | _ => none

/-- Whether a builder of a base has a property of the name. -/
def shadows (base : EntityBase) (name : String) : Bool :=
  match base with
  | entity _ _ inherited => inherited.contains name
  | _ => false

end EntityBase

/-- Whether a builder carries the property: a read-only property of the instance whose storage
the compiler supplies. -/
def Property.isBuilderState (p : Property) : Bool :=
  !p.isStatic && p.isReadOnly && p.isAuto && !p.isIndexer && !p.isWriteOnly && !p.isImplicit

/-- Whether the type asks to be an immutable entity, or inherits the request. Structures may
ask, and are told that they cannot be one. -/
def Compilation.requestsImmutable (c : Compilation) (d : TypeDef) : Bool :=
  d.isExtensible && c.hasFlattened d Vocabulary.generatedImmutable

/-- The builder that an attribute on a base type names, as written in code. A builder nested in
the base is named through the reference to the base, which has the type arguments. -/
def builderSpelling (definition : TypeDef) (base builder : TypeRef) : String :=
  match builder.definitionName?.bind (Text.behind? (definition.fullName ++ "+")) with
  | some nested => base.display ++ "." ++ nested
  | none => builder.display

namespace Pass

variable (pass : Pass)

/-- The names of the properties that the builders of a type and of its bases have. -/
def builderProperties (d : TypeDef) : List String :=
  ((d :: pass.compilation.baseChain d).flatMap fun level =>
    level.properties.filter (·.isBuilderState)).map (·.name)

/-- The builder of a base type, as written in code, if there is one. -/
def builderOf? (base : TypeRef) (definition : TypeDef) : Option String :=
  match (findAttribute? definition.attributes Vocabulary.immutableBuilder).bind fun a =>
      a.arguments[0]?.bind (·.asType?) with
  | some builder => some (builderSpelling definition base builder)
  | none => if pass.plans definition then some (base.display ++ ".Builder") else none

/-- What an entity derives from. A base type that is not known is taken to be immutable. -/
def entityBase (d : TypeDef) : EntityBase :=
  match d.baseType with
  | none => .root
  | some base =>
    if base.isRoot then .root
    else
      match pass.compilation.resolve? base with
      | none => .missingBuilder base.display
      | some definition =>
        match pass.builderOf? base definition with
        | some builder => .entity base.display builder (pass.builderProperties definition)
        | none =>
          if pass.compilation.isMarkedImmutable base then .missingBuilder base.display
          else .notImmutable base.display

end Pass

end Companion
