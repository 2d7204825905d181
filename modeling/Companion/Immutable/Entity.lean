import Companion.Immutable.AttributeCopy
import Companion.Immutable.Statement
import Companion.Immutable.Validation

/-!
# Immutable entities

`Pass.entity` gathers what the unit of an immutable entity is made of: what it derives from, the
properties its builder carries, and the problems found on the way. A copy-ignore pattern that
cannot be read is a problem too, and then its scope gives no patterns.
-/

namespace Companion

/-- What the unit of an immutable entity is made of. -/
structure Entity where
  pass : Pass
  definition : TypeDef
  base : EntityBase
  /-- The properties that the builder carries. -/
  properties : List BuilderProperty
  /-- The problems of the entity, in order. -/
  problems : List Diagnostic

namespace TypeDef

variable (d : TypeDef)

/-- The copy-ignore patterns among the attributes of a type or a property, or else the problem
with them. -/
def copyPatterns (engine : PatternEngine) (attributes : List Attribute)
    (location : Option Location) : List Pattern × List Diagnostic :=
  match copyIgnorePatterns attributes engine with
  | .ok patterns => (patterns, [])
  | .error e => ([], [d.problem .immutable .error .copyIgnoreInvalid e.message location])

/-- A property of the builder of an entity, and the problem with its patterns. -/
def builderProperty (engine : PatternEngine) (base : EntityBase) (patterns : List Pattern)
    (p : Property) : BuilderProperty × List Diagnostic :=
  let (own, problems) := d.copyPatterns engine p.attributes p.location
  ({ name := p.name
     type := p.type.display
     isNew := base.shadows p.name
     attributes := copiedAttributes (patterns ++ own) p.attributes },
    problems)

end TypeDef

/-- What the unit of an entity is made of. -/
def Pass.entity (pass : Pass) (d : TypeDef) : Entity :=
  let base := pass.entityBase d
  let engine := pass.config.engine
  let (own, problems) := d.copyPatterns engine d.attributes none
  let properties :=
    (d.properties.filter (·.isBuilderState)).map
      (d.builderProperty engine base (pass.config.copyIgnore ++ own))
  { pass
    definition := d
    base
    properties := properties.map (·.1)
    problems := pass.validate d ++ problems ++ properties.flatMap (·.2) }

namespace Entity

variable (e : Entity)

/-- The entity as the unit refers to it. -/
def name : String := e.definition.nameWithGenerics

/-- The entity as documentation comments refer to it. -/
def nameForXml : String := e.definition.nameForXml

/-- The entity's builder as code outside of it refers to it. -/
def builder : String := e.name ++ ".Builder"

/-- An optional entity as code refers to it. -/
def option : String := "global::Uno.Option<" ++ e.name ++ ">"

def isAbstract : Bool := e.definition.isAbstract

/-- The modifier of a member that hides one of the base. -/
def newModifier : String := if e.base.isEntity then "new " else ""

def hasOptionCode : Bool := e.pass.config.generatesOptionCode e.definition

def hasJsonConverter : Bool := e.pass.config.generatesJsonConverter e.definition

end Entity

/-- The modifier of a property that hides one of a base builder. -/
def BuilderProperty.newModifier (p : BuilderProperty) : String := if p.isNew then "new " else ""

/-- The remark on members that keep state without locking. -/
def notThreadSafe (what : String) : String :=
  "**" ++ what ++ " IS NOT THREAD-SAFE** (it shouldn't be accessed concurrently from many threads)"

end Companion
