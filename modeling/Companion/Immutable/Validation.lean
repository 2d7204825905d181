import Companion.Immutable.Base
import Companion.Worklist

/-!
# Checking that an entity is immutable

An entity must be a class that derives from nothing or from another entity. Its properties have
no setters, its fields are read-only, and the types of both are immutable in all their parts. A
type parameter counts through its constraints and needs at least one.

`Pass.checkType` examines the parts of a type breadth first: the type first, then its
arguments or elements, then what those are made of. Each part is examined once, with a note that
tells how it was reached. `Pass.validate` gathers all problems of an entity in order.
-/

namespace Companion

/-- What is examined after a part of a type, with the note that tells how it was reached. -/
def checkedNext (scope : List TypeParameter) (t : TypeRef) (source : String) :
    List (TypeRef × String) :=
  match t with
  | .parameter name =>
    (constraintsOf scope name).map fun constraint =>
      (constraint, source ++ " (constraint " ++ name ++ " : " ++ constraint.friendly ++ ")")
  | t =>
    t.parts.map fun part => (part, source ++ " (argument type " ++ part.friendly ++ ")")

/-- Enough steps to examine a type: each of its parts, and each part of a constraint, enters the
queue once as a part of another one, and a constraint once more as such. -/
def checkSteps (scope : List TypeParameter) (t : TypeRef) : Nat :=
  t.size + 2 * TypeRef.sizeAll (scope.flatMap (·.constraints)) + 1

/-- The parts of a type that are examined, with their notes. -/
def checkedParts (scope : List TypeParameter) (t : TypeRef) (source : String) :
    List (TypeRef × String) :=
  Worklist.exploreFrom (checkedNext scope) (checkSteps scope t) [] [(t, source)]

namespace Pass

variable (pass : Pass)

/-- What is wrong with one part of a type, the parts of that part aside. -/
def partProblem? (scope : List TypeParameter) (t : TypeRef) (source : String) :
    Option (DiagnosticCode × String) :=
  match t with
  | .parameter name =>
    if (constraintsOf scope name).isEmpty then
      some (.parameterNotImmutable, source ++ " is of generic type " ++ name ++
        " which isn't restricted to an immutable type. Add a constraint to an immutable type.")
    else none
  | t =>
    let c := pass.compilation
    let rules := pass.config.rules
    let typed := source ++ " type " ++ t.friendly
    if (c.resolve? t).any fun d => hasAttribute d.attributes Vocabulary.immutableBuilder then
      some (.memberIsBuilder, typed ++
        " is a builder. It cannot be used in an immutable entity.")
    else if c.isImmutable scope rules t then none
    else
      some (.memberNotImmutable,
        if t.isArray && !rules.treatsArraysAsImmutable then
          typed ++ " is an array, which is not immutable. Arrays can be treated as immutable " ++
            "with [assembly: Uno.ImmutableGenerationOptions(TreatArrayAsImmutable = true)]."
        else typed ++ " is not immutable. It cannot be used in an immutable entity.")

/-- The problems with the parts of a type; `source` names what has the type. -/
def checkType (d : TypeDef) (t : TypeRef) (source : String) (location : Option Location) :
    List Diagnostic :=
  (checkedParts d.typeParameters t source).filterMap fun (part, source) =>
    (pass.partProblem? d.typeParameters part source).map fun (code, message) =>
      d.problem .immutable .error code message location

/-- The problems with what the entity is and derives from. -/
def validateDeclaration (d : TypeDef) : List Diagnostic :=
  let name := d.qualifiedName
  (if d.isPartial then []
  else
    [d.problem .immutable .warning .immutableNotPartial
      ("You should add the partial modifier to the class " ++ name ++ ".")]) ++
  (if d.kind == .class then []
  else
    [d.problem .immutable .error .immutableNotClass
      ("Type " ++ name ++ " **MUST** be a class, not a struct.")]) ++
  match pass.entityBase d with
  | .missingBuilder base =>
    [d.problem .immutable .error .baseBuilderMissing
      ("The builder of base type " ++ base ++ " cannot be found. Generate the base in this " ++
        "compilation or mark it [ImmutableBuilder(typeof(...))].")]
  | .notImmutable base =>
    [d.problem .immutable .error .baseNotImmutable
      ("Type " ++ name ++ " **MUST** derive from an immutable class, not " ++ base ++ ".")]
  | .root | .entity .. => []

/-- The problems with a property. -/
def validateProperty (d : TypeDef) (p : Property) : List Diagnostic :=
  let name := d.qualifiedName ++ "." ++ p.name
  if p.isStatic then []
  else if p.isIndexer then
    [d.problem .immutable .error .indexerUnsupported
      ("Indexer " ++ name ++ " is not supported. You must remove it for immutable generation.")
      p.location]
  else
    (if p.hasSetter then
      [d.problem .immutable .error .propertyHasSetter
        ("Non-static property " ++ name ++ " cannot have a setter, even a private one. You " ++
          "must remove it for immutable generation.")
        p.location]
    else []) ++
    pass.checkType d p.type ("Property " ++ name) p.location

/-- The problems with the type arguments of the base type. An abstract entity may hand its own
parameters on. -/
def validateBaseArguments (d : TypeDef) : List Diagnostic :=
  ((d.baseType.map (·.args)).getD []).flatMap fun arg =>
    match d.isAbstract, arg with
    | true, .parameter _ => []
    | _, arg => pass.checkType d arg ("Type argument " ++ arg.friendly) none

/-- The problems with a field. -/
def validateField (d : TypeDef) (f : Field) : List Diagnostic :=
  if f.isStatic || f.isImplicit then []
  else if f.isReadonly then
    pass.checkType d f.type ("Field " ++ d.qualifiedName ++ "." ++ f.name) f.location
  else
    [d.problem .immutable .error .fieldNotReadonly
      ("Immutable type " ++ d.qualifiedName ++ " cannot have a non-static field " ++ f.name ++
        ". You must make it readonly or remove it for immutable generation.")
      f.location]

/-- All problems of an entity, in order. -/
def validate (d : TypeDef) : List Diagnostic :=
  pass.validateDeclaration d ++ d.properties.flatMap (pass.validateProperty d) ++
    pass.validateBaseArguments d ++ d.fields.flatMap (pass.validateField d)

end Pass

end Companion
