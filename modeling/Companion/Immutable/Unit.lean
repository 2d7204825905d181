import Companion.Immutable.Builder
import Companion.Immutable.Converter
import Companion.Immutable.Fluent

/-!
# The unit of an immutable entity

The problems of the entity stand at the top of its unit, and the code below them is complete all
the same. It opens the entity again and adds a default instance, the builder, the constructors
and the conversions between the two; behind the entity follow its extension methods.
-/

namespace Companion

namespace Entity

variable (e : Entity)

/-- The attributes of the entity, by which analyzers and later passes know it. -/
def markers : List Piece :=
  let openName := e.definition.openName
  [.line (if e.pass.compilation.hasFlattened e.definition Vocabulary.immutable then
    "// Note: The attribute [Uno.Immutable] is already present on the class"
  else "[global::Uno.Immutable] // Mark this class as Immutable for analyzers requiring it.")] ++
  (if e.pass.config.generatesEquality e.pass.compilation e.definition then
    [.line ("[global::Uno.GeneratedEquality] // Set [GeneratedImmutable(GenerateEquality = " ++
      "false)] to opt out.")]
  else []) ++
  (if e.hasJsonConverter then
    [.line ("[global::Newtonsoft.Json.JsonConverter(typeof(" ++ e.definition.name ++
      "BuilderJsonConverterTo" ++ openName ++ "))]")]
  else []) ++
  [.line ("[global::Uno.ImmutableBuilder(typeof(" ++ openName ++
    ".Builder))] // Other generators can use this to find the builder.")]

/-- The default instance. -/
def defaultInstance : List Piece :=
  Piece.summary ["Default instance with only property initializers set."] ++
  [.line ("public static readonly " ++ e.newModifier ++ e.name ++ " Default = new " ++ e.name ++
    "();")]

def entityConstructors : List Piece :=
  [.line "// Default constructor, declared here so application code cannot define one.",
    .line "// New instances are created through the builder.",
    .line ("protected " ++ e.definition.name ++ "() \x7b\x7d"),
    .blank] ++
  Piece.summary ["Construct a new immutable instance of " ++ e.nameForXml ++ " from a builder."] ++
  Piece.remarks
    ["Application code should prefer the implicit conversion, which calls this constructor."] ++
  [.line ("/// <param name=\"builder\">The builder for " ++ e.nameForXml ++ ".</param>"),
    .braces ("public " ++ e.definition.name ++ "(Builder builder)" ++
        (if e.base.isEntity then " : base(builder)" else ""))
      (e.body (entityConstructorBody e.properties))]

/-- The conversions between the entity and its builder. -/
def conversions : List Piece :=
  [.line ("// Implicit cast from " ++ e.name ++
      " to Builder: creates a new builder over this instance."),
    .braces ("public static implicit operator Builder(" ++ e.name ++ " original)")
      [.line "return new Builder(original);"],
    .blank,
    .line ("// Implicit cast from Builder to " ++ e.name ++
      ": builds (or reuses) the immutable instance."),
    .braces ("public static implicit operator " ++ e.name ++ "(Builder builder)")
      [.line "return builder.ToImmutable();"]]

/-- The class that opens the entity again. -/
def entityClass : List Piece :=
  e.markers ++
  [.braces (e.definition.accessibility.modifiers ++ " " ++
      (if e.isAbstract then "abstract " else "") ++ "partial class " ++ e.name)
    (Piece.separated
      [if e.isAbstract then [] else e.defaultInstance,
        e.builderClass,
        if e.hasOptionCode then e.optionRegion else [],
        e.entityConstructors,
        if e.isAbstract then [] else e.conversions])]

/-- The code of the unit. -/
def code : List Piece :=
  unitHeader .immutable ["System"] ++
  e.problems.map .diagnostic ++
  (if e.problems.isEmpty then [] else [.blank]) ++
  [.inNamespace e.definition.namespace
    (Piece.separated
      [e.entityClass, e.extensionClass, if e.hasJsonConverter then e.jsonConverter else []])]

end Entity

/-- The unit of an immutable entity. -/
def Pass.immutableArtifact (pass : Pass) (d : TypeDef) : Artifact :=
  .of .immutable d (pass.entity d).code

end Companion
