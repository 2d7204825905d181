import Companion.Immutable.Entity

/-!
# The builder of an entity

A builder is a nested class that starts from an entity and records what differs from it: for
each property a value and whether it is set. A property that is set back to the initial value
counts as not set. The builder of an entity that derives from another one derives from the
builder of that, which keeps the shared state.
-/

namespace Companion.Entity

variable (e : Entity)

/-- The body of a member of the builder, as source code. -/
def body (statements : List BuilderStatement) : List Piece :=
  BuilderStatement.codeAll e.definition statements

/-! ### Constructors -/

/-- The constructors of a builder that leaves the state to the builder of the base. -/
def derivedConstructors : List Piece :=
  let assigned := "`_original` is assigned in the base builder."
  if e.isAbstract then
    [.braces ("protected Builder(" ++ e.name ++ " original) : base(original)")
      (e.body [.comment "Abstract: `_original` is assigned and null-checked by the base builder."])]
  else
    [.braces ("public Builder(" ++ e.name ++ " original) : base(original ?? " ++ e.name ++
        ".Default)")
        (e.body [.comment assigned]),
      .blank,
      .braces ("public Builder() : base(" ++ e.name ++ ".Default)") (e.body [.comment assigned])]

/-- The state that all builders of a hierarchy share. -/
def sharedState : List Piece :=
  [.line "// Dirty means there's a difference from `_original`.",
    .line "protected bool _isDirty = false;",
    .blank,
    .line "// This is the original entity. Never null.",
    .line ("protected internal readonly " ++ e.name ++ " _original;"),
    .blank,
    .line "// Cached version of the generated entity (flushed when the builder is updated)",
    .line ("protected " ++ e.name ++ " _cachedResult = default(" ++ e.name ++ ");")]

/-- The constructors of a builder that keeps the shared state itself. -/
def rootConstructors : List Piece :=
  if e.isAbstract then
    [.braces ("protected Builder(" ++ e.name ++ " original)") (e.body [.adoptRequired])]
  else
    [.braces ("public Builder(" ++ e.name ++ " original)") (e.body [.adoptGiven]),
      .blank,
      .braces "public Builder()" (e.body [.adoptDefault])]

def builderConstructors : List Piece :=
  if e.base.isEntity then e.derivedConstructors
  else Piece.separated [e.sharedState, e.rootConstructors]

/-! ### Properties -/

/-- The state and the accessors of a property. -/
def builderProperty (p : BuilderProperty) : List Piece :=
  [.line ("// Backing field for property " ++ p.name ++ "."),
    .line ("private " ++ p.type ++ " _" ++ p.name ++ ";"),
    .blank,
    .line ("// If the property " ++ p.name ++ " has been set in the builder."),
    .line ("// `false` means it hasn't been set, or has been set back to the value of " ++
      "`_original`."),
    .line ("private bool _is" ++ p.name ++ "Set = false;"),
    .blank] ++
  Piece.summary ["Get/Set the current builder value for " ++ p.name ++ "."] ++
  Piece.lines p.attributes ++
  [.braces ("public " ++ p.newModifier ++ p.type ++ " " ++ p.name)
    [.line ("get => " ++ p.getter.code e.definition ++ ";"), .braces "set" (e.body p.setter)]]

/-- The fluent setters of a property. -/
def builderWiths (p : BuilderProperty) : List Piece :=
  let method := "public " ++ p.newModifier ++ "Builder With" ++ p.name
  Piece.summary ["Set property " ++ p.name ++ " in a fluent declaration."] ++
  Piece.remarks [notThreadSafe "THIS METHOD"] ++
  Piece.element "example"
    [p.type ++ " new" ++ p.name ++ "Value = [...];",
      e.nameForXml ++ " instance = builder.With" ++ p.name ++ "(new" ++ p.name ++ "Value);"] ++
  [.braces (method ++ "(" ++ p.type ++ " value)")
      [.line (p.name ++ " = value;"), .line "return this;"],
    .blank] ++
  Piece.summary
    ["Set property " ++ p.name ++ " in a fluent declaration by projecting the previous value."] ++
  Piece.remarks [notThreadSafe "THIS METHOD", "The selector is called immediately."] ++
  [.braces (method ++ "(Func<" ++ p.type ++ ", " ++ p.type ++ "> valueSelector)")
    [.line (p.name ++ " = valueSelector(" ++ p.name ++ ");"), .line "return this;"]]

/-- The fluent setters of all properties; nothing without properties. -/
def allBuilderWiths : List Piece :=
  if e.properties.isEmpty then []
  else
    [.region (".WithXXX() methods on " ++ e.builder)
      (Piece.separated (e.properties.map e.builderWiths))]

/-! ### Building -/

/-- The method that builds the entity. -/
def toImmutable : List Piece :=
  Piece.summary ["Create an immutable instance of " ++ e.nameForXml ++ "."] ++
  Piece.remarks
    ["Returns the original when nothing changed in the builder, or when the changes",
      "amount to the original values. Repeated calls without changes return the same instance.",
      notThreadSafe "THIS METHOD"] ++
  e.pass.pureMark ++
  [.braces ("public " ++ e.newModifier ++ e.name ++ " ToImmutable()") (e.body toImmutableBody)]

/-- What stands in the place of that method in the builder of an abstract entity. -/
def noToImmutable : List Piece :=
  [.line ("// Since " ++ e.name ++ " is abstract, there is no .ToImmutable():"),
    .line "// it is implemented by the builders of derived classes."]

/-! ### The class -/

/-- The property that the examples in the documentation use. -/
def exampleProperty : String :=
  (e.properties.head?.map (·.name)).getD (e.definition.name ++ "Property")

def builderDocumentation : List Piece :=
  let x := e.nameForXml
  let instanceName := "my" ++ e.definition.name ++ "Instance"
  let first := e.exampleProperty
  Piece.summary ["Stateful builder to construct immutable instance(s) of " ++ x ++ "."] ++
  Piece.remarks
    ["This builder is mutable. Change its properties directly or with the",
      ".WithXXX() methods. It can still be changed after `.ToImmutable()`:",
      "the next call simply builds a new version from the current state.",
      notThreadSafe "THE BUILDER"] ++
  Piece.element "example"
    [x ++ ".Builder b = " ++ instanceName ++ ".With" ++ first ++ "([" ++ first ++ " value]);",
      x ++ " " ++ instanceName ++ " = new " ++ x ++ ".Builder \x7b " ++ first ++ " = [" ++ first ++
        " value], ... \x7d;"]

/-- What the builder derives from. -/
def builderBases : List String :=
  e.base.builderBase?.toList ++
    (if e.isAbstract then [] else ["global::Uno.IImmutableBuilder<" ++ e.name ++ ">"])

def builderHeader : String :=
  e.definition.accessibility.modifiers ++ " " ++ (if e.isAbstract then "abstract " else "") ++
    e.newModifier ++ "partial class Builder" ++
    (if e.builderBases.isEmpty then "" else " : " ++ Text.join ", " e.builderBases)

/-- The nested class. -/
def builderClass : List Piece :=
  e.builderDocumentation ++
  [.braces e.builderHeader
    (Piece.separated
      ([e.builderConstructors] ++ e.properties.map e.builderProperty ++
        [if e.isAbstract then e.noToImmutable else e.toImmutable, e.allBuilderWiths]))]

/-! ### Optional entities -/

/-- The part of the builder that deals with optional entities: a builder made from none gives
none as long as nothing is set. -/
def optionRegion : List Piece :=
  let new := e.newModifier
  [.region ("Uno.Option<" ++ e.name ++ ">'s specific code")
    [.line ("public static readonly " ++ new ++ e.option ++ " None = global::Uno.Option.None<" ++
        e.name ++ ">();"),
      .blank,
      .braces "partial class Builder"
        ([.line "// Set by FromOption(None). Any setter, base levels included, marks the",
          .line "// builder dirty, which turns the result back into Some.",
          .line "private bool _isNone;",
          .blank,
          .braces ("public static " ++ new ++ "Builder FromOption(" ++ e.option ++ " original)")
            (e.body fromOptionBody),
          .blank] ++
        Piece.summary
          ["Get an Option&lt;" ++ e.nameForXml ++ "&gt; for the current state of the builder"] ++
        Piece.remarks
          ["Will return " ++ e.nameForXml ++ ".None or Option.Some(ToImmutable());"] ++
        e.pass.pureMark ++
        [.braces ("public " ++ new ++ e.option ++ " ToOptionImmutable()") (e.body toOptionBody),
          .blank,
          .line ("// Implicit cast from Option<" ++ e.name ++ "> to Builder"),
          .braces ("public static implicit operator Builder(" ++ e.option ++ " original)")
            [.line "return Builder.FromOption(original);"],
          .blank,
          .line ("// Implicit cast from Builder to Option<" ++ e.name ++ ">"),
          .braces ("public static implicit operator " ++ e.option ++ "(Builder builder)")
            [.line "return builder.ToOptionImmutable();"]])]]

end Companion.Entity
