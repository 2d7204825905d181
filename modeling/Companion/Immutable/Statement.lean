import Companion.Layout
import Companion.Model.Names

/-!
# Statements of a builder

The bodies of the members that hold a builder's state are written in a small language of their
own: reading the current and the initial value of a property, setting and clearing an override,
and keeping the built entity. `BuilderStatement.code` writes a statement as source code.

A builder keeps, besides the entity it started from, for each property a value and a flag that
tells whether it overrides the initial one; further whether it is dirty, and the entity it
built last.
-/

namespace Companion

/-- A property of a builder. -/
structure BuilderProperty where
  name : String
  /-- The type as written in code. -/
  type : String
  /-- Whether it hides a property of a base builder. -/
  isNew : Bool := false
  /-- The lines of the attributes repeated on it. -/
  attributes : List String := []
deriving Repr, DecidableEq

/-- A value that a builder's member reads. -/
inductive BuilderValue where
  /-- The value set last. -/
  | stored (p : BuilderProperty)
  /-- The value of the entity the builder started from. -/
  | initial (p : BuilderProperty)
  /-- One value if the property is overridden, the other one if not. -/
  | ifOverridden (p : BuilderProperty) (yes no : BuilderValue)
deriving Repr, DecidableEq

/-- What a branch in a builder's member depends on. -/
inductive BuilderTest where
  /-- Whether the new value was found to be the initial one. -/
  | isSameAsInitial
  /-- Whether an entity was built since the last change. -/
  | isCached
  | isDirty
  /-- Whether the entity just built differs from the initial one. -/
  | isChanged
  /-- Whether an optional entity holds one. -/
  | isSome
deriving Repr, DecidableEq

/-- A statement in the body of a builder's member, or of the entity's constructor that takes a
builder. -/
inductive BuilderStatement where
  | comment (text : String)
  | blank
  /-- Start from the given entity, or from the default one if none is given. -/
  | adoptGiven
  /-- Start from the given entity, which must be one. -/
  | adoptRequired
  | adoptDefault
  | readInitial (p : BuilderProperty)
  /-- Find out whether the new value is the initial one. -/
  | compareWithInitial (p : BuilderProperty)
  | override (p : BuilderProperty)
  | clearOverride (p : BuilderProperty)
  | store (p : BuilderProperty)
  /-- Give up the stored value. -/
  | release (p : BuilderProperty)
  | markDirty
  | dropCached
  | readCached
  | returnCached
  /-- Construct an entity from the current values. -/
  | build
  /-- Return the entity just built, and keep it. -/
  | returnBuilt
  /-- Return the entity the builder started from, and keep it. -/
  | returnInitial
  /-- Return a builder that starts from the entity an option holds. -/
  | returnBuilderOfSome
  /-- Return a builder that starts from no entity. -/
  | returnBuilderOfNone
  /-- Return no entity if the builder started from none and is clean, else the built one. -/
  | returnOption
  /-- Refuse to construct an entity without a builder. -/
  | requireBuilder
  /-- Take the value of a property over into the entity. -/
  | take (p : BuilderProperty)
  | branch (test : BuilderTest) (yes no : List BuilderStatement)
deriving Repr

/-- The name of the local that holds the entity just built. -/
def TypeDef.builtName (d : TypeDef) : String := "new" ++ d.name

/-- A value as source code, in the builder of an entity. -/
def BuilderValue.code (d : TypeDef) : BuilderValue → String
  | stored p => "_" ++ p.name
  | initial p => "((" ++ d.nameWithGenerics ++ ")_original)." ++ p.name
  | ifOverridden p yes no => "_is" ++ p.name ++ "Set ? " ++ code d yes ++ " : " ++ code d no

def BuilderTest.code (d : TypeDef) : BuilderTest → String
  | isSameAsInitial => "isSameAsOriginal"
  | isCached => "!ReferenceEquals(cachedResult, null)"
  | isDirty => "_isDirty"
  | isChanged => "!Equals(" ++ d.builtName ++ ", _original)"
  | isSome => "original.MatchSome(out var o)"

namespace BuilderStatement

/-- The text of a statement of one line, in the builder of an entity. -/
def text (d : TypeDef) : BuilderStatement → String
  | comment s => "// " ++ s
  | blank | branch .. => ""
  | adoptGiven => "_original = original ?? " ++ d.nameWithGenerics ++ ".Default;"
  | adoptRequired =>
    "_original = original ?? throw new global::System.ArgumentNullException(nameof(original));"
  | adoptDefault => "_original = " ++ d.nameWithGenerics ++ ".Default;"
  | readInitial p => "var originalValue = " ++ (BuilderValue.initial p).code d ++ ";"
  | compareWithInitial p =>
    "var isSameAsOriginal = global::System.Collections.Generic.EqualityComparer<" ++ p.type ++
      ">.Default.Equals(originalValue, value);"
  | override p => "_is" ++ p.name ++ "Set = true;"
  | clearOverride p => "_is" ++ p.name ++ "Set = false;"
  | store p => "_" ++ p.name ++ " = value;"
  | release p =>
    "_" ++ p.name ++ " = default(" ++ p.type ++
      "); // dereference to prevent any leak (when it's a reference type)"
  | markDirty => "_isDirty = true;"
  | dropCached => "_cachedResult = null;"
  | readCached => "var cachedResult = _cachedResult as " ++ d.nameWithGenerics ++ ";"
  | returnCached => "return cachedResult; // already computed, no need to redo this."
  | build => "var " ++ d.builtName ++ " = new " ++ d.nameWithGenerics ++ "(this);"
  | returnBuilt => "return (" ++ d.nameWithGenerics ++ ")(_cachedResult = " ++ d.builtName ++ ");"
  | returnInitial => "return (" ++ d.nameWithGenerics ++ ")(_cachedResult = _original);"
  | returnBuilderOfSome => "return new Builder(o);"
  | returnBuilderOfNone => "return new Builder() \x7b _isNone = true \x7d;"
  | returnOption =>
    "return _isNone && !_isDirty ? " ++ d.nameWithGenerics ++
      ".None : global::Uno.Option.Some(ToImmutable());"
  | requireBuilder =>
    "if (builder == null) throw new global::System.ArgumentNullException(nameof(builder));"
  | take p => p.name ++ " = builder." ++ p.name ++ ";"

mutual

/-- A statement as source code, in the builder of an entity. -/
def code (d : TypeDef) : BuilderStatement → List Piece
  | branch test yes no =>
    .braces ("if (" ++ test.code d ++ ")") (codeAll d yes) ::
      if no.isEmpty then [] else [.braces "else" (codeAll d no)]
  | statement => [.line (statement.text d)]

/-- Statements as source code. -/
def codeAll (d : TypeDef) : List BuilderStatement → List Piece
  | [] => []
  | s :: ss => code d s ++ codeAll d ss

end

end BuilderStatement

/-! ### The members of a builder -/

namespace BuilderProperty

/-- What the property reads as. -/
def getter (p : BuilderProperty) : BuilderValue := .ifOverridden p (.stored p) (.initial p)

/-- What happens when the property is set: a value that differs from the initial one overrides it,
and the initial value clears the override. -/
def setter (p : BuilderProperty) : List BuilderStatement :=
  [.readInitial p,
    .compareWithInitial p,
    .branch .isSameAsInitial
      [.comment ("Property " ++ p.name ++ " has been set back to original value"),
        .clearOverride p,
        .release p]
      [.override p, .store p, .markDirty],
    .dropCached]

end BuilderProperty

/-- How a builder builds its entity: the entity built last, if nothing changed since; else a new
one, if it differs from the initial one; else the initial one. -/
def toImmutableBody : List BuilderStatement :=
  [.readCached,
    .branch .isCached [.returnCached] [],
    .blank,
    .branch .isDirty [.build, .branch .isChanged [.returnBuilt] []] [],
    .returnInitial]

/-- How a builder is made from an optional entity. -/
def fromOptionBody : List BuilderStatement :=
  [.branch .isSome [.returnBuilderOfSome] [], .returnBuilderOfNone]

/-- How a builder gives an optional entity. -/
def toOptionBody : List BuilderStatement := [.returnOption]

/-- How an entity is constructed from a builder with the given properties. -/
def entityConstructorBody (properties : List BuilderProperty) : List BuilderStatement :=
  .requireBuilder :: properties.map .take

end Companion
