import Companion.Compilation.Immutability
import Companion.Pattern

/-!
# Configuration

What a program asks for is configured on two levels. The attributes of the assembly give
defaults and are resolved once, into a `Config`; attributes of a type are consulted where they
matter and fall back on those defaults. Some features are on only if the library that supports
them is part of the compilation.
-/

namespace Companion

/-- A copy-ignore pattern that cannot be read, and the explanation of the engine. -/
structure ConfigError where
  pattern : String
  explanation : String
deriving Repr, DecidableEq

def ConfigError.message (e : ConfigError) : String :=
  "invalid attribute copy-ignore pattern `" ++ e.pattern ++ "`: " ++ e.explanation

/-- Optional libraries that are part of the compilation. -/
structure Capabilities where
  keyEquality : Bool := false
  pureAttribute : Bool := false
  optionType : Bool := false
  jsonNet : Bool := false
deriving Repr, DecidableEq

/-- The libraries that a compilation has. -/
def Capabilities.detect (c : Compilation) : Capabilities where
  keyEquality :=
    c.contains Vocabulary.keyEquatable || c.contains Vocabulary.keyEquatableGeneric
  pureAttribute := c.contains Vocabulary.pureAttribute
  optionType := c.contains Vocabulary.option || c.contains Vocabulary.optionGeneric
  jsonNet := c.contains Vocabulary.jsonConvert

/-! ### Copy-ignore patterns -/

/-- The patterns of attributes that are never copied to builders. -/
def defaultCopyIgnore : List String := ["^Uno\\.Immutable", "^Uno\\.Equality"]

/-- Read patterns; the first one that cannot be read is reported. -/
def compilePatterns (sources : List String) (engine : PatternEngine) :
    Except ConfigError (List Pattern) :=
  sources.mapM fun source => (Pattern.ofSource engine source).mapError (⟨source, ·⟩)

/-- The written patterns that copy-ignore attributes give as their first argument. -/
def copyIgnoreSources (attributes : List Attribute) : List String :=
  (attributes.filter (·.className == Vocabulary.immutableCopyIgnore)).filterMap fun a =>
    a.arguments[0]?.bind (·.asString?)

/-- The patterns that copy-ignore attributes give. -/
def copyIgnorePatterns (attributes : List Attribute) (engine : PatternEngine := Regex.engine) :
    Except ConfigError (List Pattern) :=
  compilePatterns (copyIgnoreSources attributes) engine

/-! ### The configuration of a compilation -/

/-- The configuration of a compilation. -/
structure Config where
  immutable : ImmutableOptions := {}
  capabilities : Capabilities := {}
  rules : ImmutabilityRules := {}
  /-- Patterns of attributes that are not copied, the default ones first. -/
  copyIgnore : List Pattern := []
  /-- What reads the patterns that types and properties add. -/
  engine : PatternEngine

/-- The names of the definitions that an assembly declares immutable. -/
def declaredImmutable (attributes : List Attribute) : List String :=
  ((attributes.filter (·.className == Vocabulary.treatAsImmutable)).filterMap fun a =>
    (a.arguments[0]?.bind (·.asType?)).bind (·.definitionName?)).eraseDups

namespace Config

/-- Resolve the configuration, for an engine that reads its patterns. It fails if the assembly gives
a pattern that cannot be read. -/
def resolve (c : Compilation) (engine : PatternEngine := Regex.engine) :
    Except ConfigError Config := do
  let attributes := c.assembly.attributes
  let immutable :=
    ImmutableOptions.ofAttribute (findAttribute? attributes Vocabulary.immutableGenerationOptions)
  let copyIgnore ← compilePatterns (defaultCopyIgnore ++ copyIgnoreSources attributes) engine
  return {
    immutable
    capabilities := Capabilities.detect c
    rules := {
      treatsArraysAsImmutable := immutable.treatArrayAsImmutable
      allowList := declaredImmutable attributes }
    copyIgnore
    engine }

/-- Whether an immutable type gets equality too: as its attribute says, else by default. -/
def generatesEquality (config : Config) (c : Compilation) (d : TypeDef) : Bool :=
  ((c.findFlattened? d Vocabulary.generatedImmutable).bind fun a =>
    (a.named? "GenerateEquality").bind (·.asBool?)).getD
      config.immutable.generateEqualityByDefault

/-- Whether an immutable type gets code for optional values. -/
def generatesOptionCode (config : Config) (d : TypeDef) : Bool :=
  config.capabilities.optionType && config.immutable.generateOptionCode && !d.isAbstract

/-- Whether an immutable type gets a converter for documents. -/
def generatesJsonConverter (config : Config) (d : TypeDef) : Bool :=
  config.capabilities.jsonNet && config.immutable.generateJsonConverters && !d.isAbstract

end Config

end Companion
