import Companion.Text

/-!
# Codes of problems

Every problem that is reported has a code: a `K` and four digits, the first of which names the
part of the program that reports it.
-/

namespace Companion

/-- The part of the program that reports a problem. -/
inductive Phase where
  | model
  | equality
  | immutable
  | lifecycle
deriving Repr, DecidableEq

/-- What kind of problem is reported. -/
inductive DiagnosticCode where
  /-- A type every generator relies on is missing. -/
  | wellKnownTypeMissing
  /-- A copy-ignore pattern cannot be read. -/
  | copyIgnoreInvalid
  /-- The program cannot be loaded. -/
  | modelUnusable
  /-- An equality target is not declared partial. -/
  | equalityNotPartial
  /-- The base type does not override `Equals`. -/
  | baseEqualsMissing
  /-- The base type does not override `GetHashCode`. -/
  | baseHashMissing
  /-- No member takes part in equality. -/
  | noEqualityMembers
  /-- No member takes part in hashing. -/
  | noHashMembers
  /-- Key equality is asked for and its library is missing. -/
  | keyEqualityUnavailable
  /-- The type of a member has no hash of its own. -/
  | memberUnhashable
  /-- An immutable target is not declared partial. -/
  | immutableNotPartial
  /-- An immutable target is no class. -/
  | immutableNotClass
  /-- The builder of the base type cannot be found. -/
  | baseBuilderMissing
  /-- A property has a setter. -/
  | propertyHasSetter
  /-- An instance field is not read-only. -/
  | fieldNotReadonly
  /-- The type of a member is not immutable. -/
  | memberNotImmutable
  /-- A type parameter is not constrained to an immutable type. -/
  | parameterNotImmutable
  /-- The type of a member is a builder. -/
  | memberIsBuilder
  /-- A property is an indexer. -/
  | indexerUnsupported
  /-- The base type is not immutable. -/
  | baseNotImmutable
  /-- A lifecycle target is not declared partial. -/
  | lifecycleNotPartial
  /-- Constructor methods disagree on a parameter they share. -/
  | constructorConflict
  /-- A dispose or finalizer method takes parameters or returns a value. -/
  | lifecycleSignature
  /-- A lifecycle method is static. -/
  | lifecycleStatic
  /-- The `Dispose` of the base type cannot be overridden. -/
  | disposeNotOverridable
deriving Repr, DecidableEq

namespace DiagnosticCode

/-- All codes, in order. -/
def all : List DiagnosticCode :=
  [.wellKnownTypeMissing, .copyIgnoreInvalid, .modelUnusable, .equalityNotPartial,
    .baseEqualsMissing, .baseHashMissing, .noEqualityMembers, .noHashMembers,
    .keyEqualityUnavailable, .memberUnhashable, .immutableNotPartial, .immutableNotClass,
    .baseBuilderMissing, .propertyHasSetter, .fieldNotReadonly, .memberNotImmutable,
    .parameterNotImmutable, .memberIsBuilder, .indexerUnsupported, .baseNotImmutable,
    .lifecycleNotPartial, .constructorConflict, .lifecycleSignature, .lifecycleStatic,
    .disposeNotOverridable]

/-- The code as it is written. -/
def text : DiagnosticCode → String
  | wellKnownTypeMissing => "K0001"
  | copyIgnoreInvalid => "K0002"
  | modelUnusable => "K0003"
  | equalityNotPartial => "K1001"
  | baseEqualsMissing => "K1002"
  | baseHashMissing => "K1003"
  | noEqualityMembers => "K1004"
  | noHashMembers => "K1005"
  | keyEqualityUnavailable => "K1006"
  | memberUnhashable => "K1007"
  | immutableNotPartial => "K2001"
  | immutableNotClass => "K2002"
  | baseBuilderMissing => "K2003"
  | propertyHasSetter => "K2004"
  | fieldNotReadonly => "K2005"
  | memberNotImmutable => "K2006"
  | parameterNotImmutable => "K2007"
  | memberIsBuilder => "K2008"
  | indexerUnsupported => "K2009"
  | baseNotImmutable => "K2010"
  | lifecycleNotPartial => "K3001"
  | constructorConflict => "K3002"
  | lifecycleSignature => "K3003"
  | lifecycleStatic => "K3004"
  | disposeNotOverridable => "K3005"

/-- The problem in a few words. -/
def summary : DiagnosticCode → String
  | wellKnownTypeMissing => "required well-known type is missing"
  | copyIgnoreInvalid => "invalid copy-ignore pattern"
  | modelUnusable => "program model could not be loaded"
  | equalityNotPartial => "type is not partial"
  | baseEqualsMissing => "base type does not override Equals"
  | baseHashMissing => "base type does not override GetHashCode"
  | noEqualityMembers => "no members used for equality"
  | noHashMembers => "no members used for hashing"
  | keyEqualityUnavailable => "key equality support is not referenced"
  | memberUnhashable => "member type does not implement GetHashCode"
  | immutableNotPartial => "type is not partial"
  | immutableNotClass => "immutable type must be a class"
  | baseBuilderMissing => "base builder cannot be resolved"
  | propertyHasSetter => "property has a setter"
  | fieldNotReadonly => "field is not readonly"
  | memberNotImmutable => "member type is not immutable"
  | parameterNotImmutable => "generic parameter is not constrained to an immutable type"
  | memberIsBuilder => "member type is a builder"
  | indexerUnsupported => "indexers are not supported"
  | baseNotImmutable => "base type is not immutable"
  | lifecycleNotPartial => "type is not partial"
  | constructorConflict => "constructor methods disagree on a parameter"
  | lifecycleSignature => "dispose or finalizer method has a wrong signature"
  | lifecycleStatic => "lifecycle method is static"
  | disposeNotOverridable => "base Dispose cannot be overridden"

/-- The part of the program that reports the problem. -/
def phase : DiagnosticCode → Phase
  | wellKnownTypeMissing | copyIgnoreInvalid | modelUnusable => .model
  | equalityNotPartial | baseEqualsMissing | baseHashMissing | noEqualityMembers
  | noHashMembers | keyEqualityUnavailable | memberUnhashable => .equality
  | immutableNotPartial | immutableNotClass | baseBuilderMissing | propertyHasSetter
  | fieldNotReadonly | memberNotImmutable | parameterNotImmutable | memberIsBuilder
  | indexerUnsupported | baseNotImmutable => .immutable
  | lifecycleNotPartial | constructorConflict | lifecycleSignature | lifecycleStatic
  | disposeNotOverridable => .lifecycle

/-- Read a code, in upper or lower case. -/
def ofText? (s : String) : Option DiagnosticCode := all.find? (·.text == s.toUpper)

/-- The written form of a code is read back as the code. -/
theorem ofText?_text (c : DiagnosticCode) : ofText? c.text = some c := by
  cases c <;> decide +kernel

end DiagnosticCode

end Companion
