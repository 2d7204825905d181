import Companion.Diagnostic.Code

/-!
# Documentation of the codes

For each code a short text in Markdown: what is wrong, an example, and how to mend it.
-/

namespace Companion.DiagnosticCode

/-- The documentation of a code, line by line. -/
def documentation : DiagnosticCode → List String
  | wellKnownTypeMissing =>
    ["# K0001: Required well-known type is missing",
      "",
      "The compilation does not define one of the types every generator relies on",
      "(`System.Object`, `System.ValueType`, the primitive types, `System.String`,",
      "`System.Enum`, `System.Array`, `System.Collections.ICollection`,",
      "`System.IEquatable<T>`).",
      "",
      "This is fatal: no code is generated for the assembly.",
      "",
      "## Fix",
      "",
      "Keep `include_core_library` enabled in the program model, or make sure the",
      "front end serializes the core library types it references.",
      ""]
  | copyIgnoreInvalid =>
    ["# K0002: Invalid copy-ignore pattern",
      "",
      "An `[ImmutableAttributeCopyIgnore]` pattern is not a valid regular expression.",
      "",
      "On the assembly the error is fatal for the pass. On a type or a property it",
      "is embedded as `#error` in that type's generated unit.",
      "",
      "```csharp",
      "[assembly: ImmutableAttributeCopyIgnore(\"(unclosed\")]",
      "```",
      "",
      "## Fix",
      "",
      "Escape regex metacharacters, e.g. `^System\\.ComponentModel\\.`.",
      ""]
  | modelUnusable =>
    ["# K0003: Program model could not be loaded",
      "",
      "The JSON program model is malformed or declares the same type twice.",
      "",
      "## Fix",
      "",
      "Regenerate the model from the front end. Every type must have a unique",
      "metadata name (`Namespace.Name`, plus `` `N `` for generic arity).",
      ""]
  | equalityNotPartial =>
    ["# K1001: Equality target is not partial",
      "",
      "Generated equality members are emitted into a second `partial` declaration",
      "of the type. Without the `partial` modifier the two declarations conflict.",
      "",
      "```csharp",
      "[GeneratedEquality]",
      "public class Point \x7b \x7d          // warning K1001",
      "```",
      "",
      "## Fix",
      "",
      "```csharp",
      "[GeneratedEquality]",
      "public partial class Point \x7b \x7d",
      "```",
      ""]
  | baseEqualsMissing =>
    ["# K1002: Base type does not override Equals",
      "",
      "The type derives from a class that neither overrides `Equals(object)` nor is",
      "itself generated. The generated `Equals` ends with `base.Equals(other)`, which",
      "then falls back to reference equality.",
      "",
      "## Fix",
      "",
      "Mark the base `[GeneratedEquality]` (or `[GeneratedImmutable]`), or override",
      "`Equals` on it.",
      ""]
  | baseHashMissing =>
    ["# K1003: Base type does not override GetHashCode",
      "",
      "Same as K1002 for `GetHashCode()`. The generated hash seeds from",
      "`base.GetHashCode()`, which is then identity based, so two equal instances",
      "can hash differently.",
      "",
      "## Fix",
      "",
      "Mark the base `[GeneratedEquality]`, or override `GetHashCode` on it.",
      ""]
  | noEqualityMembers =>
    ["# K1004: No members used for equality",
      "",
      "No field or property takes part in equality and there is no base to chain",
      "to. Every two instances of the type compare equal.",
      "",
      "## Fix",
      "",
      "Remove `[EqualityIgnore]` from the members that define the value, or",
      "declare some.",
      ""]
  | noHashMembers =>
    ["# K1005: No members used for hashing",
      "",
      "No member is marked `[EqualityHash]` or `[EqualityKey]` and there is no base",
      "hash to combine. The generated `GetHashCode()` returns `0`.",
      "",
      "## Fix",
      "",
      "```csharp",
      "[EqualityHash]",
      "public string Id \x7b get; \x7d",
      "```",
      ""]
  | keyEqualityUnavailable =>
    ["# K1006: Key equality is not available",
      "",
      "The type has `[EqualityKey]` members, or a base implementing",
      "`IKeyEquatable`, but `Uno.Equality.IKeyEquatable` is not referenced by the",
      "compilation. Key equality members are not generated.",
      "",
      "## Fix",
      "",
      "Reference the `Uno.Core` package.",
      ""]
  | memberUnhashable =>
    ["# K1007: Member type does not implement GetHashCode",
      "",
      "A hash member's type neither overrides `GetHashCode()` nor has generated",
      "equality, so hashing it would use reference identity. The member is skipped",
      "in the hash computation.",
      "",
      "## Fix",
      "",
      "Provide `private static int GetHash_<Member>(<Type> value)` on the type, a",
      "`<Member>_CustomComparer`, or implement `GetHashCode` on the member type.",
      ""]
  | immutableNotPartial =>
    ["# K2001: Immutable target is not partial",
      "",
      "The builder and the generated constructors are emitted into a second",
      "`partial` declaration.",
      "",
      "## Fix",
      "",
      "Add the `partial` modifier.",
      ""]
  | immutableNotClass =>
    ["# K2002: Immutable type must be a class",
      "",
      "`[GeneratedImmutable]` was applied to a struct. Builders cache and return",
      "the original instance by reference, which only works for classes.",
      "",
      "## Fix",
      "",
      "Declare the type as a `class`.",
      ""]
  | baseBuilderMissing =>
    ["# K2003: Base builder cannot be resolved",
      "",
      "The base type is immutable but its builder cannot be found: it is not",
      "generated in this compilation and carries no",
      "`[ImmutableBuilder(typeof(...))]` attribute.",
      "",
      "## Fix",
      "",
      "Add `[ImmutableBuilder(typeof(Base.Builder))]` to the externally compiled",
      "base, or generate the base in the same compilation.",
      ""]
  | propertyHasSetter =>
    ["# K2004: Property has a setter",
      "",
      "Immutable entities expose get-only auto-properties. Changes go through the",
      "generated `Builder`.",
      "",
      "```csharp",
      "public string Name \x7b get; set; \x7d   // error K2004",
      "public string Name \x7b get; \x7d        // ok",
      "```",
      ""]
  | fieldNotReadonly =>
    ["# K2005: Field is not readonly",
      "",
      "Instance fields of an immutable entity must be `readonly`. Their type must",
      "still be immutable (see K2006).",
      ""]
  | memberNotImmutable =>
    ["# K2006: Member type is not immutable",
      "",
      "The type of a property or readonly field is not known to be immutable.",
      "Immutable types are primitives, strings, enums, well-known read-only",
      "collections of immutable elements, and types marked `[Immutable]` or",
      "`[GeneratedImmutable]`.",
      "",
      "Arrays are accepted only with",
      "`[assembly: ImmutableGenerationOptions(TreatArrayAsImmutable = true)]`.",
      "",
      "## Fix",
      "",
      "Use an immutable type, or declare an external type immutable with",
      "`[assembly: TreatAsImmutable(typeof(Money))]`.",
      ""]
  | parameterNotImmutable =>
    ["# K2007: Generic parameter is not constrained to an immutable type",
      "",
      "A property typed by a generic parameter is only immutable when one of the",
      "parameter's constraints is.",
      "",
      "```csharp",
      "public partial class Box<T> \x7b public T Value \x7b get; \x7d \x7d               // K2007",
      "public partial class Box<T> where T : IImmutableThing \x7b ... \x7d          // ok",
      "```",
      ""]
  | memberIsBuilder =>
    ["# K2008: Member type is a builder",
      "",
      "A property or field of an immutable entity is typed as a builder (a type",
      "carrying `[ImmutableBuilder]`). Builders are mutable, so an entity must hold",
      "the immutable type instead.",
      "",
      "```csharp",
      "public Person.Builder Owner \x7b get; \x7d   // error K2008",
      "public Person Owner \x7b get; \x7d           // ok",
      "```",
      ""]
  | indexerUnsupported =>
    ["# K2009: Indexers are not supported",
      "",
      "Immutable entities cannot declare indexers; a builder has no way to stage a",
      "change to one.",
      ""]
  | baseNotImmutable =>
    ["# K2010: Base type is not immutable",
      "",
      "An immutable type may only derive from `object` or from another immutable",
      "type (generated, or marked `[Immutable]`).",
      ""]
  | lifecycleNotPartial =>
    ["# K3001: Lifecycle target is not partial",
      "",
      "`Initialize`, `Dispose` and the finalizer are emitted into a second `partial`",
      "declaration of the class.",
      "",
      "## Fix",
      "",
      "Add the `partial` modifier.",
      ""]
  | constructorConflict =>
    ["# K3002: Constructor methods disagree on a parameter",
      "",
      "Parameters of every `[ConstructorMethod]` in a class are merged by name into",
      "one `Initialize(...)`. Two methods use the same parameter name with a",
      "different type or default value.",
      "",
      "```csharp",
      "[ConstructorMethod] void InitA(int size) \x7b \x7d",
      "[ConstructorMethod] void InitB(long size) \x7b \x7d    // error K3002",
      "```",
      ""]
  | lifecycleSignature =>
    ["# K3003: Dispose or finalizer method has a wrong signature",
      "",
      "`[DisposeMethod]` and `[FinalizerMethod]` methods are called without",
      "arguments and their result is discarded, so they must take no parameters",
      "and return `void`.",
      "",
      "```csharp",
      "[DisposeMethod]",
      "private void Release(bool force) \x7b \x7d // error: parameters are not supported",
      "",
      "[DisposeMethod]",
      "private void Release() \x7b \x7d           // ok",
      "```",
      ""]
  | lifecycleStatic =>
    ["# K3004: Lifecycle method is static",
      "",
      "Lifecycle methods run against an instance. Remove the `static` modifier.",
      ""]
  | disposeNotOverridable =>
    ["# K3005: Base Dispose cannot be overridden",
      "",
      "A class with `[DisposeMethod]` methods derives from a type whose",
      "`Dispose()` is neither virtual nor part of the `Dispose(bool)` pattern.",
      "The generated code has no way to run the dispose methods when the",
      "object is disposed through the base type.",
      "",
      "Make the base `Dispose()` virtual, implement the dispose pattern with a",
      "`protected virtual void Dispose(bool disposing)` on the base, or derive",
      "from a type that does.",
      ""]

/-- The documentation as a text. -/
def documentationText (c : DiagnosticCode) : String := Text.join "\n" c.documentation

end Companion.DiagnosticCode
