import Companion.Equality.Base

/-!
# Comparing members

Generated equality compares one member after the other. How a member is compared follows from
its type: a comparer that the type declares for it comes first, then dictionaries, collections,
texts, scalars and enumerations, key equality, and last the default comparer of the type.

`Comparison.choose` makes the choice, `Comparison.condition` writes the condition that holds
when the values differ, and `Comparison.hints` the comments in front of it, which tell how the
choice can be changed.
-/

namespace Companion

/-- How a member is compared. -/
inductive Comparison where
  /-- By a comparer that the type declares for the member. -/
  | custom (comparer : CustomMember)
  | dictionary (shape : DictionaryShape)
  /-- Element by element; `isDeclared` tells whether an option of the member decides on the
  order. -/
  | collection (shape : CollectionShape) (isSorted isDeclared : Bool)
  | text (mode : StringMode)
  /-- By the operator of a scalar or an enumeration. -/
  | operator
  | byKey (mayBeNull : Bool)
  /-- By the default comparer of the type. -/
  | standard
deriving Repr, DecidableEq

namespace Compilation

variable (c : Compilation)

/-- Whether a value of the type can be null where the parameters are in scope. A parameter can,
unless it is constrained to structures. -/
def mayBeNull (scope : List TypeParameter) : TypeRef → Bool
  | .parameter name => !scope.any fun p => p.name == name && p.isValueType
  | t => c.isReferenceType t

/-- How a member of a type is compared. -/
def comparison (d : TypeDef) (m : EqualityMember) : Comparison :=
  match c.customComparer? d m.name with
  | some comparer => .custom comparer
  | none =>
    match c.dictionaryShape? m.type with
    | some shape => .dictionary shape
    | none =>
      match c.collectionShape? m.type with
      | some shape =>
        match m.options.collection with
        | some mode => .collection shape mode.sorted true
        | none => .collection shape shape.isPositional false
      | none =>
        match c.special? m.type with
        | some .string => .text m.options.string
        | special =>
          if special.any (·.isScalar) || c.isEnum m.type then .operator
          else if m.usesKeyEquality then .byKey (c.mayBeNull d.typeParameters m.type)
          else .standard

end Compilation

namespace Comparison

/-- The comments in front of a comparison that a custom comparer could replace. -/
def customComparerHint (name type : String) : List String :=
  ["// **" ++ name ++ "** A custom comparer declared for " ++ name ++ " would be used instead:",
    "// CUSTOM COMPARER>> private static IEqualityComparer<" ++ type ++ "> " ++ name ++
      "_CustomComparer => <custom comparer>;",
    "// To leave " ++ name ++ " out of the equality check, put [Uno.EqualityIgnore] on it."]

/-- The comments in front of the comparison of a member. -/
def hints (comparison : Comparison) (m : EqualityMember) : List String :=
  match comparison with
  | custom comparer =>
    ["// **" ++ m.name ++ "** using custom comparer provided by `" ++ comparer.name ++ "`" ++
      ((comparer.location.map fun l => " declared at " ++ l.display).getD "")]
  | dictionary _ => []
  | collection _ isSorted isDeclared =>
    if isSorted && !isDeclared then
      ["// **" ++ m.name ++ "** To use an _unsorted_ comparer, add the following attribute to " ++
          "your member:",
        "// [EqualityComparerOptions(CollectionMode = CollectionComparerMode.Unsorted)]"]
    else []
  | text mode =>
    customComparerHint m.name m.type.display ++
      if mode == {} then
        ["// STRING>> String comparison can be tuned with this attribute on the member:",
          "//   [EqualityComparerOptions(StringMode = <flags>)]",
          "//   Flags: StringComparerMode.IgnoreCase and StringComparerMode.EmptyEqualsNull"]
      else []
  | operator | byKey _ | standard => customComparerHint m.name m.type.display

/-- The comparer of texts. -/
def textComparer (mode : StringMode) : String :=
  "global::System.StringComparer." ++ if mode.ignoreCase then "OrdinalIgnoreCase" else "Ordinal"

/-- The condition that the values of a member differ. -/
def condition (comparison : Comparison) (m : EqualityMember) : String :=
  let name := m.name
  let both := "(" ++ name ++ ", other." ++ name ++ ")"
  match comparison with
  | custom comparer => "!" ++ comparer.name ++ ".Equals" ++ both
  | dictionary shape =>
    "!global::Uno.Equality." ++ (if shape.isReadOnly then "Readonly" else "") ++
      "DictionaryEqualityComparer<" ++ m.type.display ++ ", " ++ shape.key.display ++ ", " ++
      shape.value.display ++ ">.Default.Equals" ++ both
  | collection shape isSorted _ =>
    "!global::Uno.Equality." ++ (if isSorted then "Sorted" else "Unsorted") ++
      (if shape.isReadOnly then "Readonly" else "") ++ "CollectionEqualityComparer<" ++
      m.type.display ++ ", " ++ shape.element.display ++ ">.Default.Equals" ++ both
  | text mode =>
    if mode.emptyEqualsNull then
      "(string.IsNullOrWhiteSpace(" ++ name ++ ") != string.IsNullOrWhiteSpace(other." ++ name ++
        ")) || !string.IsNullOrWhiteSpace(" ++ name ++ ") && !" ++ textComparer mode ++
        ".Equals(" ++ name ++ " ?? \"\", other." ++ name ++ " ?? \"\")"
    else "!" ++ textComparer mode ++ ".Equals" ++ both
  | operator => name ++ " != other." ++ name
  | byKey true =>
    "!((global::Uno.Equality.IKeyEquatable)" ++ name ++ ")?.KeyEquals(other." ++ name ++
      ") ?? other." ++ name ++ " != null"
  | byKey false =>
    "!((global::Uno.Equality.IKeyEquatable)" ++ name ++ ").KeyEquals(other." ++ name ++ ")"
  | standard =>
    "!global::System.Collections.Generic.EqualityComparer<" ++ m.type.display ++
      ">.Default.Equals" ++ both

end Comparison

namespace Pass

variable (pass : Pass)

/-- The step that returns when the values of a member differ. -/
def memberComparison (d : TypeDef) (m : EqualityMember) : List Piece :=
  let comparison := pass.compilation.comparison d m
  Piece.blank :: Piece.lines (comparison.hints m) ++
    [.braces ("if (" ++ comparison.condition m ++ ")")
      [.line ("return false; // " ++ m.name ++ " not equal")]]

/-- A body that compares members and then continues with the base type, if there is a call for
that. -/
def comparisonBody (d : TypeDef) (members : List EqualityMember) (baseCall : Option String) :
    List Piece :=
  (if members.isEmpty && baseCall.isNone then
    [.diagnostic (d.problem .equality .warning .noEqualityMembers
      "No fields or properties used for equality check.")]
  else []) ++
  members.flatMap (pass.memberComparison d) ++
  [.line (match baseCall with
    | some call => "return " ++ call ++ "; // no differences found, check with base"
    | none => "return true; // no differences found")]

end Pass

end Companion
