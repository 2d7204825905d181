import Companion.Compilation.Inheritance

/-!
# Immutable types

A type is immutable when it is a scalar, a text or an enumeration, when it carries an
immutability marker, when the rules allow it by name, or when it is a read-only wrapper of
immutable types. A tuple is immutable when all its elements are, a parameter when one of its
constraints is, and an array never, unless the rules take arrays for immutable.

Constraints may refer to each other in a circle, so the check keeps a record of the references
it has met. A reference that is met again while it is still being checked counts as
immutable.
-/

namespace Companion

/-- What a program takes for immutable beyond the built-in rules. -/
structure ImmutabilityRules where
  treatsArraysAsImmutable : Bool := false
  /-- The metadata names of definitions declared immutable. -/
  allowList : List String := []
deriving Repr, DecidableEq

/-- Whether the rules allow a reference by the name of its definition. -/
def ImmutabilityRules.allows (rules : ImmutabilityRules) (t : TypeRef) : Bool :=
  t.definitionName?.any (rules.allowList.contains ·)

/-- Framework types that are immutable whatever their arguments. -/
def immutableLeaves : List String :=
  ["System.Attribute", "System.DateTime", "System.DateTimeOffset", "System.TimeSpan",
    "System.Type", "System.Uri", "System.Version", "System.Guid"]

/-- Framework types that are immutable when all their arguments are. -/
def immutableWrappers : List String :=
  ["System.Collections.Generic.IReadOnlyList`1",
    "System.Collections.Generic.IReadOnlyCollection`1",
    "System.Nullable`1",
    "System.Tuple`1",
    "System.Tuple`2",
    "System.Tuple`3",
    "System.Collections.Immutable.IImmutableList`1",
    "System.Collections.Immutable.IImmutableQueue`1",
    "System.Collections.Immutable.IImmutableSet`1",
    "System.Collections.Immutable.IImmutableStack`1",
    "System.Collections.Immutable.ImmutableArray`1",
    "System.Collections.Immutable.ImmutableHashSet`1",
    "System.Collections.Immutable.ImmutableList`1",
    "System.Collections.Immutable.ImmutableQueue`1",
    "System.Collections.Immutable.ImmutableSortedSet`1",
    "System.Collections.Immutable.ImmutableStack`1",
    "System.Collections.Immutable.IImmutableDictionary`2",
    "System.Collections.Immutable.ImmutableDictionary`2",
    "System.Collections.Immutable.ImmutableSortedDictionary`2"]

namespace TypeRef

mutual

/-- The number of references within a reference, itself included. -/
def size : TypeRef → Nat
  | named _ args => sizeAll args + 1
  | array element _ => size element + 1
  | parameter _ => 1
  | tuple elements => sizeAll elements + 1

/-- The number of references within a list of references. -/
def sizeAll : List TypeRef → Nat
  | [] => 0
  | t :: ts => size t + sizeAll ts

end

end TypeRef

namespace Compilation

variable (c : Compilation)

/-- Whether the definition carries an immutability marker, perhaps by a base type. -/
def isMarkedImmutable (t : TypeRef) : Bool :=
  (c.resolve? t).any fun d =>
    c.hasFlattened d Vocabulary.immutable || c.hasFlattened d Vocabulary.generatedImmutable

/-- Whether a definition is immutable by its kind. -/
def isPlainValue (d : TypeDef) : Bool :=
  d.kind == .enum ||
    d.special.any fun s => s == .string || s == .dateTime || s == .enum || s.isScalar

/-- What the immutability of a reference hangs on. -/
inductive ImmutabilityRule where
  | settled (immutable : Bool)
  /-- Immutable if all of these are. -/
  | all (parts : List TypeRef)
  /-- Immutable if one of these is. -/
  | any (alternatives : List TypeRef)
deriving Repr, DecidableEq

/-- The rule that applies to a reference. -/
def immutabilityRule (scope : List TypeParameter) (rules : ImmutabilityRules) :
    TypeRef → ImmutabilityRule
  | .parameter name => .any (constraintsOf scope name)
  | .array element _ => if rules.treatsArraysAsImmutable then .all [element] else .settled false
  | .tuple elements => .all elements
  | t@(.named name args) =>
    if rules.allows t || c.isMarkedImmutable t || immutableLeaves.contains name ||
        (c.resolve? t).any isPlainValue then .settled true
    else if immutableWrappers.contains name then .all args
    else .settled false

/-- The verdicts reached so far, the latest one for a reference first. -/
abbrev Verdicts := List (TypeRef × Bool)

/-- Whether a check succeeds for all references; stops at the first for which it fails. -/
def checkAll (check : Verdicts → TypeRef → Bool × Verdicts) :
    Verdicts → List TypeRef → Bool × Verdicts
  | seen, [] => (true, seen)
  | seen, t :: ts =>
    match check seen t with
    | (true, seen) => checkAll check seen ts
    | (false, seen) => (false, seen)

/-- Whether a check succeeds for one of the references; stops at the first for which it
does. -/
def checkAny (check : Verdicts → TypeRef → Bool × Verdicts) :
    Verdicts → List TypeRef → Bool × Verdicts
  | seen, [] => (false, seen)
  | seen, t :: ts =>
    match check seen t with
    | (true, seen) => (true, seen)
    | (false, seen) => checkAny check seen ts

/-- The verdict on a reference, and the record with it. The count bounds the depth of the
check. -/
def checkImmutable (scope : List TypeParameter) (rules : ImmutabilityRules) :
    Nat → Verdicts → TypeRef → Bool × Verdicts
  | 0, seen, _ => (true, seen)
  | depth + 1, seen, t =>
    match seen.lookup t with
    | some verdict => (verdict, seen)
    | none =>
      let (verdict, seen) :=
        match c.immutabilityRule scope rules t with
        | .settled verdict => (verdict, (t, true) :: seen)
        | .all parts => checkAll (checkImmutable scope rules depth) ((t, true) :: seen) parts
        | .any parts => checkAny (checkImmutable scope rules depth) ((t, true) :: seen) parts
      (verdict, (t, verdict) :: seen)

/-- The references that a check of `t` can meet, counted with repetition. Each level of the
check meets a new one. -/
def immutabilityDepth (scope : List TypeParameter) (t : TypeRef) : Nat :=
  t.size + TypeRef.sizeAll (scope.flatMap (·.constraints)) + 1

/-- Whether a type is immutable. Parameters are looked up in the scope. -/
def isImmutable (scope : List TypeParameter) (rules : ImmutabilityRules) (t : TypeRef) : Bool :=
  (c.checkImmutable scope rules (immutabilityDepth scope t) [] t).1

end Compilation

end Companion
