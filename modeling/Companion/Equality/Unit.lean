import Companion.Equality.Hash

/-!
# The equality unit of a type

The unit opens the type again and adds, in order: the overloads of `Equals` around one private
comparison of all members, the operators, the hash code, computed once, and, where members or a
base type are keyed, key equality in the same shape.

Problems are warnings at the place where they show; the unit is complete all the same.
-/

namespace Companion

/-- A type and what its equality unit is made of. -/
structure EqualityUnit where
  pass : Pass
  definition : TypeDef
  base : Option BaseEquality
  members : MemberSets

/-- What the equality unit of a type is made of. -/
def Pass.equalityUnit (pass : Pass) (d : TypeDef) : EqualityUnit where
  pass
  definition := d
  base := pass.baseEquality? d
  members := pass.compilation.memberSets d

namespace EqualityUnit

variable (u : EqualityUnit)

/-- The name by which the unit refers to its type. -/
def name : String := u.definition.nameWithGenerics

/-- Whether values of the type are references. -/
def isClass : Bool := u.definition.isReferenceType

/-- Whether key equality is asked for: by a key member, or by the base type. -/
def wantsKeyEquality : Bool := u.base.any (·.isKeyEquatable) || !u.members.key.isEmpty

/-- Whether the unit declares key equality. -/
def declaresKeyEquality : Bool :=
  u.wantsKeyEquality && u.pass.config.capabilities.keyEquality

/-- A warning on the type. -/
def warning (code : DiagnosticCode) (message : String) : Piece :=
  .diagnostic (u.definition.problem .equality .warning code message)

/-- The lines that settle a comparison with the same instance or with none. -/
def referenceChecks : List Piece :=
  if u.isClass then
    [.line "if (ReferenceEquals(this, other)) return true;",
      .line "if (ReferenceEquals(null, other)) return false;"]
  else []

/-- The line that compares with an instance of any type by the method of the given name. -/
def untypedComparison (method : String) : Piece :=
  if u.isClass then .line ("return " ++ method ++ "(other as " ++ u.name ++ ");")
  else
    .line ("return other is " ++ u.name ++ " ? " ++ method ++ "((" ++ u.name ++
      ")other) : false;")

/-- A member that returns a hash, computed when it is first asked for. -/
def memoizedHash (modifiers method field compute : String) : List Piece :=
  [Piece.inheritedDoc,
    .braces (modifiers ++ " " ++ method ++ "()")
      [.line "#pragma warning disable CS0171",
        .line ("return " ++ field ++ " ?? (int)(" ++ field ++ " = " ++ compute ++ "());"),
        .line "#pragma warning restore CS0171"],
    .blank,
    .line ("private int? " ++ field ++ ";"),
    .blank]

/-! ### Equality -/

/-- The static comparison of two instances. -/
def staticEquals : List Piece :=
  Piece.summary ["Checks two instances of " ++ u.definition.nameForXml ++ " for equality."] ++
  Piece.remarks ["You can also simply use the overriden '==' and '!=' operators."] ++
  u.pass.pureMark ++
  [.braces ("public static bool Equals(" ++ u.name ++ " a, " ++ u.name ++ " b)")
    (if u.isClass then
      [.line "if (ReferenceEquals(a, b)) return true; // Same instance or both null",
        .braces "if (ReferenceEquals(null, a))" [.line "return ReferenceEquals(null, b);"],
        .line "return !ReferenceEquals(null, b) && a.InnerEquals(b);"]
    else [.line "return a.InnerEquals(b);"])]

/-- The comparison with an instance of the same type. -/
def typedEquals : List Piece :=
  [Piece.inheritedDoc] ++ u.pass.pureMark ++
  [.braces ("public bool Equals(" ++ u.name ++ " other) // Implementation of `IEquatable<" ++
      u.name ++ ">.Equals()`")
    (u.referenceChecks ++ [.line "return InnerEquals(other);"])]

/-- The comparison with an instance of any type. -/
def untypedEquals : List Piece :=
  [Piece.inheritedDoc] ++ u.pass.pureMark ++
  [.braces "public override bool Equals(object other) // This one from `System.Object.Equals()`"
    [u.untypedComparison "Equals"]]

/-- The call that continues equality into the base type, behind the warning that there is
none. -/
def baseEqualsCall : List Piece × Option String :=
  match u.base with
  | none => ([], none)
  | some base =>
    if base.overridesEquals then ([], some "base.Equals(other)")
    else
      ([u.warning .baseEqualsMissing ("Base type " ++ base.name ++
        " does not override .Equals() method. It could lead to erroneous results.")], none)

/-- The comparison of all members. -/
def innerEquals : List Piece :=
  let (warnings, call) := u.baseEqualsCall
  [.region "\"InnerEquals\" Method -- THIS IS WHERE EQUALITY IS CHECKED"
    [.line "// private method doing the real .Equals() job",
      .braces ("private bool InnerEquals(" ++ u.name ++ " other)")
        ([.line "if (other.GetType() != GetType()) return false;",
          .line "if (other.GetHashCode() != GetHashCode()) return false;"] ++
        warnings ++
        u.pass.comparisonBody u.definition u.members.equality call)]]

/-- An operator on two instances. -/
def operator (symbol result : String) (summary : String) : List Piece :=
  Piece.summary [summary] ++ u.pass.pureMark ++
  [.braces ("public static bool operator " ++ symbol ++ "(" ++ u.name ++ " a, " ++ u.name ++
      " b)")
    [.line ("return " ++ result ++ ";")]]

/-! ### Hash code -/

/-- The call that starts the hash with that of the base type, behind the warning that there is
none. -/
def baseHashCall : List Piece × Option String :=
  match u.base with
  | none => ([], none)
  | some base =>
    if base.overridesHash then ([], some "base.GetHashCode()")
    else
      ([u.warning .baseHashMissing ("Base type " ++ base.name ++
        " does not override .GetHashCode() method. It could lead to erroneous results.")], none)

/-- The hash code, computed once. -/
def hashCode : List Piece :=
  let (warnings, call) := u.baseHashCall
  [.region "\".GetHashCode()\" Section -- THIS IS WHERE HASH CODE IS COMPUTED"
    (memoizedHash "public override int" "GetHashCode" "_computedHashCode" "ComputeHashCode" ++
    [.braces "private int ComputeHashCode()"
      (warnings ++ u.pass.hashBody u.definition [] u.members.hash call)])]

/-! ### Key equality -/

/-- The names of the members that the hash code warns of. -/
def unhashableNames : List String :=
  (u.members.hash.filter (u.pass.isUnhashable u.definition)).map (·.name)

/-- A call to the base type, if that has a key equality. -/
def baseKeyCall (call : String) : Option String :=
  if u.base.any (·.isKeyEquatable) then some call else none

/-- Key equality and its hash code. -/
def keyEquality : List Piece :=
  [.region ("\"Key Equality\" Section -- THIS IS WHERE KEY EQUALS IS DONE + KEY HASH CODE IS " ++
      "COMPUTED")
    ([Piece.inheritedDoc] ++ u.pass.pureMark ++
    [.braces "public bool KeyEquals(object other)" [u.untypedComparison "KeyEquals"],
      .blank,
      Piece.inheritedDoc] ++
    u.pass.pureMark ++
    [.braces ("public bool KeyEquals(" ++ u.name ++ " other)")
        (u.referenceChecks ++ [.line "return InnerKeyEquals(other);"]),
      .blank,
      .line "// private method doing the real .KeyEquals() job",
      .braces ("private bool InnerKeyEquals(" ++ u.name ++ " other)")
        (.line "if (other.GetKeyHashCode() != GetKeyHashCode()) return false;" ::
          u.pass.comparisonBody u.definition u.members.key
            (u.baseKeyCall "base.KeyEquals(other)")),
      .blank] ++
    memoizedHash "public int" "GetKeyHashCode" "_computedKeyHashCode" "ComputeKeyHashCode" ++
    [.braces "private int ComputeKeyHashCode()"
      (u.pass.hashBody u.definition u.unhashableNames u.members.key
        (u.baseKeyCall "base.GetKeyHashCode()"))])]

/-! ### The unit -/

/-- The header that opens the type again. -/
def header : String :=
  u.definition.accessibility.modifiers ++ " partial " ++
    (if u.isClass then "class" else "struct") ++ " " ++ u.name ++
    " : global::System.IEquatable<" ++ u.name ++ ">" ++
    (if u.declaresKeyEquality then
      ", global::Uno.Equality.IKeyEquatable<" ++ u.name ++ ">, global::Uno.Equality.IKeyEquatable"
    else "")

/-- The members that the unit adds. -/
def memberCode : List Piece :=
  (if u.wantsKeyEquality && !u.declaresKeyEquality then
    [u.warning .keyEqualityUnavailable
      ("Key members are declared but Uno.Equality.IKeyEquatable is not referenced; key equality " ++
        "is not generated.")]
  else []) ++
  Piece.separated
    [u.staticEquals, u.typedEquals, u.untypedEquals, u.innerEquals,
      u.operator "==" "Equals(a, b)" "Equality operator, same as the static Equals().",
      u.operator "!=" "!Equals(a, b)" "Inequality operator, negation of the static Equals().",
      u.hashCode,
      if u.declaresKeyEquality then u.keyEquality else []]

/-- The code of the unit. -/
def code : List Piece :=
  unitHeader .equality ["System"] ++
  [.inNamespace u.definition.namespace
    ((if u.definition.isPartial then []
    else
      [u.warning .equalityNotPartial ("The type " ++ u.definition.qualifiedName ++
        " must be partial to receive generated equality members.")]) ++
    [.braces u.header u.memberCode])]

end EqualityUnit

/-- The equality unit of a type. -/
def Pass.equalityArtifact (pass : Pass) (d : TypeDef) : Artifact :=
  .of .equality d (pass.equalityUnit d).code

end Companion
