import Companion.Equality.Comparison

/-!
# Hashing members

A hash starts from the hash of the base type, or from a fixed seed, and takes in one member
after the other: the hash of the member times a prime, joined by exclusive or. The prime goes
by the position of the member in its set and repeats after the last prime. A member that may be
null is taken in only when it holds a value. A member whose type has no hash of its own keeps
its position and is left out, with one warning for its name.
-/

namespace Companion

namespace HashPrime

/-- The first value of a hash without base: the ten thousandth prime. -/
def seed : Nat := 104729

/-- The multipliers by position. Their ranks among the primes are one hundred apart. -/
def primes : List Nat :=
  [223469, 224743, 225961, 227251, 228479, 229613, 230767, 232007, 233347, 234653, 235919,
    237217, 238477, 239737, 240997, 242129, 243437, 244603, 245851, 247067, 248267, 249449]

/-- The multiplier at a position; they repeat after the last one. -/
def atPosition (position : Nat) : Nat := primes.getD (position % primes.length) 0

/-- The rank of the multiplier among the primes. -/
def rank (position : Nat) : Nat := 19901 + 100 * (position % primes.length)

end HashPrime

/-- Where the hash of a member comes from. -/
inductive HashSource where
  /-- A method that the type declares for the member. -/
  | custom (method : CustomMember)
  /-- A comparer that the type declares for the member. -/
  | comparer (comparer : CustomMember)
  | boolean
  /-- The value itself. -/
  | integer
  | arrayLength
  | dictionaryCount (shape : DictionaryShape)
  | collectionCount (shape : CollectionShape)
  /-- The count of a collection whose elements have no declared type. -/
  | untypedCount
  | byKey
  | text (ignoresCase : Bool)
  /-- The hash method of the value. -/
  | own
  /-- The type has no hash of its own. -/
  | missing
deriving Repr, DecidableEq

namespace HashSource

/-- The expression for the hash of the member of a name, if it has a hash. -/
def expression? (source : HashSource) (name : String) : Option String :=
  match source with
  | custom method => some (method.name ++ "(" ++ name ++ ")")
  | .comparer found => some (found.name ++ ".GetHashCode(" ++ name ++ ")")
  | boolean => some ("(" ++ name ++ " ? 1 : 0)")
  | integer => some name
  | arrayLength => some (name ++ ".Length")
  | dictionaryCount shape =>
    some ("((global::System.Collections.Generic." ++
      (if shape.isReadOnly then "IReadOnlyDictionary" else "IDictionary") ++ "<" ++
      shape.key.display ++ ", " ++ shape.value.display ++ ">)" ++ name ++ ").Count")
  | collectionCount shape =>
    some ("((global::System.Collections.Generic." ++
      (if shape.isReadOnly then "IReadOnlyCollection" else "ICollection") ++ "<" ++
      shape.element.display ++ ">)" ++ name ++ ").Count")
  | untypedCount => some ("((global::System.Collections.ICollection)" ++ name ++ ").Count")
  | byKey => some ("((global::Uno.Equality.IKeyEquatable)" ++ name ++ ").GetKeyHashCode()")
  | text ignoresCase =>
    some ("global::System.StringComparer." ++
      (if ignoresCase then "OrdinalIgnoreCase" else "Ordinal") ++ ".GetHashCode(" ++ name ++ ")")
  | own => some (name ++ ".GetHashCode()")
  | missing => none

end HashSource

namespace Pass

variable (pass : Pass)

/-- Whether values of the type have a hash of their own. Types that are not known are taken to
have one; classes and structures must override the method, or get it generated. -/
def hasOwnHash (t : TypeRef) : Bool :=
  (pass.compilation.resolve? t).all fun d =>
    !(d.kind == .class || d.kind == .struct) || pass.generatesEquality d ||
      pass.compilation.hasFlattened d Vocabulary.generatedEquality ||
      pass.compilation.overridesMethod d "GetHashCode" 0

/-- Where the hash of a member comes from by its type alone. -/
def typeHashSource (m : EqualityMember) : HashSource :=
  let c := pass.compilation
  match c.special? m.type with
  | some .boolean => .boolean
  | some .int32 => .integer
  | special =>
    if m.type.isArray then .arrayLength
    else
      match c.dictionaryShape? m.type with
      | some shape => .dictionaryCount shape
      | none =>
        match c.collectionShape? m.type with
        | some shape => .collectionCount shape
        | none =>
          if c.isNonGenericCollection m.type then .untypedCount
          else if m.usesKeyEquality then .byKey
          else if c.isEnum m.type then .own
          else if special == some .string then .text m.options.string.ignoreCase
          else if pass.hasOwnHash m.type then .own
          else .missing

/-- Where the hash of a member of a type comes from. -/
def hashSource (d : TypeDef) (m : EqualityMember) : HashSource :=
  match d.customHash? m.name m.type with
  | some method => .custom method
  | none =>
    match pass.compilation.customComparer? d m.name with
    | some comparer => .comparer comparer
    | none => pass.typeHashSource m

/-- Whether a member has no hash. -/
def isUnhashable (d : TypeDef) (m : EqualityMember) : Bool := pass.hashSource d m == .missing

/-- The comments in front of the hash of a member. -/
def hashHints (d : TypeDef) (m : EqualityMember) : List String :=
  let name := m.name
  let type := m.type.display
  ["// ***** Computation for " ++ name ++ " (" ++ m.type.friendly ++ ") *****"] ++
  (if (d.customHash? name m.type).isNone then
    ["// **" ++ name ++ "** A custom hash computation can be supplied with a method of this " ++
        "signature:",
      "// CUSTOM HASH METHOD>> private static int GetHash_" ++ name ++ "(" ++ type ++
        " value) => <custom code>;"]
  else []) ++
  (if (pass.compilation.customComparer? d name).isNone then
    ["// ** A custom comparer for " ++ name ++ " would also be used to compute the hash:",
      "// CUSTOM COMPARER>> private static IEqualityComparer<" ++ type ++ "> " ++ name ++
        "_CustomComparer => <custom comparer>;"]
  else [])

/-- The condition that a member holds a value to hash; none if it always does. -/
def hashGuard? (d : TypeDef) (m : EqualityMember) : Option String :=
  if pass.compilation.mayBeNull d.typeParameters m.type then
    if pass.compilation.special? m.type == some .string && m.options.string.emptyEqualsNull then
      some ("!string.IsNullOrWhiteSpace(" ++ m.name ++ ")")
    else some ("!ReferenceEquals(" ++ m.name ++ ", null)")
  else none

/-- The line that takes the hash of a member in. -/
def hashFold (expression : String) (position : Nat) : String :=
  let prime := toString (HashPrime.atPosition position)
  "hash = (" ++ expression ++ " * " ++ prime ++ ") ^ hash; // " ++ prime ++ " is the " ++
    toString (HashPrime.rank position) ++ "st prime number"

/-- The warning on a member without hash. -/
def unhashable (d : TypeDef) (m : EqualityMember) : Diagnostic :=
  d.problem .equality .warning .memberUnhashable
    ("Type `" ++ m.type.friendly ++ "` of member `" ++ m.name ++
      "` doesn't implement .GetHashCode(): it won't be used for hash computation. Use a " ++
      "custom hash method or a custom comparer instead.")
    m.location

/-- The part of a hash body that belongs to the member at a position; `reported` holds the
names of the members that were warned of before. -/
def memberHash (d : TypeDef) (reported : List String) (position : Nat) (m : EqualityMember) :
    List Piece :=
  Piece.lines (pass.hashHints d m) ++
    match (pass.hashSource d m).expression? m.name with
    | some expression =>
      let fold := Piece.line (hashFold expression position)
      match pass.hashGuard? d m with
      | some guard => [.braces ("if (" ++ guard ++ ")") [fold]]
      | none => [fold]
    | none => if reported.contains m.name then [] else [.diagnostic (unhashable d m)]

/-- The parts of a hash body that belong to the members from a position on. -/
def memberHashes (d : TypeDef) : List String → Nat → List EqualityMember → List (List Piece)
  | _, _, [] => []
  | reported, position, m :: ms =>
    pass.memberHash d reported position m ::
      memberHashes d
        (if pass.isUnhashable d m then m.name :: reported else reported) (position + 1) ms

/-- A body that computes a hash from members, starting with a call to the base type if there is
one. -/
def hashBody (d : TypeDef) (reported : List String) (members : List EqualityMember)
    (baseCall : Option String) : List Piece :=
  if members.isEmpty && baseCall.isNone then
    [.diagnostic (d.problem .equality .warning .noHashMembers
        ("No members are marked with [Uno.EqualityHash] or [Uno.EqualityKey]. You should add " ++
          "at least one.")),
      .line "return 0; // no members to compute hash"]
  else
    [.line (match baseCall with
      | some call => "int hash = " ++ call ++ "; // start with hash from base"
      | none => "int hash = " ++ toString HashPrime.seed ++ "; // 10 000th prime number")] ++
    (if members.isEmpty then []
    else [.braces "unchecked" (Piece.separated (pass.memberHashes d reported 0 members))]) ++
    [.line "return hash;"]

end Pass

end Companion
