import Companion.Compilation.Members

/-!
# The members that take part in equality

Every property and field that the type can read on an instance takes part in equality, unless
it, or the definition of its type, is marked to be ignored. A key mark puts the member into the
hash set and the key set as well, a hash mark into the hash set only; so the key set is part of
the hash set, and the hash set part of the equality set.

Key members of the key set are compared by their own key equality where they have one. In the
other sets all members are compared by plain equality.
-/

namespace Companion

/-- A member that takes part in equality. -/
structure EqualityMember where
  name : String
  type : TypeRef
  /-- How the member is compared; resolved, so never `auto`. -/
  mode : KeyEqualityMode := .useEquality
  options : ComparerOptions := {}
  location : Option Location := none
deriving Repr, DecidableEq

/-- Whether the member is compared by the key equality of its type. -/
def EqualityMember.usesKeyEquality (m : EqualityMember) : Bool := m.mode == .useKeyEquality

/-- The members of a type that take part in its equality, in its hash and in its key, each list
in the order of declaration, properties before fields. -/
structure MemberSets where
  equality : List EqualityMember := []
  hash : List EqualityMember := []
  key : List EqualityMember := []
deriving Repr, DecidableEq

/-- The mode that key marks ask for; the mark of the data annotations leaves it open. -/
def keyMode? (attributes : List Attribute) : Option KeyEqualityMode :=
  match findAttribute? attributes Vocabulary.equalityKey with
  | some mark => some (KeyEqualityMode.ofAttribute mark)
  | none =>
    if hasAttribute attributes Vocabulary.dataAnnotationsKey then some .auto else none

/-- An open mode settled by whether the type of the member has a key equality. -/
def KeyEqualityMode.settle (mode : KeyEqualityMode) (hasKeyEquality : Bool) : KeyEqualityMode :=
  match mode with
  | .auto => if hasKeyEquality then .useKeyEquality else .useEquality
  | settled => settled

namespace Compilation

variable (c : Compilation)

/-- Whether values of the type have a key equality: the type implements it, or declares a key
property and so will implement it. -/
def hasKeyEquality (scope : List TypeParameter) (t : TypeRef) : Bool :=
  c.isKeyEquatable scope t ||
    (c.resolve? t).any fun d => d.properties.any fun p => (keyMode? p.attributes).isSome

/-- Whether the definition of a type is marked to be ignored. -/
def isIgnoredType (t : TypeRef) : Bool :=
  (c.resolve? t).any fun d => hasAttribute d.attributes Vocabulary.equalityIgnore

/-- The member as equality sees it, with its attributes; methods, indexers and properties
without getter have no value to compare. -/
def valueMember? : Member → Option (EqualityMember × List Attribute)
  | .property p =>
    if p.isWriteOnly || p.isIndexer then none
    else some ({ name := p.name, type := p.type, location := p.location }, p.attributes)
  | .field f => some ({ name := f.name, type := f.type, location := f.location }, f.attributes)
  | .method _ => none

/-- The members that take part in equality, with their attributes. -/
def comparedMembers (d : TypeDef) : List (EqualityMember × List Attribute) :=
  let declared :=
    c.members d { properties := true, atLeast := .privateProtected } ++
      c.members d { fields := true, atLeast := .privateProtected }
  ((declared.filterMap fun (_, m) => valueMember? m).filter fun (m, attributes) =>
    !hasAttribute attributes Vocabulary.equalityIgnore && !c.isIgnoredType m.type).map
      fun (m, attributes) =>
        let mark := findAttribute? attributes Vocabulary.equalityComparerOptions
        ({ m with options := ComparerOptions.ofAttribute mark }, attributes)

/-- The member sets of a type. Only members the type declares itself count; those of its bases
are covered by the equality of the base. -/
def memberSets (d : TypeDef) : MemberSets :=
  let compared := c.comparedMembers d
  { equality := compared.map (·.1)
    hash := (compared.filter fun (_, attributes) =>
      (keyMode? attributes).isSome || hasAttribute attributes Vocabulary.equalityHash).map (·.1)
    key := compared.filterMap fun (m, attributes) =>
      (keyMode? attributes).map fun mode =>
        { m with mode := mode.settle (c.hasKeyEquality d.typeParameters m.type) } }

/-- Whether the type declares a key member. -/
def hasKeyMembers (d : TypeDef) : Bool := !(c.memberSets d).key.isEmpty

end Compilation

end Companion
