import Companion.Compilation.Basic
import Companion.Vocabulary
import Companion.Worklist

/-!
# Supertypes and collection shapes

The supertypes of a reference are the reference itself, its base types and all interfaces it
implements, with the arguments put in, breadth first. An array is a `System.Array`, an
`IList<T>` and an `IReadOnlyList<T>` of its elements. A parameter has the supertypes of its
constraints, which are looked up in a *scope*, the parameters of the enclosing declaration.

From the supertypes follow the shapes: whether a type is a dictionary or a collection, and of
what.
-/

namespace Companion

/-- Key and value of a type that is a dictionary. -/
structure DictionaryShape where
  key : TypeRef
  value : TypeRef
  isReadOnly : Bool
deriving Repr, DecidableEq

/-- Element of a type that is a collection. -/
structure CollectionShape where
  element : TypeRef
  isReadOnly : Bool
  /-- Whether elements have positions, as in arrays and lists. -/
  isPositional : Bool
deriving Repr, DecidableEq

namespace Compilation

variable (c : Compilation)

/-- The references one step up from a reference. -/
def directSupertypes (scope : List TypeParameter) : TypeRef → List TypeRef
  | t@(.named _ args) =>
    match c.resolve? t with
    | some d =>
      (d.baseType.toList ++ d.interfaces).map (·.substitute d.typeParameters args)
    | none => []
  | .array element _ =>
    [.named "System.Array" [],
      .named "System.Collections.Generic.IList`1" [element],
      .named "System.Collections.Generic.IReadOnlyList`1" [element]]
  | .parameter name => constraintsOf scope name
  | .tuple _ => []

/-- The reference and all its supertypes, breadth first. -/
def supertypesIn (scope : List TypeParameter) (t : TypeRef) : List TypeRef :=
  Worklist.explore (c.directSupertypes scope) t

/-- The supertypes of a reference in which parameters stand for themselves. -/
def supertypes (t : TypeRef) : List TypeRef := c.supertypesIn [] t

/-- The first supertype constructed from a definition. -/
def implements? (t : TypeRef) (definition : String) : Option TypeRef :=
  (c.supertypes t).find? (·.isNamed definition)

/-- Whether the type implements `IKeyEquatable` or `IKeyEquatable<T>`, perhaps by a constraint
of a parameter. -/
def isKeyEquatable (scope : List TypeParameter) (t : TypeRef) : Bool :=
  (c.supertypesIn scope t).any fun s =>
    s.isNamed Vocabulary.keyEquatable || s.isNamed Vocabulary.keyEquatableGeneric

/-- The first of two definitions that a list of references has a construction of; the flag
tells whether it is the first. -/
def firstNamed? (ts : List TypeRef) (first second : String) : Option (TypeRef × Bool) :=
  match ts.find? (·.isNamed first) with
  | some t => some (t, true)
  | none => (ts.find? (·.isNamed second)).map (·, false)

/-- The dictionary a type is, the read-only interface preferred. -/
def dictionaryShape? (t : TypeRef) : Option DictionaryShape :=
  match firstNamed? (c.supertypes t) "System.Collections.Generic.IReadOnlyDictionary`2"
      "System.Collections.Generic.IDictionary`2" with
  | some (found, isReadOnly) =>
    match found.args with
    | [key, value] => some ⟨key, value, isReadOnly⟩
    | _ => none
  | none => none

/-- The collection a type is, the read-only interface preferred. -/
def collectionShape? (t : TypeRef) : Option CollectionShape :=
  let above := c.supertypes t
  match firstNamed? above "System.Collections.Generic.IReadOnlyCollection`1"
      "System.Collections.Generic.ICollection`1" with
  | some (found, isReadOnly) =>
    found.args.head?.map fun element =>
      { element, isReadOnly
        isPositional := above.any fun s =>
          s.isNamed "System.Collections.Generic.IList`1" ||
            s.isNamed "System.Collections.Generic.IReadOnlyList`1" }
  | none => none

/-- Whether the type implements the collection interface without type argument. -/
def isNonGenericCollection (t : TypeRef) : Bool :=
  (c.implements? t "System.Collections.ICollection").isSome

end Compilation

end Companion
