import Companion.Model.TypeDef

/-!
# The core library

A front end describes the types a program declares and the few it references from elsewhere.
The framework types that the generators reason about are catalogued here: the primitive
types, the collection interfaces and the collections.
-/

namespace Companion.CoreLibrary

def generic := "System.Collections.Generic"
def immutableCollections := "System.Collections.Immutable"

/-- A reference to a catalogued type or to a parameter. -/
def ref (name : String) (args : List TypeRef) : TypeRef := .named name args

def param (name : String) : TypeRef := .parameter name

/-- A public type of the framework, with the base type its kind implies. -/
def framework («namespace» name : String) (kind : TypeKind) (params : List String := []) :
    TypeDef where
  «namespace» := «namespace»
  name := name
  typeParameters := params.map fun p => { name := p }
  kind := kind
  accessibility := .public
  isAbstract := kind == .interface
  origin := .metadata
  baseType :=
    match kind with
    | .class => some (ref "System.Object" [])
    | .struct => some (ref "System.ValueType" [])
    | .enum => some (ref "System.Enum" [])
    | .interface => none

def objectEquals : Method where
  name := "Equals"
  returnType := ref "System.Boolean" []
  parameters := [{ name := "obj", type := ref "System.Object" [] }]
  accessibility := .public
  isOverride := true

def objectHash : Method where
  name := "GetHashCode"
  returnType := ref "System.Int32" []
  accessibility := .public
  isOverride := true

/-- The type with `Equals(object)` and `GetHashCode()` overridden. -/
def withValueSemantics (d : TypeDef) : TypeDef :=
  { d with members := d.members ++ [.method objectEquals, .method objectHash] }

def interface (ns name : String) (params : List String) (extended : List TypeRef) :
    TypeDef :=
  { framework ns name .interface params with interfaces := extended }

def collection (ns name : String) (kind : TypeKind) (params : List String)
    (implemented : List TypeRef) : TypeDef :=
  { framework ns name kind params with interfaces := implemented }

/-! ### Special types -/

def roots : List TypeDef :=
  [{ framework "System" "Object" .class with baseType := none, special := some .object },
    withValueSemantics
      { framework "System" "ValueType" .class with isAbstract := true, special := some .valueType },
    withValueSemantics
      { framework "System" "Enum" .class with
        isAbstract := true, special := some .enum, baseType := some (ref "System.ValueType" []) },
    { framework "System" "Array" .class with
      isAbstract := true, special := some .array,
      interfaces := [ref "System.Collections.ICollection" []] },
    { framework "System" "Void" .struct with special := some .void }]

def primitive (entry : String × SpecialType) : TypeDef :=
  withValueSemantics { framework "System" entry.1 .struct with special := some entry.2 }

def primitives : List TypeDef :=
  [("Boolean", .boolean), ("Char", .char), ("SByte", .sbyte), ("Byte", .byte),
    ("Int16", .int16), ("UInt16", .uint16), ("Int32", .int32), ("UInt32", .uint32),
    ("Int64", .int64), ("UInt64", .uint64), ("Decimal", .decimal), ("Single", .single),
    ("Double", .double), ("IntPtr", .intPtr), ("UIntPtr", .uintPtr),
    ("DateTime", SpecialType.dateTime)].map primitive

def string : TypeDef :=
  withValueSemantics
    { framework "System" "String" .class with
      isSealed := true, special := some .string,
      interfaces := [ref "System.Collections.Generic.IEnumerable`1" [ref "System.Char" []]] }

/-! ### Further types of the system namespace -/

def valueTypes : List TypeDef :=
  ["DateTimeOffset", "TimeSpan", "Guid"].map fun name =>
    withValueSemantics (framework "System" name .struct)

def classes : List TypeDef :=
  ["Uri", "Version", "Type"].map fun name => withValueSemantics (framework "System" name .class)

def systemTypes : List TypeDef :=
  [withValueSemantics { framework "System" "Attribute" .class with isAbstract := true },
    withValueSemantics (framework "System" "Nullable" .struct ["T"]),
    framework "System" "IEquatable" .interface ["T"],
    framework "System" "Func" .class ["T", "TResult"],
    withValueSemantics (framework "System" "Tuple" .class ["T1"]),
    withValueSemantics (framework "System" "Tuple" .class ["T1", "T2"]),
    withValueSemantics (framework "System" "Tuple" .class ["T1", "T2", "T3"])]

/-! ### Collections -/

def item := param "T"
def key := param "TKey"
def value := param "TValue"

def pair := ref "System.Collections.Generic.KeyValuePair`2" [key, value]
def sequenceOf (t : TypeRef) := ref "System.Collections.Generic.IEnumerable`1" [t]
def collectionOf (t : TypeRef) := ref "System.Collections.Generic.ICollection`1" [t]
def readOnlyCollectionOf (t : TypeRef) :=
  ref "System.Collections.Generic.IReadOnlyCollection`1" [t]
def listOf (t : TypeRef) := ref "System.Collections.Generic.IList`1" [t]
def readOnlyListOf (t : TypeRef) := ref "System.Collections.Generic.IReadOnlyList`1" [t]
def setOf (t : TypeRef) := ref "System.Collections.Generic.ISet`1" [t]
def dictionaryOf := ref "System.Collections.Generic.IDictionary`2" [key, value]
def readOnlyDictionaryOf := ref "System.Collections.Generic.IReadOnlyDictionary`2" [key, value]
def untypedSequence := ref "System.Collections.IEnumerable" []
def untypedCollection := ref "System.Collections.ICollection" []

def interfaces : List TypeDef :=
  [interface "System.Collections" "IEnumerable" [] [],
    interface "System.Collections" "ICollection" [] [untypedSequence],
    interface generic "IEnumerable" ["T"] [untypedSequence],
    interface generic "ICollection" ["T"] [sequenceOf item],
    interface generic "IList" ["T"] [collectionOf item],
    interface generic "ISet" ["T"] [collectionOf item],
    interface generic "IReadOnlyCollection" ["T"] [sequenceOf item],
    interface generic "IReadOnlyList" ["T"] [readOnlyCollectionOf item],
    interface generic "IDictionary" ["TKey", "TValue"] [collectionOf pair],
    interface generic "IReadOnlyDictionary" ["TKey", "TValue"] [readOnlyCollectionOf pair],
    interface generic "IEqualityComparer" ["T"] [],
    framework generic "KeyValuePair" .struct ["TKey", "TValue"]]

def mutableCollections : List TypeDef :=
  [collection generic "List" .class ["T"] [listOf item, readOnlyListOf item, untypedCollection],
    collection generic "HashSet" .class ["T"] [setOf item, readOnlyCollectionOf item],
    collection generic "Dictionary" .class ["TKey", "TValue"]
      [dictionaryOf, readOnlyDictionaryOf, untypedCollection]]

def immutableListOf (t : TypeRef) :=
  ref "System.Collections.Immutable.IImmutableList`1" [t]
def immutableSetOf (t : TypeRef) := ref "System.Collections.Immutable.IImmutableSet`1" [t]
def immutableDictionaryOf :=
  ref "System.Collections.Immutable.IImmutableDictionary`2" [key, value]

def immutableInterfaces : List TypeDef :=
  [interface immutableCollections "IImmutableList" ["T"] [readOnlyListOf item],
    interface immutableCollections "IImmutableSet" ["T"] [readOnlyCollectionOf item],
    interface immutableCollections "IImmutableQueue" ["T"] [sequenceOf item],
    interface immutableCollections "IImmutableStack" ["T"] [sequenceOf item],
    interface immutableCollections "IImmutableDictionary" ["TKey", "TValue"]
      [readOnlyDictionaryOf]]

def immutables : List TypeDef :=
  [withValueSemantics
      (collection immutableCollections "ImmutableArray" .struct ["T"]
        [immutableListOf item, listOf item]),
    collection immutableCollections "ImmutableList" .class ["T"] [immutableListOf item, listOf item],
    collection immutableCollections "ImmutableHashSet" .class ["T"] [immutableSetOf item, setOf item],
    collection immutableCollections "ImmutableSortedSet" .class ["T"]
      [immutableSetOf item, setOf item],
    collection immutableCollections "ImmutableQueue" .class ["T"]
      [ref "System.Collections.Immutable.IImmutableQueue`1" [item]],
    collection immutableCollections "ImmutableStack" .class ["T"]
      [ref "System.Collections.Immutable.IImmutableStack`1" [item]],
    collection immutableCollections "ImmutableDictionary" .class ["TKey", "TValue"]
      [immutableDictionaryOf, dictionaryOf],
    collection immutableCollections "ImmutableSortedDictionary" .class ["TKey", "TValue"]
      [immutableDictionaryOf, dictionaryOf]]

/-- All catalogued types. -/
def types : List TypeDef :=
  roots ++ primitives ++ [string] ++ valueTypes ++ classes ++ systemTypes ++ interfaces ++
    mutableCollections ++ immutableInterfaces ++ immutables

end Companion.CoreLibrary
