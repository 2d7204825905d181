import Companion.Model.Member

/-!
# Type definitions and programs

A `TypeDef` declares a class, structure, interface or enumeration. A `Program` is what a
front end hands over: an assembly and the types declared in it or referenced by it, fully
resolved, without source text.

`TypeDef.fullName` is the metadata name: namespace, name and, for a generic type, the number
of its type parameters behind a backtick. References name definitions by it.
-/

namespace Companion

/-- What a definition declares. -/
inductive TypeKind where
  | «class»
  | struct
  | interface
  | enum
deriving Repr, DecidableEq

/-- Where a definition comes from: declared in the sources at hand, or compiled elsewhere and
only referenced. -/
inductive Origin where
  | source
  | metadata
deriving Repr, DecidableEq

/-- Built-in types that the generators treat on their own. -/
inductive SpecialType where
  | object | void | boolean | char | sbyte | byte
  | int16 | uint16 | int32 | uint32 | int64 | uint64
  | decimal | single | double | string | intPtr | uintPtr
  | dateTime | enum | valueType | array
deriving Repr, DecidableEq

/-- The value types that the language compares with `!=`. -/
def SpecialType.isScalar : SpecialType → Bool
  | boolean | char | sbyte | byte | int16 | uint16 | int32 | uint32 | int64 | uint64
  | decimal | single | double | intPtr | uintPtr => true
  | object | void | string | dateTime | enum | valueType | array => false

/-- A type definition. -/
structure TypeDef where
  «namespace» : String := ""
  name : String
  typeParameters : List TypeParameter := []
  kind : TypeKind := .class
  accessibility : Accessibility := .internal
  isAbstract : Bool := false
  isStatic : Bool := false
  isSealed : Bool := false
  isPartial : Bool := false
  origin : Origin := .source
  special : Option SpecialType := none
  baseType : Option TypeRef := none
  interfaces : List TypeRef := []
  attributes : List Attribute := []
  members : List Member := []
  location : Option Location := none
deriving Repr

namespace TypeDef

/-- The metadata name. -/
def fullName (d : TypeDef) : String :=
  let qualified := if d.namespace.isEmpty then d.name else d.namespace ++ "." ++ d.name
  if d.typeParameters.isEmpty then qualified
  else qualified ++ "`" ++ toString d.typeParameters.length

/-- The definition as a reference, with its own parameters as arguments. -/
def selfRef (d : TypeDef) : TypeRef :=
  .named d.fullName (d.typeParameters.map fun p => .parameter p.name)

def isReferenceType (d : TypeDef) : Bool := d.kind == .class || d.kind == .interface

def isValueType (d : TypeDef) : Bool := d.kind == .struct || d.kind == .enum

def properties (d : TypeDef) : List Property := d.members.filterMap Member.property?

def fields (d : TypeDef) : List Field := d.members.filterMap Member.field?

def methods (d : TypeDef) : List Method := d.members.filterMap Member.method?

/-- The first property of a name. -/
def property? (d : TypeDef) (name : String) : Option Property :=
  d.properties.find? (·.name == name)

end TypeDef

/-- The assembly being compiled. -/
structure Assembly where
  name : String := ""
  attributes : List Attribute := []
deriving Repr

/-- A whole program, as handed over by a front end. -/
structure Program where
  assembly : Assembly := {}
  types : List TypeDef := []
  /-- Whether the built-in catalogue of core types belongs to the program. -/
  includesCoreLibrary : Bool := true
deriving Repr

end Companion
