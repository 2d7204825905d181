import Companion.Model.TypeRef

/-!
# Attributes

An attribute is applied to an assembly, a type or a member. It names its class and carries
constant arguments, by position or by name.
-/

namespace Companion

/-- A constant of an enumeration, given by its value; its name is known when the value is
that of a single declared constant. -/
structure EnumConstant where
  typeName : String
  value : Int64
  member : Option String := none
deriving Repr, DecidableEq

/-- A constant attribute argument. -/
inductive AttributeValue where
  | null
  | bool (b : Bool)
  | int (i : Int64)
  | string (s : String)
  | type (t : TypeRef)
  | enum (e : EnumConstant)
  | array (items : List AttributeValue)
deriving Repr, Inhabited

namespace AttributeValue

def asBool? : AttributeValue → Option Bool
  | bool b => some b
  | _ => none

/-- The integer an argument denotes; an enumeration constant denotes its value. -/
def asInt? : AttributeValue → Option Int64
  | int i => some i
  | enum e => some e.value
  | _ => none

def asString? : AttributeValue → Option String
  | string s => some s
  | _ => none

def asType? : AttributeValue → Option TypeRef
  | type t => some t
  | _ => none

end AttributeValue

/-- An argument given by name. -/
structure NamedArgument where
  name : String
  value : AttributeValue
deriving Repr

/-- An applied attribute. -/
structure Attribute where
  /-- The metadata name of the attribute class. -/
  className : String
  arguments : List AttributeValue := []
  namedArguments : List NamedArgument := []
deriving Repr

/-- The first argument given under a name. -/
def Attribute.named? (a : Attribute) (name : String) : Option AttributeValue :=
  (a.namedArguments.find? (·.name == name)).map (·.value)

end Companion
