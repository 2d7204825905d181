import Companion.Model.Attribute

/-!
# Members of a type

Properties, fields and methods, with what the generators need to know about them.
-/

namespace Companion

/-- Declared accessibility. -/
inductive Accessibility where
  | «private»
  | privateProtected
  | «protected»
  | internal
  | protectedInternal
  | «public»
deriving Repr, DecidableEq

namespace Accessibility

/-- Position on the scale from the most to the least restrictive. -/
def level : Accessibility → Nat
  | .private => 0
  | .privateProtected => 1
  | .protected => 2
  | .internal => 3
  | .protectedInternal => 4
  | .public => 5

/-- At most as visible. -/
instance : LE Accessibility := ⟨fun a b => a.level ≤ b.level⟩

instance (a b : Accessibility) : Decidable (a ≤ b) :=
  inferInstanceAs (Decidable (a.level ≤ b.level))

/-- The modifiers that declare it. -/
def modifiers : Accessibility → String
  | .private => "private"
  | .privateProtected => "private protected"
  | .protected => "protected"
  | .internal => "internal"
  | .protectedInternal => "protected internal"
  | .public => "public"

end Accessibility

/-- A place in a source file. -/
structure Location where
  path : String
  line : UInt32
deriving Repr, DecidableEq

/-- The place as messages show it. -/
def Location.display (l : Location) : String :=
  l.path ++ "(" ++ toString l.line.toNat ++ ")"

/-- A property declaration. -/
structure Property where
  name : String
  type : TypeRef
  accessibility : Accessibility := .public
  /-- Accessibility of the getter where it differs from that of the property. -/
  declaredGetterAccessibility : Option Accessibility := none
  hasSetter : Bool := false
  isWriteOnly : Bool := false
  isStatic : Bool := false
  /-- Whether the compiler supplies the storage and both accessor bodies. -/
  isAuto : Bool := true
  isIndexer : Bool := false
  /-- Whether the compiler made the member up. -/
  isImplicit : Bool := false
  attributes : List Attribute := []
  location : Option Location := none
deriving Repr

namespace Property

def getterAccessibility (p : Property) : Accessibility :=
  p.declaredGetterAccessibility.getD p.accessibility

def isReadOnly (p : Property) : Bool := !p.hasSetter

end Property

/-- A field declaration. -/
structure Field where
  name : String
  type : TypeRef
  accessibility : Accessibility := .private
  isStatic : Bool := false
  isReadonly : Bool := false
  /-- Whether the compiler made the member up. -/
  isImplicit : Bool := false
  attributes : List Attribute := []
  location : Option Location := none
deriving Repr

/-- A parameter of a method. -/
structure Parameter where
  name : String
  type : TypeRef
  /-- The source text of the default value. -/
  defaultValue : Option String := none
deriving Repr, DecidableEq

/-- A method declaration. -/
structure Method where
  name : String
  returnType : TypeRef := .named "System.Void" []
  parameters : List Parameter := []
  accessibility : Accessibility := .private
  isStatic : Bool := false
  isOverride : Bool := false
  isVirtual : Bool := false
  isAbstract : Bool := false
  isSealed : Bool := false
  /-- The interface of an explicit implementation (`void IDisposable.Dispose()`). -/
  explicitInterface : Option TypeRef := none
  attributes : List Attribute := []
  location : Option Location := none
deriving Repr

/-- A member of a type. -/
inductive Member where
  | property (p : Property)
  | field (f : Field)
  | method (m : Method)
deriving Repr

namespace Member

def name : Member → String
  | property p => p.name
  | field f => f.name
  | method m => m.name

def isStatic : Member → Bool
  | property p => p.isStatic
  | field f => f.isStatic
  | method m => m.isStatic

def attributes : Member → List Attribute
  | property p => p.attributes
  | field f => f.attributes
  | method m => m.attributes

def property? : Member → Option Property
  | property p => some p
  | _ => none

def field? : Member → Option Field
  | field f => some f
  | _ => none

def method? : Member → Option Method
  | method m => some m
  | _ => none

end Member

end Companion
