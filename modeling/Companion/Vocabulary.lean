import Companion.Model.TypeDef

/-!
# The vocabulary of attributes

The attributes by which a program asks for generated code and steers it, and the library
types whose presence turns features on. Attributes are told apart by the metadata name of
their class; the values of enumerations are those of the support library.
-/

namespace Companion

namespace Vocabulary

/-! ### Equality -/

def generatedEquality := "Uno.GeneratedEqualityAttribute"
def equalityIgnore := "Uno.EqualityIgnoreAttribute"
def equalityHash := "Uno.EqualityHashAttribute"
def equalityKey := "Uno.EqualityKeyAttribute"
def dataAnnotationsKey := "System.ComponentModel.DataAnnotations.KeyAttribute"
def equalityComparerOptions := "Uno.Equality.EqualityComparerOptionsAttribute"

/-! ### Immutable entities -/

def generatedImmutable := "Uno.GeneratedImmutableAttribute"
def immutable := "Uno.ImmutableAttribute"
def immutableBuilder := "Uno.ImmutableBuilderAttribute"
def immutableCopyIgnore := "Uno.ImmutableAttributeCopyIgnoreAttribute"
def immutableGenerationOptions := "Uno.ImmutableGenerationOptionsAttribute"
def treatAsImmutable := "Uno.TreatAsImmutableAttribute"

/-! ### Lifecycle methods -/

def constructorMethod := "Uno.ConstructorMethodAttribute"
def disposeMethod := "Uno.DisposeMethodAttribute"
def finalizerMethod := "Uno.FinalizerMethodAttribute"

/-! ### Library types -/

def keyEquatable := "Uno.Equality.IKeyEquatable"
def keyEquatableGeneric := "Uno.Equality.IKeyEquatable`1"
def option := "Uno.Option"
def optionGeneric := "Uno.Option`1"
def jsonConvert := "Newtonsoft.Json.JsonConvert"
def pureAttribute := "System.Diagnostics.Contracts.PureAttribute"

end Vocabulary

/-- The first attribute of a class. -/
def findAttribute? (attributes : List Attribute) (className : String) : Option Attribute :=
  attributes.find? (·.className == className)

def hasAttribute (attributes : List Attribute) (className : String) : Bool :=
  (findAttribute? attributes className).isSome

/-- How a key member takes part in key equality. -/
inductive KeyEqualityMode where
  /-- By its own key equality if its type has one, else by plain equality. -/
  | auto
  | useKeyEquality
  | useEquality
deriving Repr, DecidableEq

namespace KeyEqualityMode

def ofValue : Int64 → KeyEqualityMode
  | 1 => .useKeyEquality
  | 2 => .useEquality
  | _ => .auto

/-- The mode a key attribute declares by its first argument. -/
def ofAttribute (a : Attribute) : KeyEqualityMode :=
  ((a.arguments[0]?.bind (·.asInt?)).map ofValue).getD .auto

end KeyEqualityMode

/-- How collections are compared. -/
structure CollectionMode where
  sorted : Bool := false
  nullIsEmpty : Bool := false
deriving Repr, DecidableEq

/-- How texts are compared. -/
structure StringMode where
  ignoreCase : Bool := false
  emptyEqualsNull : Bool := false
deriving Repr, DecidableEq

/-- Two flags of a value, the lowest bit first. A value that is no byte has neither, and the
higher bits of a byte have no meaning. -/
def flagsOf (value : Int64) : Bool × Bool :=
  if 0 ≤ value && value ≤ 255 then
    let n := value.toInt.toNat
    (n.testBit 0, n.testBit 1)
  else (false, false)

/-- Two flags as a number, the lowest bit first. -/
def flagBits (first second : Bool) : Nat := first.toNat + 2 * second.toNat

def CollectionMode.ofValue (value : Int64) : CollectionMode :=
  ⟨(flagsOf value).1, (flagsOf value).2⟩

def CollectionMode.bits (m : CollectionMode) : Nat := flagBits m.sorted m.nullIsEmpty

def StringMode.ofValue (value : Int64) : StringMode := ⟨(flagsOf value).1, (flagsOf value).2⟩

def StringMode.bits (m : StringMode) : Nat := flagBits m.ignoreCase m.emptyEqualsNull

/-- How the values of one member are compared. -/
structure ComparerOptions where
  /-- `none` when the collection mode is left to the type of the member. -/
  collection : Option CollectionMode := none
  string : StringMode := {}
deriving Repr, DecidableEq

/-- The options an attribute gives by name; the defaults without an attribute. -/
def ComparerOptions.ofAttribute (applied : Option Attribute) : ComparerOptions :=
  let value (name : String) : Option Int64 :=
    applied.bind fun a => (a.named? name).bind (·.asInt?)
  { collection := (value "CollectionMode").map CollectionMode.ofValue
    string := ((value "StringMode").map StringMode.ofValue).getD {} }

/-- Assembly-wide defaults of the immutable generator. -/
structure ImmutableOptions where
  treatArrayAsImmutable : Bool := false
  generateOptionCode : Bool := true
  generateEqualityByDefault : Bool := true
  generateJsonConverters : Bool := true
deriving Repr, DecidableEq

/-- The options an attribute gives by name; the defaults without an attribute. -/
def ImmutableOptions.ofAttribute (applied : Option Attribute) : ImmutableOptions :=
  let defaults : ImmutableOptions := {}
  let flag (name : String) (default : Bool) : Bool :=
    (applied.bind fun a => (a.named? name).bind (·.asBool?)).getD default
  { treatArrayAsImmutable := flag "TreatArrayAsImmutable" defaults.treatArrayAsImmutable
    generateOptionCode := flag "GenerateOptionCode" defaults.generateOptionCode
    generateEqualityByDefault :=
      flag "GenerateEqualityByDefault" defaults.generateEqualityByDefault
    generateJsonConverters :=
      flag "GenerateNewtownsoftJsonNetConverters" defaults.generateJsonConverters }

end Companion
