import Companion.Json.Decode
import Companion.Model.TypeDef

/-!
# Programs as JSON documents

For each type of the model, `encode` writes a value as a document and `decode` reads it back.
An object is written with all its fields, defaults and `null` included; the one exception is
that a named reference without arguments has no `args`. A reader accepts the fields in any
order and supplies defaults, by the rules of `Companion.Json.Decode`. It accepts an array of the
fields as well, in the order in which they are written; `fieldNames` tells what they are.

Three kinds of object say by a *tag* what they are: a `TypeRef` by `kind`, a `Member` by
`member`, an `AttributeValue` by `kind`, with its content under `value`. In an array the tag is
the first item. As the tag of an object may come last, references and members are *buffered*, that
is stored as a tree before their tag is known, and so is the content of an attribute value that
precedes its tag. A buffered tree has to be storable (`Json.Value.isStorable`), parts that nobody
asks for included; of other objects the parts that nobody asks for are skipped without a look.
Within a buffered tree the tag of a reference may also be the position of its variant, and a word
may have an empty object under it.

`Program.nesting` is how deep arrays and objects may nest.
-/

namespace Companion

open Json (Value)
open Json.Decode

/-- Arrays and objects of a program document nest at most this deep. -/
def Program.nesting : Nat := 127

/-- A list, each item encoded. -/
def encodeList {α : Type} (encode : α → Value) (xs : List α) : Value := .array (xs.map encode)

/-- A value that may be missing; `null` when it is. -/
def encodeOption {α : Type} (encode : α → Value) : Option α → Value
  | some x => encode x
  | none => .null

/-- The word that stands for a value. -/
def encodeWord {α : Type} [BEq α] (words : List (String × α)) (x : α) : Value :=
  .textOrNull ((words.find? (·.2 == x)).map (·.1))

/-! ### Type references -/

namespace TypeRef

/-- The words for the variants of a reference, in order. -/
def variants : List String := ["named", "array", "parameter", "tuple"]

/-- The variant a tag names: by its word or, if `numbered`, by its position. -/
def variant? (numbered : Bool) : Value → Option String
  | .string (some s) => some s
  | .number n =>
    if numbered then n.toInt?.bind fun i => if i < 0 then none else variants[i.toNat]? else none
  | _ => none

/-- The fields of a reference of a variant, in order, its tag aside. -/
def variantFields : Option String → List String
  | some "named" => ["name", "args"]
  | some "array" => ["element", "rank"]
  | some "parameter" => ["name"]
  | some "tuple" => ["elements"]
  | _ => []

/-- The fields of a reference that is written as an array. -/
def fieldNames (items : List Value) : List String :=
  "kind" :: variantFields (items.head?.bind (variant? true))

mutual

/-- A reference within a storable tree. -/
def decodeStored (numbered : Bool) : Nat → Value → Option TypeRef
  | 0, _ => none
  | room + 1, v => do
    let fs ← recordFields fieldNames 0 v
    match ← required fs "kind" (variant? numbered) with
    | "named" =>
      return named (← required fs "name" text)
        (← defaulted fs "args" [] (decodeStoredList room))
    | "array" =>
      return array (← required fs "element" (decodeStored true room))
        (← defaulted fs "rank" 1 uint8)
    | "parameter" => return parameter (← required fs "name" text)
    | "tuple" => return tuple (← required fs "elements" (decodeStoredList room))
    | _ => none

/-- A list of references within a storable tree. -/
def decodeStoredList : Nat → Value → Option (List TypeRef)
  | room + 1, .array items => items.mapM (decodeStored true room)
  | _, _ => none

end

/-- A reference; `buffered` if the tree it is part of is. -/
def decode (buffered : Bool) (room : Nat) (v : Value) : Option TypeRef :=
  if v.isStorable room then decodeStored buffered room v else none

mutual

/-- The document of a reference. -/
def encode : TypeRef → Value
  | named name [] => .record [("kind", .text "named"), ("name", .text name)]
  | named name (t :: ts) =>
    .record [("kind", .text "named"), ("name", .text name), ("args", .array (encodeAll (t :: ts)))]
  | array element rank =>
    .record [("kind", .text "array"), ("element", encode element), ("rank", .int rank.toNat)]
  | parameter name => .record [("kind", .text "parameter"), ("name", .text name)]
  | tuple elements =>
    .record [("kind", .text "tuple"), ("elements", .array (encodeAll elements))]

/-- The documents of a list of references. -/
def encodeAll : List TypeRef → List Value
  | [] => []
  | t :: ts => encode t :: encodeAll ts

end

end TypeRef

namespace TypeParameter

def fieldNames : List String :=
  ["name", "constraints", "reference_type", "value_type", "constructor"]

def decode : Nat → Value → Option TypeParameter :=
  record (fun _ => fieldNames) fun room fs => do
    return {
      name := ← required fs "name" text
      constraints := ← defaulted fs "constraints" [] (list (TypeRef.decode false) room)
      isReferenceType := ← defaulted fs "reference_type" false bool
      isValueType := ← defaulted fs "value_type" false bool
      hasConstructor := ← defaulted fs "constructor" false bool }

def encode (p : TypeParameter) : Value :=
  .record [
    ("name", .text p.name),
    ("constraints", encodeList TypeRef.encode p.constraints),
    ("reference_type", .bool p.isReferenceType),
    ("value_type", .bool p.isValueType),
    ("constructor", .bool p.hasConstructor)]

end TypeParameter

/-! ### Attributes -/

namespace EnumConstant

def fieldNames : List String := ["type_name", "value", "member"]

def decode : Nat → Value → Option EnumConstant :=
  record (fun _ => fieldNames) fun _ fs => do
    return {
      typeName := ← required fs "type_name" text
      value := ← required fs "value" int64
      member := ← optional fs "member" text }

def encode (e : EnumConstant) : Value :=
  .record [
    ("type_name", .text e.typeName),
    ("value", .int e.value.toInt),
    ("member", .textOrNull e.member)]

end EnumConstant

/-- Whether the content of a tagged object stands before its tag. -/
def contentFirst (fs : Fields) : Bool :=
  (fs.find? fun (key, _) => key == "kind" || key == "value").any (·.1 == "value")

namespace AttributeValue

def fieldNames : List String := ["kind", "value"]

mutual

/-- An attribute argument; `buffered` if the tree it is part of is. An array holds both tag and
content, and the tag is read as a word. -/
def decode (buffered : Bool) : Nat → Value → Option AttributeValue
  | 0, _ => none
  | room + 1, v => do
    let fs ← recordFields (fun _ => fieldNames) 2 v
    let kind ← required fs "kind" (variant buffered room)
    let content ← member? fs "value"
    if contentFirst fs && !content.all (·.isStorable room) then none
    else
      let buffered := buffered || contentFirst fs
      match kind, content with
      | "null", none => return null
      | "null", some .null => return null
      | "bool", some v => return bool (← Json.Decode.bool v)
      | "int", some v => return int (← int64 v)
      | "string", some v => return string (← text v)
      | "type", some v => return type (← TypeRef.decode buffered room v)
      | "enum", some v => return enum (← EnumConstant.decode room v)
      | "array", some v => return array (← decodeList buffered room v)
      | _, _ => none

/-- A list of attribute arguments. -/
def decodeList (buffered : Bool) : Nat → Value → Option (List AttributeValue)
  | room + 1, .array items => items.mapM (decode buffered room)
  | _, _ => none

end

mutual

/-- The document of an attribute argument. -/
def encode : AttributeValue → Value
  | null => .record [("kind", .text "null")]
  | bool b => .record [("kind", .text "bool"), ("value", .bool b)]
  | int i => .record [("kind", .text "int"), ("value", .int i.toInt)]
  | string s => .record [("kind", .text "string"), ("value", .text s)]
  | type t => .record [("kind", .text "type"), ("value", t.encode)]
  | enum e => .record [("kind", .text "enum"), ("value", e.encode)]
  | array items => .record [("kind", .text "array"), ("value", .array (encodeAll items))]

/-- The documents of a list of attribute arguments. -/
def encodeAll : List AttributeValue → List Value
  | [] => []
  | a :: as => encode a :: encodeAll as

end

end AttributeValue

namespace NamedArgument

def fieldNames : List String := ["name", "value"]

def decode (buffered : Bool) : Nat → Value → Option NamedArgument :=
  record (fun _ => fieldNames) fun room fs => do
    return {
      name := ← required fs "name" text
      value := ← required fs "value" (AttributeValue.decode buffered room) }

def encode (a : NamedArgument) : Value :=
  .record [("name", .text a.name), ("value", a.value.encode)]

end NamedArgument

namespace Attribute

def fieldNames : List String := ["class", "ctor_args", "named_args"]

def decode (buffered : Bool) : Nat → Value → Option Attribute :=
  record (fun _ => fieldNames) fun room fs => do
    return {
      className := ← required fs "class" text
      arguments := ← defaulted fs "ctor_args" [] (list (AttributeValue.decode buffered) room)
      namedArguments := ← defaulted fs "named_args" [] (list (NamedArgument.decode buffered) room) }

def encode (a : Attribute) : Value :=
  .record [
    ("class", .text a.className),
    ("ctor_args", encodeList AttributeValue.encode a.arguments),
    ("named_args", encodeList NamedArgument.encode a.namedArguments)]

end Attribute

/-! ### Members -/

namespace Accessibility

def words : List (String × Accessibility) :=
  [("private", .private), ("private_protected", .privateProtected), ("protected", .protected),
    ("internal", .internal), ("protected_internal", .protectedInternal), ("public", .public)]

/-- An accessibility; `buffered` if the tree it is part of is. -/
def decodeIn (buffered : Bool) : Nat → Value → Option Accessibility := word words buffered

/-- An accessibility on its own. -/
def decode : Value → Option Accessibility := decodeIn false Program.nesting

def encode : Accessibility → Value := encodeWord words

end Accessibility

namespace Location

def fieldNames : List String := ["path", "line"]

def decode : Nat → Value → Option Location :=
  record (fun _ => fieldNames) fun _ fs => do
    return { path := ← required fs "path" text, line := ← required fs "line" uint32 }

def encode (l : Location) : Value :=
  .record [("path", .text l.path), ("line", .int l.line.toNat)]

end Location

namespace Property

def fieldNames : List String :=
  ["name", "type", "accessibility", "getter_accessibility", "has_setter", "is_write_only",
    "is_static", "is_auto", "is_indexer", "is_implicit", "attributes", "location"]

/-- The fields of a property, within a buffered member. -/
def decodeFields (room : Nat) (fs : Fields) : Option Property := do
  return {
    name := ← required fs "name" text
    type := ← required fs "type" (TypeRef.decode true room)
    accessibility := ← defaulted fs "accessibility" .public (Accessibility.decodeIn true room)
    declaredGetterAccessibility := ←
      optional fs "getter_accessibility" (Accessibility.decodeIn true room)
    hasSetter := ← defaulted fs "has_setter" false bool
    isWriteOnly := ← defaulted fs "is_write_only" false bool
    isStatic := ← defaulted fs "is_static" false bool
    isAuto := ← defaulted fs "is_auto" true bool
    isIndexer := ← defaulted fs "is_indexer" false bool
    isImplicit := ← defaulted fs "is_implicit" false bool
    attributes := ← defaulted fs "attributes" [] (list (Attribute.decode true) room)
    location := ← optional fs "location" (Location.decode room) }

def encodeFields (p : Property) : Fields :=
  [("name", .text p.name),
    ("type", p.type.encode),
    ("accessibility", p.accessibility.encode),
    ("getter_accessibility", encodeOption Accessibility.encode p.declaredGetterAccessibility),
    ("has_setter", .bool p.hasSetter),
    ("is_write_only", .bool p.isWriteOnly),
    ("is_static", .bool p.isStatic),
    ("is_auto", .bool p.isAuto),
    ("is_indexer", .bool p.isIndexer),
    ("is_implicit", .bool p.isImplicit),
    ("attributes", encodeList Attribute.encode p.attributes),
    ("location", encodeOption Location.encode p.location)]

end Property

namespace Field

def fieldNames : List String :=
  ["name", "type", "accessibility", "is_static", "is_readonly", "is_implicit", "attributes",
    "location"]

/-- The fields of a field declaration, within a buffered member. -/
def decodeFields (room : Nat) (fs : Fields) : Option Field := do
  return {
    name := ← required fs "name" text
    type := ← required fs "type" (TypeRef.decode true room)
    accessibility := ← defaulted fs "accessibility" .private (Accessibility.decodeIn true room)
    isStatic := ← defaulted fs "is_static" false bool
    isReadonly := ← defaulted fs "is_readonly" false bool
    isImplicit := ← defaulted fs "is_implicit" false bool
    attributes := ← defaulted fs "attributes" [] (list (Attribute.decode true) room)
    location := ← optional fs "location" (Location.decode room) }

def encodeFields (f : Field) : Fields :=
  [("name", .text f.name),
    ("type", f.type.encode),
    ("accessibility", f.accessibility.encode),
    ("is_static", .bool f.isStatic),
    ("is_readonly", .bool f.isReadonly),
    ("is_implicit", .bool f.isImplicit),
    ("attributes", encodeList Attribute.encode f.attributes),
    ("location", encodeOption Location.encode f.location)]

end Field

namespace Parameter

def fieldNames : List String := ["name", "type", "default_value"]

/-- A parameter; `buffered` if the tree it is part of is. -/
def decode (buffered : Bool) : Nat → Value → Option Parameter :=
  record (fun _ => fieldNames) fun room fs => do
    return {
      name := ← required fs "name" text
      type := ← required fs "type" (TypeRef.decode buffered room)
      defaultValue := ← optional fs "default_value" text }

def encode (p : Parameter) : Value :=
  .record [
    ("name", .text p.name),
    ("type", p.type.encode),
    ("default_value", .textOrNull p.defaultValue)]

end Parameter

namespace Method

def fieldNames : List String :=
  ["name", "return_type", "parameters", "accessibility", "is_static", "is_override", "is_virtual",
    "is_abstract", "is_sealed", "explicit_interface", "attributes", "location"]

/-- The fields of a method; `buffered` if the tree they are part of is. -/
def decodeFields (buffered : Bool) (room : Nat) (fs : Fields) : Option Method := do
  return {
    name := ← required fs "name" text
    returnType := ← defaulted fs "return_type" (.named "System.Void" [])
      (TypeRef.decode buffered room)
    parameters := ← defaulted fs "parameters" [] (list (Parameter.decode buffered) room)
    accessibility := ← defaulted fs "accessibility" .private (Accessibility.decodeIn buffered room)
    isStatic := ← defaulted fs "is_static" false bool
    isOverride := ← defaulted fs "is_override" false bool
    isVirtual := ← defaulted fs "is_virtual" false bool
    isAbstract := ← defaulted fs "is_abstract" false bool
    isSealed := ← defaulted fs "is_sealed" false bool
    explicitInterface := ← optional fs "explicit_interface" (TypeRef.decode buffered room)
    attributes := ← defaulted fs "attributes" [] (list (Attribute.decode buffered) room)
    location := ← optional fs "location" (Location.decode room) }

def encodeFields (m : Method) : Fields :=
  [("name", .text m.name),
    ("return_type", m.returnType.encode),
    ("parameters", encodeList Parameter.encode m.parameters),
    ("accessibility", m.accessibility.encode),
    ("is_static", .bool m.isStatic),
    ("is_override", .bool m.isOverride),
    ("is_virtual", .bool m.isVirtual),
    ("is_abstract", .bool m.isAbstract),
    ("is_sealed", .bool m.isSealed),
    ("explicit_interface", encodeOption TypeRef.encode m.explicitInterface),
    ("attributes", encodeList Attribute.encode m.attributes),
    ("location", encodeOption Location.encode m.location)]

/-- A method on its own, which needs no tag. -/
def decode : Nat → Value → Option Method := record (fun _ => fieldNames) (decodeFields false)

end Method

namespace Member

/-- The fields of a declaration, by the word that announces it. -/
def declarationFields : Option String → List String
  | some "property" => Property.fieldNames
  | some "field" => Field.fieldNames
  | some "method" => Method.fieldNames
  | _ => []

/-- The fields of a member that is written as an array. -/
def fieldNames (items : List Value) : List String :=
  "member" :: declarationFields (items.head?.bind text)

/-- A member. Its tag stands among the fields of the declaration it announces. -/
def decode (room : Nat) (v : Value) : Option Member :=
  if v.isStorable room then
    record fieldNames (fun room fs => do
      match ← required fs "member" text with
      | "property" => return property (← Property.decodeFields room fs)
      | "field" => return field (← Field.decodeFields room fs)
      | "method" => return method (← Method.decodeFields true room fs)
      | _ => none) room v
  else none

def encode : Member → Value
  | property p => .record (("member", .text "property") :: p.encodeFields)
  | field f => .record (("member", .text "field") :: f.encodeFields)
  | method m => .record (("member", .text "method") :: m.encodeFields)

end Member

/-! ### Definitions and programs -/

namespace TypeKind

def words : List (String × TypeKind) :=
  [("class", .class), ("struct", .struct), ("interface", .interface), ("enum", .enum)]

def decode : Nat → Value → Option TypeKind := word words false

def encode : TypeKind → Value := encodeWord words

end TypeKind

namespace Origin

def words : List (String × Origin) := [("source", .source), ("metadata", .metadata)]

def decode : Nat → Value → Option Origin := word words false

def encode : Origin → Value := encodeWord words

end Origin

namespace SpecialType

def words : List (String × SpecialType) :=
  [("object", .object), ("void", .void), ("boolean", .boolean), ("char", .char),
    ("s_byte", .sbyte), ("byte", .byte), ("int16", .int16), ("u_int16", .uint16),
    ("int32", .int32), ("u_int32", .uint32), ("int64", .int64), ("u_int64", .uint64),
    ("decimal", .decimal), ("single", .single), ("double", .double), ("string", .string),
    ("int_ptr", .intPtr), ("u_int_ptr", .uintPtr), ("date_time", .dateTime), ("enum", .enum),
    ("value_type", .valueType), ("array", .array)]

def decode : Nat → Value → Option SpecialType := word words false

def encode : SpecialType → Value := encodeWord words

end SpecialType

namespace TypeDef

def fieldNames : List String :=
  ["namespace", "name", "type_parameters", "kind", "accessibility", "is_abstract", "is_static",
    "is_sealed", "is_partial", "origin", "special", "base_type", "interfaces", "attributes",
    "members", "location"]

def decode : Nat → Value → Option TypeDef :=
  record (fun _ => fieldNames) fun room fs => do
    return {
      «namespace» := ← defaulted fs "namespace" "" text
      name := ← required fs "name" text
      typeParameters := ← defaulted fs "type_parameters" [] (list TypeParameter.decode room)
      kind := ← defaulted fs "kind" .class (TypeKind.decode room)
      accessibility := ← defaulted fs "accessibility" .internal (Accessibility.decodeIn false room)
      isAbstract := ← defaulted fs "is_abstract" false bool
      isStatic := ← defaulted fs "is_static" false bool
      isSealed := ← defaulted fs "is_sealed" false bool
      isPartial := ← defaulted fs "is_partial" false bool
      origin := ← defaulted fs "origin" .source (Origin.decode room)
      special := ← optional fs "special" (SpecialType.decode room)
      baseType := ← optional fs "base_type" (TypeRef.decode false room)
      interfaces := ← defaulted fs "interfaces" [] (list (TypeRef.decode false) room)
      attributes := ← defaulted fs "attributes" [] (list (Attribute.decode false) room)
      members := ← defaulted fs "members" [] (list Member.decode room)
      location := ← optional fs "location" (Location.decode room) }

def encode (d : TypeDef) : Value :=
  .record [
    ("namespace", .text d.namespace),
    ("name", .text d.name),
    ("type_parameters", encodeList TypeParameter.encode d.typeParameters),
    ("kind", d.kind.encode),
    ("accessibility", d.accessibility.encode),
    ("is_abstract", .bool d.isAbstract),
    ("is_static", .bool d.isStatic),
    ("is_sealed", .bool d.isSealed),
    ("is_partial", .bool d.isPartial),
    ("origin", d.origin.encode),
    ("special", encodeOption SpecialType.encode d.special),
    ("base_type", encodeOption TypeRef.encode d.baseType),
    ("interfaces", encodeList TypeRef.encode d.interfaces),
    ("attributes", encodeList Attribute.encode d.attributes),
    ("members", encodeList Member.encode d.members),
    ("location", encodeOption Location.encode d.location)]

end TypeDef

namespace Assembly

def fieldNames : List String := ["name", "attributes"]

def decode : Nat → Value → Option Assembly :=
  record (fun _ => fieldNames) fun room fs => do
    return {
      name := ← defaulted fs "name" "" text
      attributes := ← defaulted fs "attributes" [] (list (Attribute.decode false) room) }

def encode (a : Assembly) : Value :=
  .record [("name", .text a.name), ("attributes", encodeList Attribute.encode a.attributes)]

end Assembly

namespace Program

def fieldNames : List String := ["assembly", "types", "include_core_library"]

def decode : Nat → Value → Option Program :=
  record (fun _ => fieldNames) fun room fs => do
    return {
      assembly := ← defaulted fs "assembly" {} (Assembly.decode room)
      types := ← defaulted fs "types" [] (list TypeDef.decode room)
      includesCoreLibrary := ← defaulted fs "include_core_library" true bool }

def encode (p : Program) : Value :=
  .record [
    ("assembly", p.assembly.encode),
    ("types", encodeList TypeDef.encode p.types),
    ("include_core_library", .bool p.includesCoreLibrary)]

end Program

end Companion
