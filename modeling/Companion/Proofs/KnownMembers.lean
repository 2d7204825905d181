import Companion.Model.Codec
import Companion.Proofs.DocumentCodec

/-!
# The Members of Program Documents

What a part of a program document stands for is told by a `DocumentKind`, and what an object stands
for by an `ObjectKind`. For an object of a kind `ObjectKind.known` lists the members that its
readers ask for, each with what it stands for in turn and with the values that may as well be
missing. The members of an object with a tag depend on what the tag says. A word that is written as
an object is its one key, under which nothing stands.

A record may be written as an object or as an array of its fields, and `ObjectKind.fields?` finds
the fields in either. The table of the members serves both: they have distinct keys, and the items
of an array stand under these keys in order.

## Main results

* `ObjectKind.nodup_known`: no two members have one key.
* `ObjectKind.names_eq_map_known`: the fields in an array are the known members, in order.
-/

namespace Companion

open Json (Value)
open Json.Decode

/-! ### What a document is made of -/

/-- What an object of a program document stands for. -/
inductive ObjectKind where
  | word
  /-- What stands under a word. -/
  | unit
  | reference
  | typeParameter
  | enumConstant
  | argument
  | namedArgument
  | appliedAttribute
  | location
  | parameter
  | member
  | method
  | definition
  | assembly
  | program
deriving Repr, DecidableEq

/-- What a part of a program document stands for. -/
inductive DocumentKind where
  /-- A text, a number or a truth value. -/
  | plain
  | list (item : DocumentKind)
  | object (o : ObjectKind)
deriving Repr, DecidableEq

/-- A member that the readers of an object ask for. -/
structure KnownMember where
  key : String
  kind : DocumentKind
  /-- Whether the member may as well be missing. -/
  isDefault : Value → Prop

namespace KnownMember

/-- A member that has to be there. -/
def required (key : String) (kind : DocumentKind := .plain) : KnownMember :=
  ⟨key, kind, fun _ => False⟩

/-- A member that may be `null`. -/
def optional (key : String) (kind : DocumentKind := .plain) : KnownMember :=
  ⟨key, kind, (· = .null)⟩

/-- A member with a default. -/
def defaulted {α : Type} (key : String) (decode : Value → Option α) (default : α) : KnownMember :=
  ⟨key, .plain, fun v => decode v = some default⟩

/-- A member with an object as its default, which is decoded with some room. -/
def defaultedObject {α ι : Type} (key : String) (o : ObjectKind) (decode : ι → Value → Option α)
    (default : α) : KnownMember :=
  ⟨key, .object o, fun v => ∃ i, decode i v = some default⟩

/-- A list, which may be empty. -/
def list (key : String) (item : ObjectKind) : KnownMember :=
  ⟨key, .list (.object item), (· = .array [])⟩

/-- A truth value with a default. -/
def flag (key : String) (default : Bool := false) : KnownMember :=
  .defaulted key bool default

/-- An accessibility with a default. -/
def accessibility (default : Accessibility) : KnownMember :=
  .defaultedObject "accessibility" .word
    (fun context : Bool × Nat => Accessibility.decodeIn context.1 context.2) default

end KnownMember

namespace ObjectKind

open KnownMember

/-- The members of a reference, its tag aside. -/
def variantMembers : Option String → List KnownMember
  | some "named" => [required "name", list "args" .reference]
  | some "array" =>
    [required "element" (.object .reference), defaulted "rank" uint8 1]
  | some "parameter" => [required "name"]
  | some "tuple" => [required "elements" (.list (.object .reference))]
  | _ => []

/-- The content of an attribute argument. -/
def contentMember : Option String → KnownMember
  | some "null" => optional "value"
  | some "type" => required "value" (.object .reference)
  | some "enum" => required "value" (.object .enumConstant)
  | some "array" => required "value" (.list (.object .argument))
  | _ => required "value"

def propertyMembers : List KnownMember :=
  [required "name",
    required "type" (.object .reference),
    accessibility .public,
    optional "getter_accessibility" (.object .word),
    flag "has_setter",
    flag "is_write_only",
    flag "is_static",
    flag "is_auto" true,
    flag "is_indexer",
    flag "is_implicit",
    list "attributes" .appliedAttribute,
    optional "location" (.object .location)]

def fieldMembers : List KnownMember :=
  [required "name",
    required "type" (.object .reference),
    accessibility .private,
    flag "is_static",
    flag "is_readonly",
    flag "is_implicit",
    list "attributes" .appliedAttribute,
    optional "location" (.object .location)]

def methodMembers : List KnownMember :=
  [required "name",
    defaultedObject "return_type" .reference
      (fun context : Bool × Nat => TypeRef.decode context.1 context.2) (.named "System.Void" []),
    list "parameters" .parameter,
    accessibility .private,
    flag "is_static",
    flag "is_override",
    flag "is_virtual",
    flag "is_abstract",
    flag "is_sealed",
    optional "explicit_interface" (.object .reference),
    list "attributes" .appliedAttribute,
    optional "location" (.object .location)]

/-- The members of a declaration, its tag aside. -/
def declarationMembers : Option String → List KnownMember
  | some "property" => propertyMembers
  | some "field" => fieldMembers
  | some "method" => methodMembers
  | _ => []

/-- The members that an object of a kind may have. Those of an object with a tag depend on the
tag, and a word is the one key of its object. -/
def known : ObjectKind → Fields → List KnownMember
  | word, [(key, _)] => [required key (.object .unit)]
  | word, _ => []
  | unit, _ => []
  | reference, fs =>
    required "kind" :: variantMembers (Json.Decode.required fs "kind" (TypeRef.variant? true))
  | typeParameter, _ =>
    [required "name",
      list "constraints" .reference,
      flag "reference_type",
      flag "value_type",
      flag "constructor"]
  | enumConstant, _ => [required "type_name", required "value", optional "member"]
  | argument, fs =>
    [required "kind" (.object .word),
      contentMember (Json.Decode.required fs "kind" (variant true 1))]
  | namedArgument, _ => [required "name", required "value" (.object .argument)]
  | appliedAttribute, _ =>
    [required "class", list "ctor_args" .argument, list "named_args" .namedArgument]
  | location, _ => [required "path", required "line"]
  | parameter, _ =>
    [required "name", required "type" (.object .reference), optional "default_value"]
  | member, fs =>
    required "member" :: declarationMembers (Json.Decode.required fs "member" text)
  | method, _ => methodMembers
  | definition, _ =>
    [defaulted "namespace" text "",
      required "name",
      list "type_parameters" .typeParameter,
      defaultedObject "kind" .word TypeKind.decode .class,
      accessibility .internal,
      flag "is_abstract",
      flag "is_static",
      flag "is_sealed",
      flag "is_partial",
      defaultedObject "origin" .word Origin.decode .source,
      optional "special" (.object .word),
      optional "base_type" (.object .reference),
      list "interfaces" .reference,
      list "attributes" .appliedAttribute,
      list "members" .member,
      optional "location" (.object .location)]
  | assembly, _ => [defaulted "name" text "", list "attributes" .appliedAttribute]
  | program, _ =>
    [defaultedObject "assembly" .assembly Assembly.decode {},
      list "types" .definition,
      flag "include_core_library" true]

/-- The content of an argument has its key whatever the tag is. -/
theorem key_contentMember (tag : Option String) : (contentMember tag).key = "value" := by
  fun_cases contentMember tag <;> rfl

/-- No two members have one key. -/
theorem nodup_known (o : ObjectKind) (fs : Fields) : ((o.known fs).map (·.key)).Nodup := by
  cases o with
  | word => rcases fs with _ | ⟨f, _ | ⟨g, rest⟩⟩ <;> simp [known]
  | reference =>
      rw [known]
      generalize Json.Decode.required fs "kind" (TypeRef.variant? true) = tag
      fun_cases variantMembers tag <;> decide
  | argument =>
      rw [known, List.map_cons, List.map_singleton, key_contentMember]
      decide
  | member =>
      rw [known]
      generalize Json.Decode.required fs "member" text = tag
      fun_cases declarationMembers tag <;> decide
  | _ =>
      dsimp only [known]
      decide

/-- The names of the items of an array that stands for an object. No array stands for a word. -/
def names : ObjectKind → List Value → List String
  | word | unit => fun _ => []
  | reference => TypeRef.fieldNames
  | typeParameter => fun _ => TypeParameter.fieldNames
  | enumConstant => fun _ => EnumConstant.fieldNames
  | argument => fun _ => AttributeValue.fieldNames
  | namedArgument => fun _ => NamedArgument.fieldNames
  | appliedAttribute => fun _ => Attribute.fieldNames
  | location => fun _ => Location.fieldNames
  | parameter => fun _ => Parameter.fieldNames
  | member => Member.fieldNames
  | method => fun _ => Method.fieldNames
  | definition => fun _ => TypeDef.fieldNames
  | assembly => fun _ => Assembly.fieldNames
  | program => fun _ => Program.fieldNames

/-- How many items of an array have to be there before any of them is read. -/
def least : ObjectKind → Nat
  | argument => 2
  | _ => 0

/-- The fields that readers of an object find in a document. -/
def fields? (o : ObjectKind) : Value → Option Fields := recordFields o.names o.least

/-- The fields of an object are its members. -/
@[simp]
theorem fields?_record (o : ObjectKind) (fs : Fields) : o.fields? (.record fs) = some fs :=
  recordFields_record o.names o.least

/-- The fields of a reference in an array are the members that it has in an object. -/
theorem map_key_variantMembers (tag : Option String) :
    (variantMembers tag).map (·.key) = TypeRef.variantFields tag := by
  fun_cases variantMembers tag with
  | case5 => rw [TypeRef.variantFields, List.map_nil] <;> assumption
  | _ => rfl

/-- The fields of a declaration in an array are the members that it has in an object. -/
theorem map_key_declarationMembers (tag : Option String) :
    (declarationMembers tag).map (·.key) = Member.declarationFields tag := by
  fun_cases declarationMembers tag with
  | case4 => rw [Member.declarationFields, List.map_nil] <;> assumption
  | _ => rfl

/-- No field of a reference has the key of the tag. -/
theorem kind_not_mem_variantFields (tag : Option String) :
    "kind" ∉ TypeRef.variantFields tag := by
  fun_cases TypeRef.variantFields tag <;> decide

/-- No field of a declaration has the key of the tag. -/
theorem member_not_mem_declarationFields (tag : Option String) :
    "member" ∉ Member.declarationFields tag := by
  fun_cases Member.declarationFields tag <;> decide

/-- The tag of an array of fields is its first item. -/
theorem required_zip {α : Type} {key : String} {keys : List String} (hkey : key ∉ keys)
    (vs : List Value) (decode : Value → Option α) :
    Json.Decode.required ((key :: keys).zip vs) key decode = vs.head?.bind decode := by
  cases vs with
  | nil => rfl
  | cons v vs =>
      refine required_cons_self fun hmem => hkey ?_
      obtain ⟨f, hf, rfl⟩ := List.mem_map.1 hmem
      exact (List.of_mem_zip hf).1

/-- The fields in an array are the known members, in order. -/
theorem names_eq_map_known {o : ObjectKind} {vs : List Value} {fs : Fields}
    (h : o.fields? (.array vs) = some fs) : o.names vs = (o.known fs).map (·.key) := by
  obtain ⟨-, -, rfl⟩ := recordFields_array_eq_some.1 h
  cases o with
  | reference =>
      rw [known, names, TypeRef.fieldNames, required_zip (kind_not_mem_variantFields _),
        List.map_cons, map_key_variantMembers]
      rfl
  | member =>
      rw [known, names, Member.fieldNames, required_zip (member_not_mem_declarationFields _),
        List.map_cons, map_key_declarationMembers]
      rfl
  | argument =>
      rw [known, List.map_cons, List.map_singleton, key_contentMember]
      rfl
  | _ => rfl

end ObjectKind

end Companion
