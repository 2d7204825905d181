import Companion.Model.TypeRef
import Companion.Text

/-!
# Spelling references in source text

A reference is written in two ways. `TypeRef.display` gives a text that means the type in any
namespace: keywords for the built-in types, `T?` for a nullable value type and a name
qualified from `global::` for the rest. `TypeRef.friendly` gives the short text that messages
show.

Both write the name of a definition by `sourceName`, which drops what a metadata name adds:
everything from the first backtick of a segment on, where segments end at points.
-/

namespace Companion

/-- The keyword for a built-in type. -/
def keyword? : String → Option String
  | "System.Object" => some "object"
  | "System.Void" => some "void"
  | "System.Boolean" => some "bool"
  | "System.Char" => some "char"
  | "System.SByte" => some "sbyte"
  | "System.Byte" => some "byte"
  | "System.Int16" => some "short"
  | "System.UInt16" => some "ushort"
  | "System.Int32" => some "int"
  | "System.UInt32" => some "uint"
  | "System.Int64" => some "long"
  | "System.UInt64" => some "ulong"
  | "System.Decimal" => some "decimal"
  | "System.Single" => some "float"
  | "System.Double" => some "double"
  | "System.String" => some "string"
  | _ => none

/-- The source form of a metadata name: each segment up to its first backtick, and points in
place of the `+` of nested types. -/
def sourceName (metadataName : String) : String :=
  Text.replaceChar '+' '.'
    (Text.join "." ((Text.split '.' metadataName).map (Text.before '`')))

/-- The last segment of a source name. -/
def simpleName (metadataName : String) : String :=
  ((Text.split '.' (sourceName metadataName)).getLast?).getD ""

/-- The texts that two ways of spelling a reference differ in. -/
structure Spelling where
  /-- How a definition is named. -/
  definition : String → String
  /-- Whether `System.Nullable` of a type is written with a question mark. -/
  marksNullable : Bool

namespace TypeRef

mutual

/-- The text of a reference. -/
def spell (σ : Spelling) : TypeRef → String
  | named name [] => (keyword? name).getD (σ.definition name)
  | named name [arg] =>
    if σ.marksNullable && name == "System.Nullable`1" then spell σ arg ++ "?"
    else σ.definition name ++ "<" ++ spell σ arg ++ ">"
  | named name args => σ.definition name ++ "<" ++ Text.join ", " (spellAll σ args) ++ ">"
  | array element rank =>
    spell σ element ++ "[" ++ Text.replicate (rank.toNat - 1) ',' ++ "]"
  | parameter name => name
  | tuple elements => "(" ++ Text.join ", " (spellAll σ elements) ++ ")"

/-- The texts of a list of references. -/
def spellAll (σ : Spelling) : List TypeRef → List String
  | [] => []
  | t :: ts => spell σ t :: spellAll σ ts

end

/-- The fully qualified spelling, valid in any namespace. -/
def display : TypeRef → String := spell ⟨fun name => "global::" ++ sourceName name, true⟩

/-- The short spelling that messages show. -/
def friendly : TypeRef → String := spell ⟨simpleName, false⟩

end TypeRef

end Companion
