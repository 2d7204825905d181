import Companion.Config
import Companion.Model.Spelling

/-!
# Copying attributes to builders

The attributes of a property are repeated on the builder's property, in the form in which source
code writes them. A copy-ignore pattern keeps those attributes off whose written form it
matches; patterns are given for the assembly, for the type and for the property.
-/

namespace Companion

namespace AttributeValue

/-- A character within a text literal. -/
def escapeChar : Char → List Char
  | '\\' => ['\\', '\\']
  | '"' => ['\\', '"']
  | '\n' => ['\\', 'n']
  | '\r' => ['\\', 'r']
  | '\t' => ['\\', 't']
  | c => [c]

/-- The body of the literal for a text. -/
def escape (text : String) : String := String.ofList (text.toList.flatMap escapeChar)

mutual

/-- An argument as source code writes it. -/
def written : AttributeValue → String
  | null => "null"
  | bool b => if b then "true" else "false"
  | int i => toString i.toInt
  | string s => "\"" ++ escape s ++ "\""
  | type t => "typeof(" ++ t.display ++ ")"
  | enum e =>
    let type := (TypeRef.named e.typeName []).display
    match e.member with
    | some member => type ++ "." ++ member
    | none => "(" ++ type ++ ")" ++ toString e.value.toInt
  | array [] => "new object[0]"
  | array items => "new[] \x7b " ++ Text.join ", " (writtenAll items) ++ " \x7d"

/-- Arguments as source code writes them. -/
def writtenAll : List AttributeValue → List String
  | [] => []
  | v :: vs => written v :: writtenAll vs

end

end AttributeValue

/-- An attribute as source code writes it, without brackets. -/
def Attribute.written (a : Attribute) : String :=
  let name := Text.replaceChar '+' '.' a.className
  let arguments :=
    a.arguments.map AttributeValue.written ++
      a.namedArguments.map fun n => n.name ++ " = " ++ n.value.written
  if arguments.isEmpty then name else name ++ "(" ++ Text.join ", " arguments ++ ")"

/-- Whether one of the patterns keeps an attribute off. -/
def Attribute.isIgnored (patterns : List Pattern) (a : Attribute) : Bool :=
  patterns.any (·.isMatch a.written)

/-- The lines that repeat the attributes which no pattern keeps off. -/
def copiedAttributes (patterns : List Pattern) (attributes : List Attribute) : List String :=
  (attributes.filter fun a => !a.isIgnored patterns).map fun a => "[global::" ++ a.written ++ "]"

end Companion
