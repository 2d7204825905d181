import Companion.Json.Value

/-!
# Writing JSON text

`Value.render` writes a document on one line without blanks, members in the order they
have. Within strings the quote, the backslash and the control characters are escaped, and
every other character stands for itself.
-/

namespace Companion.Json

namespace Writer

/-- A hexadecimal digit, in lower case. -/
def hexChar (n : Nat) : Char :=
  if n < 10 then Char.ofNat ('0'.toNat + n) else Char.ofNat ('a'.toNat + (n - 10))

/-- What stands for a character within a string literal. -/
def escapeChar (c : Char) : List Char :=
  if c = '"' then ['\\', '"']
  else if c = '\\' then ['\\', '\\']
  else if c = '\x08' then ['\\', 'b']
  else if c = '\x0c' then ['\\', 'f']
  else if c = '\n' then ['\\', 'n']
  else if c = '\r' then ['\\', 'r']
  else if c = '\t' then ['\\', 't']
  else if c.toNat < 0x20 then ['\\', 'u', '0', '0', hexChar (c.toNat / 16), hexChar (c.toNat % 16)]
  else [c]

/-- A text as a string literal. -/
def quote (s : String) : String :=
  "\"" ++ String.ofList (s.toList.flatMap escapeChar) ++ "\""

/-- A string literal; one that is no text names a lone first half of a surrogate pair. -/
def string : Option String → String
  | some s => quote s
  | none => "\"\\ud800\""

/-- A number literal. -/
def number : Number → String
  | .integer negative n => (if negative then "-" else "") ++ toString n
  | .decimal negative n e => (if negative then "-" else "") ++ toString n ++ "e" ++ toString e

end Writer

mutual

/-- The text of a document. -/
def Value.render : Value → String
  | .null => "null"
  | .bool true => "true"
  | .bool false => "false"
  | .number n => Writer.number n
  | .string s => Writer.string s
  | .array items => "[" ++ renderItems items ++ "]"
  | .object members => "\x7b" ++ renderMembers members ++ "\x7d"

/-- The items of an array, separated by commas. -/
def Value.renderItems : List Value → String
  | [] => ""
  | [v] => v.render
  | v :: w :: rest => v.render ++ "," ++ renderItems (w :: rest)

/-- The members of an object, separated by commas. -/
def Value.renderMembers : List (Option String × Value) → String
  | [] => ""
  | [(key, v)] => Writer.string key ++ ":" ++ v.render
  | (key, v) :: m :: rest =>
    Writer.string key ++ ":" ++ v.render ++ "," ++ renderMembers (m :: rest)

end

end Companion.Json
