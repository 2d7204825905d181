import Companion.Json.Number

/-!
# JSON documents as trees

A document is kept as it was written: members keep their order and their repetitions,
and numbers are kept as literals. What a reader of the tree makes of that is decided where
the tree is decoded.

Two things about a document are questions of its own and are answered here.

* A string literal may name half of a surrogate pair, which no text holds. Such a literal
  is a `Value.string none`; a key of that kind is `none` as well.
* `Value.isStorable` tells whether a whole tree can be kept in memory as text, doubles and
  containers of a given depth.
-/

namespace Companion.Json

/-- A JSON document. -/
inductive Value where
  | null
  | bool (b : Bool)
  | number (n : Number)
  /-- The text of a string literal, or `none` when it names an unpaired surrogate. -/
  | string (text : Option String)
  | array (items : List Value)
  | object (members : List (Option String × Value))

namespace Value

/-- The string literal of a text. -/
def text (s : String) : Value := .string (some s)

/-- The literal of an integer. -/
def int (i : Int) : Value := .number (.integer (i < 0) i.natAbs)

/-- An object whose keys are texts. -/
def record (fields : List (String × Value)) : Value :=
  .object (fields.map fun (key, value) => (some key, value))

/-- The text of a string, `null` for an absent one. -/
def textOrNull : Option String → Value
  | some s => text s
  | none => null

end Value

mutual

/-- Whether a tree can be stored: every string and key is a text, every number is in range,
and arrays and objects nest at most `room` deep. -/
def Value.isStorable : Nat → Value → Bool
  | _, .null => true
  | _, .bool _ => true
  | _, .number n => n.isInRange
  | _, .string s => s.isSome
  | 0, .array _ => false
  | room + 1, .array items => areStorable room items
  | 0, .object _ => false
  | room + 1, .object members => membersStorable room members

/-- `isStorable` for the items of an array. -/
def Value.areStorable : Nat → List Value → Bool
  | _, [] => true
  | room, v :: vs => v.isStorable room && areStorable room vs

/-- `isStorable` for the members of an object. -/
def Value.membersStorable : Nat → List (Option String × Value) → Bool
  | _, [] => true
  | room, (key, v) :: rest => key.isSome && v.isStorable room && membersStorable room rest

end

end Companion.Json
