import Companion.Json.Value

/-!
# Decoding documents

The rules by which a tree becomes a typed value, in parts that are put together field by
field.

* Only what is asked for is looked at: members of an object under other keys are skipped.
* A key that is asked for may stand in the object once.
* A missing member takes its default, if it has one. `null` stands for a missing member only
  where the field is optional.
* A record may also be written as an array of its fields, in their order. The array may end early,
  as far as the fields that are missing then have defaults, but it holds nothing else.
* A word is written as a text, or as the one key of an object with nothing under it.
* Nothing is coerced: a text is no number and a number no truth value.

Every decoder of an array or an object takes the number of levels that may still nest, and
hands one less on to the parts.
-/

namespace Companion.Json.Decode

variable {α : Type}

/-- The members of an object, as a decoder sees them. -/
abbrev Fields := List (String × Value)

/-! ### Leaves -/

def text : Value → Option String
  | .string s => s
  | _ => none

def bool : Value → Option Bool
  | .bool b => some b
  | _ => none

/-- An integer between two bounds. -/
def integer (least greatest : Int) : Value → Option Int
  | .number n => n.toInt?.filter fun i => least ≤ i && i ≤ greatest
  | _ => none

def uint8 (v : Value) : Option UInt8 := (integer 0 255 v).map fun i => i.toNat.toUInt8

def uint32 (v : Value) : Option UInt32 :=
  (integer 0 4294967295 v).map fun i => i.toNat.toUInt32

def int64 (v : Value) : Option Int64 :=
  (integer (-9223372036854775808) 9223372036854775807 v).map Int64.ofInt

/-! ### Words -/

/-- Whether nothing stands under a word: `null` or, within a stored tree, an object without
members. -/
def isUnit (buffered : Bool) : Value → Bool
  | .null => true
  | .object [] => buffered
  | _ => false

/-- A word: a text, or the key of an object that has nothing but the word. -/
def variant (buffered : Bool) : Nat → Value → Option String
  | _, .string s => s
  | _ + 1, .object [(key, content)] => if isUnit buffered content then key else none
  | _, _ => none

/-- One of a list of words, exactly as written there. -/
def word (words : List (String × α)) (buffered : Bool) (room : Nat) (v : Value) : Option α :=
  (variant buffered room v).bind (words.lookup ·)

/-! ### Arrays and records -/

/-- An array, each item decoded with one level less to spend. -/
def list (item : Nat → Value → Option α) : Nat → Value → Option (List α)
  | room + 1, .array items => items.mapM (item room)
  | _, _ => none

/-- The members of an object; every key has to be a text. -/
def fields : Value → Option Fields
  | .object members => members.mapM fun (key, value) => key.map (·, value)
  | _ => none

/-- The fields of a record: the members of an object, or the items of an array under the names of
the fields. The items may tell what the names are, and `least` of them have to be there. -/
def recordFields (names : List Value → List String) (least : Nat) : Value → Option Fields
  | .array items =>
    if least ≤ items.length ∧ items.length ≤ (names items).length then
      some ((names items).zip items)
    else none
  | v => fields v

/-- A record, its fields decoded with one level less to spend. -/
def record (names : List Value → List String) (content : Nat → Fields → Option α) :
    Nat → Value → Option α
  | room + 1, v => (recordFields names 0 v).bind (content room)
  | 0, _ => none

/-- The member under a key, if there is one; refuses a key that stands in the object twice. -/
def member? (fs : Fields) (key : String) : Option (Option Value) :=
  match fs.filter (·.1 == key) with
  | [] => some none
  | [(_, v)] => some (some v)
  | _ => none

/-- A member that has to be there. -/
def required (fs : Fields) (key : String) (decode : Value → Option α) : Option α := do
  match ← member? fs key with
  | some v => decode v
  | none => none

/-- A member that takes a default when it is missing. -/
def defaulted (fs : Fields) (key : String) (default : α) (decode : Value → Option α) :
    Option α := do
  match ← member? fs key with
  | some v => decode v
  | none => some default

/-- A member that may be missing or `null`. -/
def optional (fs : Fields) (key : String) (decode : Value → Option α) : Option (Option α) := do
  match ← member? fs key with
  | none | some .null => some none
  | some v => (decode v).map some

end Companion.Json.Decode
