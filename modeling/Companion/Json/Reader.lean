import Companion.Json.Value

/-!
# Reading JSON text

`parse` reads one document from a text, and nothing else may stand in the text but blanks.
The grammar is the strict one: no comments, no trailing commas, no leading zeros or plus
signs, no raw control characters in strings.

The parts of the reader return what they read together with the rest of the text. Nesting is
not limited here; a decoder that has a limit counts the levels of the tree.
-/

namespace Companion.Json

namespace Reader

/-- The text after its leading blanks. -/
def skipBlanks : List Char → List Char
  | c :: rest =>
    if c == ' ' || c == '\t' || c == '\n' || c == '\r' then skipBlanks rest else c :: rest
  | [] => []

/-! ### Strings -/

/-- The value of a hexadecimal digit, of either case. -/
def hexDigit? (c : Char) : Option Nat :=
  if '0' ≤ c ∧ c ≤ '9' then some (c.toNat - '0'.toNat)
  else if 'a' ≤ c ∧ c ≤ 'f' then some (c.toNat - 'a'.toNat + 10)
  else if 'A' ≤ c ∧ c ≤ 'F' then some (c.toNat - 'A'.toNat + 10)
  else none

/-- The 16-bit unit four hexadecimal digits name. -/
def unit? (a b c d : Char) : Option Nat := do
  return (((← hexDigit? a) * 16 + (← hexDigit? b)) * 16 + (← hexDigit? c)) * 16 + (← hexDigit? d)

/-- The character a one-letter escape stands for. -/
def escape? : Char → Option Char
  | '"' => some '"'
  | '\\' => some '\\'
  | '/' => some '/'
  | 'b' => some '\x08'
  | 'f' => some '\x0c'
  | 'n' => some '\n'
  | 'r' => some '\r'
  | 't' => some '\t'
  | _ => none

/-- The first half of a surrogate pair. -/
def isHighSurrogate (n : Nat) : Bool := 0xD800 ≤ n && n < 0xDC00

/-- The second half of a surrogate pair. -/
def isLowSurrogate (n : Nat) : Bool := 0xDC00 ≤ n && n < 0xE000

/-- The character a surrogate pair stands for. -/
def pairChar (high low : Nat) : Char :=
  Char.ofNat (0x10000 + (high - 0xD800) * 0x400 + (low - 0xDC00))

/-- What has been read of a string literal. -/
structure Partial where
  /-- The characters so far, last first; `none` once an unpaired surrogate was named. -/
  chars : Option (List Char) := some []
  /-- A first half whose second half has to follow at once. -/
  pending : Option Nat := none

namespace Partial

/-- A character is read. -/
def push (p : Partial) (c : Char) : Partial :=
  match p.pending with
  | none => ⟨p.chars.map (c :: ·), none⟩
  | some _ => ⟨none, none⟩

/-- An escape that names a 16-bit unit is read. -/
def pushUnit (p : Partial) (n : Nat) : Partial :=
  match p.pending with
  | some high => if isLowSurrogate n then ⟨p.chars.map (pairChar high n :: ·), none⟩ else ⟨none, none⟩
  | none =>
    if isHighSurrogate n then ⟨p.chars, some n⟩
    else if isLowSurrogate n then ⟨none, none⟩
    else p.push (Char.ofNat n)

/-- The text read, if it is one. -/
def text? (p : Partial) : Option String :=
  match p.pending with
  | none => p.chars.map fun cs => String.ofList cs.reverse
  | some _ => none

end Partial

/-- The rest of a string literal, behind what has been read of it. -/
def string (p : Partial) : List Char → Option (Option String × List Char)
  | '"' :: rest => some (p.text?, rest)
  | '\\' :: 'u' :: a :: b :: c :: d :: rest =>
    match unit? a b c d with
    | some n => string (p.pushUnit n) rest
    | none => none
  | '\\' :: c :: rest =>
    match escape? c with
    | some e => string (p.push e) rest
    | none => none
  | c :: rest => if c.toNat < 0x20 then none else string (p.push c) rest
  | [] => none

/-! ### Numbers -/

/-- A run of digits, appended to the number `n`; with it how many there were. -/
def digits (n count : Nat) : List Char → Nat × Nat × List Char
  | c :: rest =>
    if c.isDigit then digits (n * 10 + (c.toNat - '0'.toNat)) (count + 1) rest
    else (n, count, c :: rest)
  | [] => (n, count, [])

/-- The digits of an exponent, behind its sign; at least one. -/
def exponentDigits (s : List Char) : Option (Nat × List Char) :=
  match digits 0 0 s with
  | (_, 0, _) => none
  | (n, _, rest) => some (n, rest)

/-- An exponent, if the text starts with one; a letter without digits is refused. -/
def exponent : List Char → Option (Option Int × List Char)
  | c :: rest =>
    if c == 'e' || c == 'E' then
      match rest with
      | '-' :: rest => (exponentDigits rest).map fun (n, rest) => (some (-(n : Int)), rest)
      | '+' :: rest => (exponentDigits rest).map fun (n, rest) => (some (n : Int), rest)
      | rest => (exponentDigits rest).map fun (n, rest) => (some (n : Int), rest)
    else some (none, c :: rest)
  | [] => some (none, [])

/-- Fraction and exponent behind the integer part `whole`. -/
def numberTail (negative : Bool) (whole : Nat) : List Char → Option (Number × List Char)
  | '.' :: rest =>
    match digits whole 0 rest with
    | (_, 0, _) => none
    | (n, places, rest) =>
      (exponent rest).map fun (e, rest) => (.decimal negative n (e.getD 0 - places), rest)
  | rest =>
    (exponent rest).map fun
      | (some e, rest) => (.decimal negative whole e, rest)
      | (none, rest) => (.integer negative whole, rest)

/-- A number behind its sign. The integer part is one zero or starts with another digit. -/
def unsignedNumber (negative : Bool) : List Char → Option (Number × List Char)
  | '0' :: c :: rest => if c.isDigit then none else numberTail negative 0 (c :: rest)
  | s =>
    match digits 0 0 s with
    | (_, 0, _) => none
    | (n, _, rest) => numberTail negative n rest

/-- A number literal. -/
def number : List Char → Option (Number × List Char)
  | '-' :: rest => unsignedNumber true rest
  | rest => unsignedNumber false rest

/-! ### Values -/

mutual

/-- One value, blanks before it allowed. The count bounds the steps; every step but one in
two takes a character off the text. -/
def value : Nat → List Char → Option (Value × List Char)
  | 0, _ => none
  | steps + 1, s =>
    match skipBlanks s with
    | '{' :: rest =>
      match skipBlanks rest with
      | '}' :: rest => some (.object [], rest)
      | rest => members steps [] rest
    | '[' :: rest =>
      match skipBlanks rest with
      | ']' :: rest => some (.array [], rest)
      | rest => items steps [] rest
    | '"' :: rest => (string {} rest).map fun (s, rest) => (.string s, rest)
    | 't' :: 'r' :: 'u' :: 'e' :: rest => some (.bool true, rest)
    | 'f' :: 'a' :: 'l' :: 's' :: 'e' :: rest => some (.bool false, rest)
    | 'n' :: 'u' :: 'l' :: 'l' :: rest => some (.null, rest)
    | rest => (number rest).map fun (n, rest) => (.number n, rest)

/-- The items of an array from the next one on; `acc` holds those before it, last first. -/
def items : Nat → List Value → List Char → Option (Value × List Char)
  | 0, _, _ => none
  | steps + 1, acc, s =>
    match value steps s with
    | none => none
    | some (v, rest) =>
      match skipBlanks rest with
      | ',' :: rest => items steps (v :: acc) rest
      | ']' :: rest => some (.array (v :: acc).reverse, rest)
      | _ => none

/-- The members of an object from the next one on; `acc` holds those before it, last first. -/
def members : Nat → List (Option String × Value) → List Char → Option (Value × List Char)
  | 0, _, _ => none
  | steps + 1, acc, s =>
    match skipBlanks s with
    | '"' :: rest =>
      match string {} rest with
      | none => none
      | some (key, rest) =>
        match skipBlanks rest with
        | ':' :: rest =>
          match value steps rest with
          | none => none
          | some (v, rest) =>
            match skipBlanks rest with
            | ',' :: rest => members steps ((key, v) :: acc) rest
            | '}' :: rest => some (.object ((key, v) :: acc).reverse, rest)
            | _ => none
        | _ => none
    | _ => none

end

/-- One value at the start of the text, and the text behind it. -/
def leading (s : List Char) : Option (Value × List Char) :=
  value (2 * s.length + 2) s

end Reader

/-- The document a text holds; `none` when it is not one JSON value between blanks. -/
def parse (text : String) : Option Value :=
  match Reader.leading text.toList with
  | some (v, rest) => if (Reader.skipBlanks rest).isEmpty then some v else none
  | none => none

end Companion.Json
