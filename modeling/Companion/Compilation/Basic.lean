import Companion.Compilation.CoreLibrary
import Companion.Json.Reader
import Companion.Model.Codec

/-!
# Compilations

A `Compilation` is a program whose types can be looked up by metadata name. It holds the
catalogued core types, if the program asks for them, and then the declared ones in order. Beside
the list stands an index, which gives the position of the type of a name. Both grow with each type
(`Compilation.insert`), and `Indexes` says that they fit: so no name occurs twice.
`Compilation.ofProgram` is the way to get a compilation, and refuses a program in which a name is
declared again, a catalogued one included.

References are resolved by name: arrays, tuples and parameters resolve to nothing, and so do
names that the compilation does not know.
-/

namespace Companion

/-- What makes a program unusable. -/
inductive ModelError where
  /-- The text is no program document. -/
  | malformed
  | duplicateType (name : String)
  | missingWellKnownType (name : String)
deriving Repr, DecidableEq

/-- The text that reports the error. -/
def ModelError.message : ModelError → String
  | malformed => "failed to read program model: the text is no program document"
  | duplicateType name => "type `" ++ name ++ "` is declared more than once"
  | missingWellKnownType name =>
    "required well-known type `" ++ name ++ "` is missing from the compilation"

/-- Whether an index gives, for every metadata name, the position of the one type of a list that has
it. -/
def Indexes (positions : List (String × Nat)) (types : List TypeDef) : Prop :=
  ∀ name i, positions.lookup name = some i ↔ types[i]?.map (·.fullName) = some name

/-- An index of a list whose last type has a new name: that name comes before the others. -/
theorem Indexes.cons {positions : List (String × Nat)} {types : List TypeDef} {d : TypeDef}
    (h : Indexes positions types) (hnew : positions.lookup d.fullName = none) :
    Indexes ((d.fullName, types.length) :: positions) (types ++ [d]) := by
  intro name i
  have hname : List.lookup name ((d.fullName, types.length) :: positions) =
      if name = d.fullName then some types.length else positions.lookup name := by
    by_cases heq : name = d.fullName <;> simp [List.lookup_cons, heq, beq_false_of_ne]
  rw [hname]
  rcases Nat.lt_trichotomy i types.length with hi | rfl | hi
  · -- an earlier position, whose type has not got the new name
    rw [List.getElem?_append_left hi, ← h name i]
    split
    · next heq => simp [heq, hnew, Nat.ne_of_gt hi]
    · rfl
  · rw [List.getElem?_concat_length, Option.map_some, Option.some.injEq]
    split
    · next heq => simp [heq]
    · next hne =>
      have hold := h name types.length
      rw [List.getElem?_eq_none (Nat.le_refl _)] at hold
      simpa [Ne.symm hne] using hold
  · -- no position yet
    have hold := h name i
    rw [List.getElem?_eq_none (Nat.le_of_lt hi)] at hold
    rw [List.getElem?_eq_none (by simp; omega)]
    split
    · simp [Nat.ne_of_lt hi]
    · exact hold

/-- A program: its types, and where the type of a metadata name stands among them. -/
structure Compilation where
  assembly : Assembly
  /-- The types, catalogued ones first, in the order of their declaration. -/
  types : List TypeDef
  /-- The positions of the types, under their metadata names. -/
  positions : List (String × Nat)
  indexes : Indexes positions types

namespace Compilation

/-! ### Building -/

/-- A compilation without types. -/
def empty (assembly : Assembly) : Compilation where
  assembly := assembly
  types := []
  positions := []
  indexes := by simp [Indexes]

/-- The compilation with one more type, unless its name is taken. -/
def insert (c : Compilation) (d : TypeDef) : Except ModelError Compilation :=
  match h : c.positions.lookup d.fullName with
  | some _ => .error (.duplicateType d.fullName)
  | none => .ok {
    assembly := c.assembly
    types := c.types ++ [d]
    positions := (d.fullName, c.types.length) :: c.positions
    indexes := c.indexes.cons h }

/-- The types a program is made of: the core types, if it includes them, and its own. -/
def declaredTypes (p : Program) : List TypeDef :=
  (if p.includesCoreLibrary then CoreLibrary.types else []) ++ p.types

/-- The compilation of a program. -/
def ofProgram (p : Program) : Except ModelError Compilation :=
  (declaredTypes p).foldlM insert (empty p.assembly)

/-- The compilation of a program given as a document. -/
def ofDocument (v : Json.Value) : Except ModelError Compilation :=
  match Program.decode Program.nesting v with
  | some p => ofProgram p
  | none => .error .malformed

/-- The compilation of a program given as the text of a document. -/
def ofText (text : String) : Except ModelError Compilation :=
  match Json.parse text with
  | some v => ofDocument v
  | none => .error .malformed

/-! ### Look-up -/

/-- The metadata names of all types, in order. -/
def names (c : Compilation) : List String := c.types.map (·.fullName)

/-- The types declared in the sources at hand, with their positions among all types. -/
def sourceTypes (c : Compilation) : List (Nat × TypeDef) :=
  (c.types.zipIdx.filter (·.1.origin == .source)).map fun (d, i) => (i, d)

/-- The position of the type of a name. -/
def index? (c : Compilation) (name : String) : Option Nat := c.positions.lookup name

/-- The type of a name, the one at the position of the name. -/
def type? (c : Compilation) (name : String) : Option TypeDef :=
  (c.index? name).bind (c.types[·]?)

/-- The type that is looked up by a name has that name. -/
theorem fullName_of_type? {c : Compilation} {name : String} {d : TypeDef}
    (h : c.type? name = some d) : d.fullName = name := by
  obtain ⟨i, hi, hd⟩ := Option.bind_eq_some_iff.1 h
  have hname := (c.indexes name i).1 hi
  rw [hd] at hname
  exact Option.some.inj hname

/-- Whether there is a type of a name. -/
def contains (c : Compilation) (name : String) : Bool := (c.index? name).isSome

/-- The definition a reference points to. -/
def resolve? (c : Compilation) (t : TypeRef) : Option TypeDef := t.definitionName?.bind c.type?

/-! ### Well-known types -/

/-- The types every generator relies on. -/
def wellKnownTypes : List String :=
  ["System.Object", "System.ValueType", "System.Boolean", "System.Int32", "System.String",
    "System.Enum", "System.Array", "System.Collections.ICollection", "System.IEquatable`1"]

/-- Refuse a compilation that lacks a well-known type; the first one lacking is reported. -/
def requireWellKnownTypes (c : Compilation) : Except ModelError Unit :=
  match wellKnownTypes.find? fun name => !c.contains name with
  | some name => .error (.missingWellKnownType name)
  | none => .ok ()

/-! ### Plain facts about references -/

/-- The built-in type a reference names. -/
def special? (c : Compilation) (t : TypeRef) : Option SpecialType :=
  (c.resolve? t).bind (·.special)

def isEnum (c : Compilation) (t : TypeRef) : Bool := (c.resolve? t).any (·.kind == .enum)

/-- Whether values of the type are references. A named type that is not known counts as a
class, and a parameter as a reference type. -/
def isReferenceType (c : Compilation) : TypeRef → Bool
  | t@(.named ..) => (c.resolve? t).all (·.isReferenceType)
  | .array .. | .parameter _ => true
  | .tuple _ => false

end Compilation

end Companion
