/-!
# Type references

A `TypeRef` names a type the way a member signature or a base list does: by metadata name
and type arguments, as an array, as a type parameter of the enclosing declaration, or as a
value tuple. Metadata names carry the number of their type parameters
(``System.Collections.Generic.List`1``), so a reference is resolved without lookup rules.

The main operation is `TypeRef.substitute`, which puts arguments for type parameters. It
replaces all parameters at once: an argument is never searched for parameters again.
-/

namespace Companion

/-- A reference to a type. -/
inductive TypeRef where
  /-- A declared type, with type arguments if it is a constructed generic type. -/
  | named (name : String) (args : List TypeRef)
  /-- `T[]`, or `T[,]` for rank 2. -/
  | array (element : TypeRef) (rank : UInt8)
  /-- A type parameter of the enclosing declaration. -/
  | parameter (name : String)
  /-- A value tuple `(A, B)`. -/
  | tuple (elements : List TypeRef)
deriving Repr, Inhabited

namespace TypeRef

/-! ### Equality -/

mutual

/-- Equality of references is decidable. -/
def decEq : (s t : TypeRef) → Decidable (s = t)
  | named n as, named m bs =>
    have := decEqList as bs
    decidable_of_iff (n = m ∧ as = bs) (by simp)
  | array s q, array t r =>
    have := decEq s t
    decidable_of_iff (s = t ∧ q = r) (by simp)
  | parameter n, parameter m => decidable_of_iff (n = m) (by simp)
  | tuple as, tuple bs =>
    have := decEqList as bs
    decidable_of_iff (as = bs) (by simp)
  | named .., array .. | named .., parameter _ | named .., tuple _ => isFalse nofun
  | array .., named .. | array .., parameter _ | array .., tuple _ => isFalse nofun
  | parameter _, named .. | parameter _, array .. | parameter _, tuple _ => isFalse nofun
  | tuple _, named .. | tuple _, array .. | tuple _, parameter _ => isFalse nofun

/-- Equality of lists of references is decidable. -/
def decEqList : (ss ts : List TypeRef) → Decidable (ss = ts)
  | [], [] => isTrue rfl
  | s :: ss, t :: ts =>
    have := decEq s t
    have := decEqList ss ts
    decidable_of_iff (s = t ∧ ss = ts) (by simp)
  | [], _ :: _ => isFalse nofun
  | _ :: _, [] => isFalse nofun

end

instance : DecidableEq TypeRef := decEq

/-! ### Parts of a reference -/

/-- The metadata name of the definition a named reference points to. -/
def definitionName? : TypeRef → Option String
  | named name _ => some name
  | _ => none

/-- The type arguments of a constructed generic type; none for any other reference. -/
def args : TypeRef → List TypeRef
  | named _ args => args
  | _ => []

/-- The references that stand directly within a reference. -/
def parts : TypeRef → List TypeRef
  | named _ args => args
  | array element _ => [element]
  | parameter _ => []
  | tuple elements => elements

def isArray : TypeRef → Bool
  | array .. => true
  | _ => false

/-- Whether the reference names the given definition, with whatever arguments. -/
def isNamed (t : TypeRef) (definition : String) : Bool :=
  t.definitionName? == some definition

end TypeRef

/-- A type parameter of a declaration, with its constraints. -/
structure TypeParameter where
  name : String
  /-- The types in `where T : …`. -/
  constraints : List TypeRef := []
  /-- `where T : class` -/
  isReferenceType : Bool := false
  /-- `where T : struct` -/
  isValueType : Bool := false
  /-- `where T : new()` -/
  hasConstructor : Bool := false
deriving Repr, DecidableEq

/-- The constraints of the first parameter of a name; none if there is no such parameter. -/
def constraintsOf (scope : List TypeParameter) (name : String) : List TypeRef :=
  ((scope.find? (·.name == name)).map (·.constraints)).getD []

/-- Whether the parameter has a constraint of any kind. -/
def TypeParameter.isConstrained (p : TypeParameter) : Bool :=
  !p.constraints.isEmpty || p.isReferenceType || p.isValueType || p.hasConstructor

namespace TypeRef

/-! ### Substitution -/

mutual

/-- Put `σ name` for every parameter for which it gives a reference. -/
def bind (σ : String → Option TypeRef) : TypeRef → TypeRef
  | named name args => named name (bindAll σ args)
  | array element rank => array (bind σ element) rank
  | parameter name => (σ name).getD (parameter name)
  | tuple elements => tuple (bindAll σ elements)

/-- `bind` on each reference of a list. -/
def bindAll (σ : String → Option TypeRef) : List TypeRef → List TypeRef
  | [] => []
  | t :: ts => bind σ t :: bindAll σ ts

end

/-- The argument that goes to a parameter: the one at the place of the first parameter of
that name. A parameter beyond the last argument gets none. -/
def argumentOf (params : List TypeParameter) (args : List TypeRef) (name : String) :
    Option TypeRef :=
  ((params.zip args).find? fun (p, _) => p.name == name).map (·.2)

/-- Put arguments for the parameters of a declaration. Parameters without an argument, and
parameters of other declarations, are left as they are. -/
def substitute (t : TypeRef) (params : List TypeParameter) (args : List TypeRef) : TypeRef :=
  t.bind (argumentOf params args)

/-- Binding a list is binding its items. -/
theorem bindAll_eq_map (σ : String → Option TypeRef) (ts : List TypeRef) :
    bindAll σ ts = ts.map (bind σ) := by
  induction ts with
  | nil => rfl
  | cons t ts ih => simp [bindAll, ih]

end TypeRef

end Companion
