import Companion.Compilation.Inheritance
import Companion.Compilation.Supertypes

/-!
# Members of a type and of its bases

`MemberQuery` says which members are wanted; `Compilation.members` lists them in the order of
their declaration, each with the type that declares it. By convention of names a type may
declare how one of its members is hashed (`GetHash_<Member>`) and compared
(`<Member>_CustomComparer`).
-/

namespace Companion

/-- Which members are wanted. -/
structure MemberQuery where
  properties : Bool := false
  fields : Bool := false
  methods : Bool := false
  /-- Members less accessible than this are left out. -/
  atLeast : Accessibility := .private
  includesStatic : Bool := false
  /-- Whether the members of the base types follow, nearest base first. -/
  includesInherited : Bool := false
deriving Repr, DecidableEq

/-- Whether a member is wanted. A property counts by the accessibility of its getter; members
made up by the compiler never are. -/
def MemberQuery.accepts (q : MemberQuery) (m : Member) : Bool :=
  let (wanted, implicit, accessibility) :=
    match m with
    | .property p => (q.properties, p.isImplicit, p.getterAccessibility)
    | .field f => (q.fields, f.isImplicit, f.accessibility)
    | .method m => (q.methods, false, m.accessibility)
  wanted && !implicit && q.atLeast ≤ accessibility && (q.includesStatic || !m.isStatic)

/-- A member that says how another one is hashed or compared. -/
structure CustomMember where
  name : String
  location : Option Location
deriving Repr, DecidableEq

/-- The method `static int GetHash_<member>(value)` that the type declares for a member. -/
def TypeDef.customHash? (d : TypeDef) (member : String) (type : TypeRef) : Option CustomMember :=
  (d.methods.find? fun m =>
    m.isStatic && m.name == "GetHash_" ++ member && m.returnType.isNamed "System.Int32" &&
      (m.parameters.map (·.type) == [type])).map fun m => ⟨m.name, m.location⟩

namespace Compilation

variable (c : Compilation)

/-- The members wanted, each with the type that declares it. -/
def members (d : TypeDef) (q : MemberQuery) : List (TypeDef × Member) :=
  let owners :=
    if q.includesInherited then
      d :: (c.baseChain d).filter (·.fullName != "System.Object")
    else [d]
  owners.flatMap fun owner => (owner.members.filter q.accepts).map (owner, ·)

/-- Whether a type may be an equality comparer: it implements the interface or is not known. -/
def maybeComparer (t : TypeRef) : Bool :=
  (c.implements? t "System.Collections.Generic.IEqualityComparer`1").isSome ||
    (c.resolve? t).isNone

/-- The static property or field `<member>_CustomComparer` that the type declares for a
member. -/
def customComparer? (d : TypeDef) (member : String) : Option CustomMember :=
  let name := member ++ "_CustomComparer"
  d.members.findSome? fun
    | .property p =>
      if p.isStatic && p.name == name && c.maybeComparer p.type then some ⟨name, p.location⟩
      else none
    | .field f =>
      if f.isStatic && f.name == name && c.maybeComparer f.type then some ⟨name, f.location⟩
      else none
    | .method _ => none

end Compilation

end Companion
