import Companion.Equality.Base
import Companion.Immutable.Base
import Companion.Lifecycle.Methods

/-!
# Which types get which units

A `Plan` lists, for each generator, the types that get a unit. Each list is in the order of the
simple names and, among types of one simple name, of the metadata names. The order depends on
the types alone and not on the order in which they are declared.
-/

namespace Companion

namespace TypeDef

/-- Whether one type comes before another in a plan, or is the same. -/
def precedes (d e : TypeDef) : Bool :=
  d.name < e.name || (d.name == e.name && d.fullName ≤ e.fullName)

/-- Put a type into an ordered list, before the first type that it precedes. -/
def insertOrdered (d : TypeDef) : List TypeDef → List TypeDef
  | [] => [d]
  | e :: es => if d.precedes e then d :: e :: es else e :: insertOrdered d es

/-- The types in the order of a plan. -/
def inOrder : List TypeDef → List TypeDef
  | [] => []
  | d :: ds => d.insertOrdered (inOrder ds)

theorem insertOrdered_perm (d : TypeDef) (ds : List TypeDef) :
    (d.insertOrdered ds).Perm (d :: ds) := by
  induction ds with
  | nil => exact .refl _
  | cons e es ih =>
    simp only [insertOrdered]
    split
    · exact .refl _
    · exact (ih.cons e).trans (.swap d e es)

/-- Ordering types neither loses nor repeats one. -/
theorem inOrder_perm (ds : List TypeDef) : (inOrder ds).Perm ds := by
  induction ds with
  | nil => exact .refl _
  | cons d ds ih => exact (insertOrdered_perm d _).trans (ih.cons d)

end TypeDef

/-- The types that get a unit from each generator, in the order of their units. -/
structure Plan where
  equality : List TypeDef := []
  immutable : List TypeDef := []
  lifecycle : List TypeDef := []

namespace Plan

/-- The types of the sources at hand that satisfy a condition, in the order of a plan. -/
def select (c : Compilation) (wanted : TypeDef → Bool) : List TypeDef :=
  TypeDef.inOrder ((c.types.filter (·.origin == .source)).filter wanted)

/-- Whether a type gets equality: because it asks for it, or because it is an entity that gets
equality too. -/
def wantsEquality (c : Compilation) (config : Config) (d : TypeDef) : Bool :=
  (c.requestsImmutable d && config.generatesEquality c d) || c.requestsEquality d

/-- The plan for a compilation. -/
def of (c : Compilation) (config : Config) : Plan where
  equality := select c (wantsEquality c config)
  immutable := select c c.requestsImmutable
  lifecycle := select c (·.requestsLifecycle)

/-- The number of units. -/
def size (plan : Plan) : Nat :=
  plan.equality.length + plan.immutable.length + plan.lifecycle.length

def isEmpty (plan : Plan) : Bool := plan.size == 0

end Plan

end Companion
