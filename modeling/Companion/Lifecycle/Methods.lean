import Companion.Model.TypeDef
import Companion.Vocabulary

/-!
# Lifecycle methods

A class marks the methods that take part in the construction, the disposal and the finalization
of its instances. The construction methods are called by one method whose parameters are merged
from theirs by name: parameters of one name are one parameter and must agree in type and default
value. Where they disagree, the first one stands.
-/

namespace Companion

/-- What part of the life of an instance a method takes part in. -/
inductive LifecycleKind where
  | construction
  | disposal
  | finalization
deriving Repr, DecidableEq

namespace LifecycleKind

def all : List LifecycleKind := [.construction, .disposal, .finalization]

/-- The class of the attribute that marks the methods. -/
def marker : LifecycleKind → String
  | construction => Vocabulary.constructorMethod
  | disposal => Vocabulary.disposeMethod
  | finalization => Vocabulary.finalizerMethod

/-- The mark as source code writes it. -/
def label : LifecycleKind → String
  | construction => "[ConstructorMethod]"
  | disposal => "[DisposeMethod]"
  | finalization => "[FinalizerMethod]"

/-- Whether a method is marked. -/
def marks (kind : LifecycleKind) (m : Method) : Bool := hasAttribute m.attributes kind.marker

end LifecycleKind

namespace TypeDef

variable (d : TypeDef)

/-- The methods marked for a part of the life of an instance, in order. -/
def lifecycleMethods (kind : LifecycleKind) : List Method := d.methods.filter kind.marks

/-- Whether the type declares a method marked so. -/
def declaresLifecycle (kind : LifecycleKind) : Bool := d.methods.any kind.marks

/-- Whether the type asks for lifecycle code: a class of the sources at hand that declares a
marked method. -/
def requestsLifecycle : Bool :=
  d.origin == .source && d.kind == .class && LifecycleKind.all.any d.declaresLifecycle

end TypeDef

/-! ### Merging parameters -/

/-- Two methods that use a parameter name differently. -/
structure ParameterConflict where
  name : String
  /-- The method that uses the name first. -/
  first : Method
  /-- The method that disagrees with it. -/
  second : Method
deriving Repr

/-- The parameters of methods, each with its method. -/
def parameterUses (methods : List Method) : List (Parameter × Method) :=
  methods.flatMap fun m => m.parameters.map (·, m)

/-- The first use of each name, in order. -/
def firstUses : List (Parameter × Method) → List (Parameter × Method)
  | [] => []
  | use :: uses => use :: (firstUses uses).filter fun other => other.1.name != use.1.name

/-- The parameters of methods merged by name. Required parameters come first, then those with a
default value, both in the order of their first use. -/
def mergedParameters (methods : List Method) : List Parameter :=
  let merged := (firstUses (parameterUses methods)).map (·.1)
  merged.filter (·.defaultValue.isNone) ++ merged.filter (·.defaultValue.isSome)

/-- The uses of a name that differ from its first use in type or default value. -/
def parameterConflicts (methods : List Method) : List ParameterConflict :=
  let uses := parameterUses methods
  let first := firstUses uses
  uses.filterMap fun (p, m) =>
    match first.find? (·.1.name == p.name) with
    | some (kept, method) => if kept = p then none else some ⟨p.name, method, m⟩
    | none => none

end Companion
