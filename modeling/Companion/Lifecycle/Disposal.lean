import Companion.Compilation.Inheritance
import Companion.Lifecycle.Methods
import Companion.Model.Names

/-!
# Hooking into the bases

Disposal and finalization run along the chain of base types. A class with disposal methods
overrides `Dispose(bool)` of the nearest base that has it; a base that gets generated code counts,
for it receives one. Failing that, it overrides the `Dispose()` of the nearest base that has it. A
class without either above it implements the interface itself.
-/

namespace Companion

/-- How the disposal of a class hooks into that of its bases; bases are named as written in
code. -/
inductive DisposeHook where
  /-- The class implements disposal itself. -/
  | own
  /-- It overrides `Dispose(bool)` of the base. -/
  | overridePattern (base : String)
  /-- It overrides `Dispose()` of the base. -/
  | overrideMethod (base : String)
  /-- The base has a `Dispose` that cannot be overridden. -/
  | blocked (base : String)
deriving Repr, DecidableEq

namespace Method

variable (m : Method)

/-- `Dispose(bool)` -/
def isDisposePattern : Bool :=
  m.name == "Dispose" && !m.isStatic &&
    match m.parameters with
    | [p] => p.type.isNamed "System.Boolean"
    | _ => false

/-- `Dispose()`, declared as such or for the interface. -/
def isPlainDispose : Bool :=
  (m.name == "Dispose" || m.name == "System.IDisposable.Dispose") && !m.isStatic &&
    m.parameters.isEmpty && m.explicitInterface.all (·.isNamed "System.IDisposable")

/-- Whether derived classes can override the method. -/
def isOverridable : Bool := (m.isVirtual || m.isAbstract || m.isOverride) && !m.isSealed

end Method

namespace TypeDef

variable (d : TypeDef)

/-- The type as code refers to it from anywhere. -/
def selfDisplay : String := d.selfRef.display

/-- Whether the type is declared in the sources at hand with a method of the kind, and so gets
generated code for it. -/
def receivesLifecycle (kind : LifecycleKind) : Bool :=
  d.origin == .source && d.declaresLifecycle kind

/-- How a derived class hooks into the `Dispose(bool)` of the type, if it has or receives one. -/
def patternHook? : Option DisposeHook :=
  if d.receivesLifecycle .disposal then some (.overridePattern d.selfDisplay)
  else
    (d.methods.find? (·.isDisposePattern)).map fun m =>
      if m.isOverridable then .overridePattern d.selfDisplay else .blocked d.selfDisplay

/-- How a derived class hooks into the `Dispose()` of the type, if it has one. -/
def methodHook? : Option DisposeHook :=
  (d.methods.find? (·.isPlainDispose)).map fun m =>
    if m.explicitInterface.isNone && m.isOverridable then .overrideMethod d.selfDisplay
    else .blocked d.selfDisplay

end TypeDef

namespace Compilation

variable (c : Compilation)

/-- How the disposal of a class hooks into that of its bases. -/
def disposeHook (d : TypeDef) : DisposeHook :=
  let bases := c.baseChain d
  (bases.findSome? (·.patternHook?) <|> bases.findSome? (·.methodHook?)).getD .own

/-- The nearest base that receives generated finalization. -/
def finalizerBase? (d : TypeDef) : Option TypeDef :=
  (c.baseChain d).find? (·.receivesLifecycle .finalization)

end Compilation

end Companion
