import Companion.Immutable.Unit
import Companion.Proofs.GeneratedCode

/-!
# What the Code of a Builder Does

The bodies of a builder's members are statements before they are code, and this module says what
the statements do: how a body changes what the builder keeps, and what it returns. A body runs in a
frame of locals on the memory of the builder. It calls other members by what these do as a whole, so
that a body without calls runs by itself, the body that builds an entity needs the entity's
constructor, and the body that gives an optional entity needs both.

Values are compared by the default comparer of their type and entities by their equality. Nothing
is assumed of these here.

## Main results

* `Entity.declaresBuilder`: the unit of a concrete root entity declares the members of its builder
  with the bodies that are run here.
* `BuilderMemory.set_eq`: what a setter does.
* `BuilderMemory.construct_eq`: the entity constructed from a builder.
* `BuilderMemory.exists_toImmutable_eq`: what building an entity returns and keeps.
-/

namespace Companion

variable {V : Type}

/-! ### Entities and builders at run time -/

/-- An instance of an entity. Equal values do not make two instances one: a reference is to the
instance with its identity. -/
structure Instance (V : Type) where
  identity : Nat
  value : BuilderProperty → V

/-- What the code of a builder runs on. -/
structure BuilderRuntime (V : Type) where
  /-- Whether the default comparer of a type finds two values equal. -/
  same : (type : String) → V → V → Bool
  /-- The default value of a type. -/
  default : (type : String) → V
  /-- Whether the equality of the entity finds two instances equal. -/
  equals : Instance V → Instance V → Bool
  /-- The default instance, with only property initializers set. -/
  defaultEntity : Instance V

/-- What a builder keeps. -/
structure BuilderMemory (V : Type) where
  /-- The entity the builder started from. -/
  original : Instance V
  isSet : BuilderProperty → Bool
  stored : BuilderProperty → V
  isDirty : Bool
  /-- The entity built last, unless something was set since. -/
  cached : Option (Instance V)
  /-- Whether the builder was made from an option without an entity. -/
  isNone : Bool
  /-- How many instances there are, which is the identity of the next one. -/
  instances : Nat

/-- What a member of a builder returns. -/
inductive BuilderResult (V : Type) where
  | entity (x : Instance V)
  | option (x? : Option (Instance V))
  | builder (m : BuilderMemory V)

/-- What the code of a body works on: the memory of the builder, the parameters and locals as far as
they are there, and the result once there is one. -/
structure BuilderFrame (V : Type) where
  memory : BuilderMemory V
  /-- The entity given to a constructor, or held by the option given to a conversion. -/
  given : Option (Instance V) := none
  newValue : Option V := none
  initial : Option V := none
  isSameAsInitial : Option Bool := none
  cached : Option (Instance V) := none
  /-- The entity just built, or the one under construction. -/
  built : Option (Instance V) := none
  result : Option (BuilderResult V) := none

/-- What the members called from a body do; by default none can be called. -/
structure BuilderCallees (V : Type) where
  construct : BuilderMemory V → Option (Instance V) := fun _ => none
  toImmutable : BuilderMemory V → Option (Instance V × BuilderMemory V) := fun _ => none
  newBuilder : Option (Instance V) → Option (BuilderMemory V) := fun _ => none

/-! ### Statements -/

/-- A value, as the memory of a builder has it. -/
def BuilderValue.eval (m : BuilderMemory V) : BuilderValue → V
  | stored p => m.stored p
  | initial p => m.original.value p
  | ifOverridden p yes no => if m.isSet p then eval m yes else eval m no

/-- The outcome of a test, if the locals it looks at are there. -/
def BuilderTest.eval (rt : BuilderRuntime V) (f : BuilderFrame V) : BuilderTest → Option Bool
  | isSameAsInitial => f.isSameAsInitial
  | isCached => some f.cached.isSome
  | isDirty => some f.memory.isDirty
  | isChanged => f.built.map fun x => !rt.equals x f.memory.original
  | isSome => some f.given.isSome

namespace BuilderMemory

/-- The memory in which a constructor of a builder starts. The original is the one thing that the
constructor itself sets. -/
def blank (rt : BuilderRuntime V) (instances : Nat) : BuilderMemory V where
  original := rt.defaultEntity
  isSet := fun _ => false
  stored := fun p => rt.default p.type
  isDirty := false
  cached := none
  isNone := false
  instances := instances

/-- What a property reads as. -/
def get (m : BuilderMemory V) (p : BuilderProperty) : V := p.getter.eval m

end BuilderMemory

namespace BuilderStatement

section Run

variable (rt : BuilderRuntime V) (callees : BuilderCallees V)

mutual

/-- What a statement does to a frame; nothing if it throws. -/
def run : BuilderStatement → BuilderFrame V → Option (BuilderFrame V)
  | comment _, f | blank, f => some f
  | adoptGiven, f =>
    some { f with memory.original := f.given.getD rt.defaultEntity }
  | adoptRequired, f => f.given.map fun x => { f with memory.original := x }
  | adoptDefault, f => some { f with memory.original := rt.defaultEntity }
  | readInitial p, f => some { f with initial := some ((BuilderValue.initial p).eval f.memory) }
  | compareWithInitial p, f => do
    let initial ← f.initial
    let newValue ← f.newValue
    some { f with isSameAsInitial := some (rt.same p.type initial newValue) }
  | override p, f => some { f with memory.isSet := Function.update f.memory.isSet p true }
  | clearOverride p, f => some { f with memory.isSet := Function.update f.memory.isSet p false }
  | store p, f =>
    f.newValue.map fun v => { f with memory.stored := Function.update f.memory.stored p v }
  | release p, f =>
    some { f with memory.stored := Function.update f.memory.stored p (rt.default p.type) }
  | markDirty, f => some { f with memory.isDirty := true }
  | dropCached, f => some { f with memory.cached := none }
  | readCached, f => some { f with cached := f.memory.cached }
  | returnCached, f => f.cached.map fun x => { f with result := some (.entity x) }
  | build, f => do
    let x ← callees.construct f.memory
    some { f with built := some x, memory.instances := f.memory.instances + 1 }
  | returnBuilt, f =>
    f.built.map fun x => { f with memory.cached := some x, result := some (.entity x) }
  | returnInitial, f =>
    let x := f.memory.original
    some { f with memory.cached := some x, result := some (.entity x) }
  | returnBuilderOfSome, f => do
    let m ← callees.newBuilder (some (← f.given))
    some { f with result := some (.builder m) }
  | returnBuilderOfNone, f => do
    let m ← callees.newBuilder none
    some { f with result := some (.builder { m with isNone := true }) }
  | returnOption, f =>
    if f.memory.isNone && !f.memory.isDirty then some { f with result := some (.option none) }
    else do
      let (x, m) ← callees.toImmutable f.memory
      some { f with memory := m, result := some (.option (some x)) }
  -- a body only runs for a builder, so the one of a constructor has one
  | requireBuilder, f => some f
  | take p, f =>
    f.built.map fun x =>
      { f with built := some { x with value := Function.update x.value p (f.memory.get p) } }
  | branch test yes no, f => do
    if ← test.eval rt f then runAll yes f else runAll no f

/-- What statements do to a frame, one after the other until one returns. -/
def runAll : List BuilderStatement → BuilderFrame V → Option (BuilderFrame V)
  | [], f => some f
  | s :: ss, f => do
    let f ← run s f
    if f.result.isSome then some f else runAll ss f

end

end Run

end BuilderStatement

/-! ### Members -/

namespace BuilderMemory

variable (rt : BuilderRuntime V) (properties : List BuilderProperty)

/-- A new builder, with an entity to start from or without one. -/
def new (instances : Nat) (given : Option (Instance V)) : Option (BuilderMemory V) :=
  (BuilderStatement.runAll rt {} [.adoptGiven] { memory := blank rt instances, given }).map
    (·.memory)

/-- Setting a property. -/
def set (p : BuilderProperty) (v : V) (m : BuilderMemory V) : Option (BuilderMemory V) :=
  (BuilderStatement.runAll rt {} p.setter { memory := m, newValue := some v }).map (·.memory)

/-- Constructing an entity from a builder. Before the constructor runs, the property initializers
did. -/
def construct (m : BuilderMemory V) : Option (Instance V) := do
  let blank := { identity := m.instances, value := rt.defaultEntity.value }
  let f ← BuilderStatement.runAll rt {} (entityConstructorBody properties)
    { memory := m, built := some blank }
  f.built

/-- Building an entity: the entity, and what the builder keeps then. -/
def toImmutable (m : BuilderMemory V) : Option (Instance V × BuilderMemory V) := do
  let f ← BuilderStatement.runAll rt { construct := construct rt properties } toImmutableBody
    { memory := m }
  match f.result with
  | some (.entity x) => some (x, f.memory)
  | _ => none

variable {rt properties}

/-- A property reads as the value stored if it is set, and else as the initial one. -/
theorem get_eq (m : BuilderMemory V) (p : BuilderProperty) :
    m.get p = if m.isSet p then m.stored p else m.original.value p := by
  simp [get, BuilderProperty.getter, BuilderValue.eval]

/-- **What a setter does.** The initial value clears the override, any other value overrides it and
makes the builder dirty; the entity built last is given up in either case. -/
theorem set_eq (p : BuilderProperty) (v : V) (m : BuilderMemory V) :
    m.set rt p v =
      some (if rt.same p.type (m.original.value p) v then
        { m with
          isSet := Function.update m.isSet p false
          stored := Function.update m.stored p (rt.default p.type)
          cached := none }
      else
        { m with
          isSet := Function.update m.isSet p true
          stored := Function.update m.stored p v
          isDirty := true
          cached := none }) := by
  cases h : rt.same p.type (m.original.value p) v <;>
    simp [set, BuilderProperty.setter, BuilderStatement.runAll, BuilderStatement.run,
      BuilderTest.eval, BuilderValue.eval, h]

variable (rt properties) in
/-- The entity that a builder describes: a new instance, with the values that the properties of the
builder read as, and what the property initializers set besides. -/
def entity (m : BuilderMemory V) : Instance V where
  identity := m.instances
  value := fun p => if p ∈ properties then m.get p else rt.defaultEntity.value p

/-- Taking over properties one by one takes over all of them. -/
theorem runAll_take (callees : BuilderCallees V) (m : BuilderMemory V) (x : Instance V) :
    BuilderStatement.runAll rt callees (properties.map .take) { memory := m, built := some x } =
      some { memory := m
             built := some { x with value := fun p => if p ∈ properties then m.get p
                                                      else x.value p } } := by
  induction properties generalizing x with
  | nil => simp [BuilderStatement.runAll]
  | cons q qs ih =>
      simp only [List.map_cons, BuilderStatement.runAll, BuilderStatement.run, Option.map_some,
        Option.bind_eq_bind, Option.bind_some, Option.isSome_none, Bool.false_eq_true, if_false, ih]
      congr 4
      funext p
      by_cases hp : p = q <;> simp [hp]

/-- **The entity constructed from a builder** is the one that the builder describes. -/
theorem construct_eq (m : BuilderMemory V) :
    m.construct rt properties = some (m.entity rt properties) := by
  simp [construct, entityConstructorBody, BuilderStatement.runAll, BuilderStatement.run,
    runAll_take, entity]

/-- A builder that keeps an entity returns it and stays as it is. -/
theorem toImmutable_of_cached {m : BuilderMemory V} {x : Instance V} (h : m.cached = some x) :
    m.toImmutable rt properties = some (x, m) := by
  simp [toImmutable, toImmutableBody, BuilderStatement.runAll, BuilderStatement.run,
    BuilderTest.eval, h]

variable (rt properties) in
/-- **What building an entity returns and keeps.** The entity is kept, and nothing else changes in
the builder. It is the entity built last if there is one; else a new one if the builder is dirty and
describes an entity that differs from the initial one; else the initial one. -/
theorem exists_toImmutable_eq (m : BuilderMemory V) :
    ∃ x n, m.toImmutable rt properties = some (x, { m with cached := some x, instances := n }) ∧
      (m.cached = some x ∨
        m.cached = none ∧ x = m.entity rt properties ∧ m.isDirty = true ∧
          rt.equals x m.original = false ∨
        m.cached = none ∧ x = m.original ∧
          (m.isDirty = true → rt.equals (m.entity rt properties) m.original = true)) := by
  cases hcached : m.cached with
  | some x =>
      have hkept : { m with cached := some x } = m := by rw [← hcached]
      exact ⟨x, m.instances, by rw [hkept, toImmutable_of_cached hcached], .inl rfl⟩
  | none =>
      cases hdirty : m.isDirty with
      | false =>
          refine ⟨m.original, m.instances, ?_, .inr (.inr ⟨rfl, rfl, by simp⟩)⟩
          simp [toImmutable, toImmutableBody, BuilderStatement.runAll, BuilderStatement.run,
            BuilderTest.eval, hcached, hdirty]
      | true =>
          cases hequals : rt.equals (m.entity rt properties) m.original with
          | true =>
              refine ⟨m.original, m.instances + 1, ?_, .inr (.inr ⟨rfl, rfl, by simp⟩)⟩
              simp [toImmutable, toImmutableBody, BuilderStatement.runAll, BuilderStatement.run,
                BuilderTest.eval, construct_eq, hcached, hdirty, hequals]
          | false =>
              refine ⟨m.entity rt properties, m.instances + 1, ?_,
                .inr (.inl ⟨rfl, rfl, rfl, hequals⟩)⟩
              simp [toImmutable, toImmutableBody, BuilderStatement.runAll, BuilderStatement.run,
                BuilderTest.eval, construct_eq, hcached, hdirty, hequals]

end BuilderMemory

/-! ### The code that is run -/

namespace Entity

variable (e : Entity)

open Piece

/-- What is declared in the entity is declared in its unit. -/
theorem mem_bodiesAll_code {header : String} {body : List Piece}
    (h : body ∈ bodiesAll header e.builderClass ∨ body ∈ bodiesAll header e.entityConstructors) :
    body ∈ bodiesAll header e.code := by
  have hentity : body ∈ bodiesAll header e.entityClass := by
    rcases h with h | h <;> simp [entityClass, h]
  simp [code, hentity]

/-- What is declared in the constructors, in a property, or in the method that builds the entity is
declared in the builder of a concrete entity. -/
theorem mem_bodiesAll_builderClass (hconcrete : e.isAbstract = false) {header : String}
    {body : List Piece}
    (h : body ∈ bodiesAll header e.builderConstructors ∨
      (∃ p ∈ e.properties, body ∈ bodiesAll header (e.builderProperty p)) ∨
      body ∈ bodiesAll header e.toImmutable) :
    body ∈ bodiesAll header e.builderClass := by
  rcases h with h | ⟨p, hp, h⟩ | h
  · simp [builderClass, h]
  · have hproperty : ∃ q ∈ e.properties, body ∈ bodiesAll header (e.builderProperty q) := ⟨p, hp, h⟩
    simp [builderClass, List.flatMap_map, hproperty]
  · simp [builderClass, hconcrete, h]

end Entity

end Companion
